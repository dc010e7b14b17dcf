import EventRouting.Proofs.Grammar.Calls
import EventRouting.Proofs.Grammar.Places
import EventRouting.Proofs.RuleText.Accepted

set_option autoImplicit false

namespace EventRouting.RuleText

open Text Grammar

variable {cursor place : Cursor} {level name : Level}

/-- What is ahead, and how loose the level is. -/
def height (call : Level × Cursor) : Nat := 4 * call.2.ahead.length + rank call.1

theorem rank_pos (level : Level) : 0 < rank level := by
  cases level <;> decide

theorem rank_le (level : Level) : rank level ≤ 4 := by
  cases level <;> decide

theorem height_lt_of_shorter (shorter : place.ahead.length < cursor.ahead.length) :
    height (name, place) < height (level, cursor) := by
  have top := rank_le name
  have bottom := rank_pos level
  simp only [height]
  omega

@[simp] theorem not_mayCall_someBlanks : ¬ MayCall definitions someBlanks cursor name place := by
  simp [someBlanks, blanks]

@[simp] theorem not_mayCall_network : ¬ MayCall definitions network cursor name place := by
  simp [network, token]

@[simp] theorem not_mayCall_value : ¬ MayCall definitions value cursor name place := by
  simp [value, mark, literal, token]

@[simp] theorem not_mayCall_keyword {word : String} :
    ¬ MayCall definitions (keyword word) cursor name place := by
  simp [keyword, Grammar.word]

@[simp] theorem not_mayCall_basic : ¬ MayCall definitions basic cursor name place := by
  simp [basic, matchTail, nonMatchTail, mark, literal, token, blanks]

theorem shorter_of_parentheses (called : MayCall definitions parentheses cursor name place) :
    place.ahead.length < cursor.ahead.length := by
  rw [parentheses, mayCall_sequence_cons] at called
  rcases called with called | ⟨_, opened, opening, called⟩
  · simp [mark, literal] at called
  have shorter : opened.ahead.length < cursor.ahead.length := by
    have length := (yields_mark opening).1.length
    simp only [open_letters, List.length_singleton] at length
    omega
  rw [mayCall_sequence_cons] at called
  rcases called with called | ⟨_, after, _, called⟩
  · rw [mayCall_forward] at called
    rwa [called.2]
  · simp [mark, literal] at called

theorem shorter_of_negation (called : MayCall definitions negation cursor name place) :
    place.ahead.length < cursor.ahead.length := by
  rw [negation, mayCall_map, mayCall_andThen] at called
  rcases called with called | ⟨_, worded, wording, called⟩
  · exact absurd called not_mayCall_keyword
  have shorter : worded.ahead.length < cursor.ahead.length := by
    obtain ⟨written, spans, spells⟩ := yields_keyword no_word wording
    have length := spans.length
    rw [spells.length, no_letters] at length
    simp only [List.length_cons, List.length_nil] at length
    omega
  rw [mayCall_union] at called
  obtain ⟨alternative, inside, called⟩ := called
  rw [List.mem_cons, List.mem_singleton] at inside
  rcases inside with rfl | rfl
  · rw [mayCall_andThen] at called
    rcases called with called | ⟨_, spaced, spacing, called⟩
    · exact absurd called not_mayCall_someBlanks
    · obtain ⟨_, spans, -⟩ := yields_someBlanks spacing
      have before := spans.length_le
      have inner := shorter_of_parentheses called
      omega
  · rw [mayCall_andThen] at called
    rcases called with called | ⟨_, spaced, spacing, called⟩
    · simp [blanks] at called
    · obtain ⟨_, spans, -⟩ := yields_blanks spacing
      have before := spans.length_le
      rw [mayCall_forward] at called
      rw [called.2]
      omega

/-- An operand is called where the chain begins, and the rest of the chain further on. -/
theorem calls_of_chain {operand same : Level} {word : String} {kind : Junction}
    (known : ∀ letter ∈ word.toList, IsWordLetter letter) (some : word.toList ≠ [])
    (called : MayCall definitions (chain operand same word kind) cursor name place) :
    (name = operand ∧ place = cursor) ∨ place.ahead.length < cursor.ahead.length := by
  rw [chain, mayCall_step, mayCall_forward] at called
  rcases called with called | ⟨_, after, first, tail, inside, called⟩
  · exact Or.inl called
  obtain ⟨_, spans⟩ := first.spans
  have before := spans.length_le
  rw [List.mem_cons, List.mem_singleton] at inside
  rcases inside with rfl | rfl
  · rw [mayCall_andThen] at called
    rcases called with called | ⟨_, joined, joint, called⟩
    · simp [gap] at called
    · obtain ⟨front, written, back, joins⟩ := yields_joint known some joint
      have shorter := joins.shorter
      have positive := List.length_pos_of_ne_nil some
      rw [mayCall_forward] at called
      rw [called.2]
      exact Or.inr (by omega)
  · simp [epsilon] at called

theorem calls_of_unary (called : MayCall definitions
      (.union [negation, parentheses, basic]) cursor name place) :
    place.ahead.length < cursor.ahead.length := by
  rw [mayCall_union] at called
  obtain ⟨alternative, inside, called⟩ := called
  simp only [List.mem_cons, List.not_mem_nil, or_false] at inside
  rcases inside with rfl | rfl | rfl
  · exact shorter_of_negation called
  · exact shorter_of_parentheses called
  · exact absurd called not_mayCall_basic

theorem calls_of_expression
    (called : MayCall definitions ((someBlanks.andThen (.forward .disjunction)).andSkip someBlanks)
      cursor name place) :
    name = .disjunction ∧ place.ahead.length ≤ cursor.ahead.length := by
  rw [mayCall_andSkip] at called
  rcases called with called | ⟨_, after, _, called⟩
  · rw [mayCall_andThen] at called
    rcases called with called | ⟨_, spaced, spacing, called⟩
    · exact absurd called not_mayCall_someBlanks
    · obtain ⟨_, spans, -⟩ := yields_someBlanks spacing
      rw [mayCall_forward] at called
      rw [called.2]
      exact ⟨called.1, spans.length_le⟩
  · exact absurd called not_mayCall_someBlanks

theorem height_lt_of_callsInside {later earlier : Level × Cursor}
    (inside : CallsInside definitions later earlier) : height later < height earlier := by
  obtain ⟨name, place⟩ := later
  obtain ⟨level, cursor⟩ := earlier
  obtain ⟨grammar, found, called⟩ := inside
  cases level with
  | unary =>
    obtain rfl := Option.some.inj found
    exact height_lt_of_shorter (calls_of_unary called)
  | conjunction =>
    obtain rfl := Option.some.inj found
    rcases calls_of_chain (by simp [and_letters, IsWordLetter]) (by simp [and_letters]) called with
      ⟨rfl, rfl⟩ | shorter
    · exact Nat.lt_succ_self _
    · exact height_lt_of_shorter shorter
  | disjunction =>
    obtain rfl := Option.some.inj found
    rcases calls_of_chain (by simp [or_letters, IsWordLetter]) (by simp [or_letters]) called with
      ⟨rfl, rfl⟩ | shorter
    · exact Nat.lt_succ_self _
    · exact height_lt_of_shorter shorter
  | expression =>
    obtain rfl := Option.some.inj found
    have further : name = .disjunction ∧ place.ahead.length ≤ cursor.ahead.length :=
      calls_of_expression called
    rw [further.1]
    change 4 * place.ahead.length + 3 < 4 * cursor.ahead.length + 4
    omega

theorem find?_ne_none (level : Level) : definitions.find? level ≠ none := by
  cases level <;> exact Option.some_ne_none _

/-- Every level comes to an outcome, wherever it is called. -/
theorem derives_ok (grammar : RuleGrammar) (cursor : Cursor) :
    ∃ outcome, Derives definitions grammar cursor (.ok outcome) := by
  have wellFounded : WellFounded (CallsInside definitions) :=
    Subrelation.wf height_lt_of_callsInside (measure height).wf
  obtain ⟨result, derived⟩ := derives_of_wellFounded wellFounded grammar cursor
  obtain ⟨outcome, rfl⟩ := derived.eq_ok find?_ne_none
  exact ⟨outcome, derived⟩

/-- The scanner takes no more than there is. -/
def Bounded (read : Cursor → Option (Phrase × Nat)) : Prop :=
  ∀ cursor value count, read cursor = some (value, count) → count ≤ cursor.ahead.length

theorem bounded_token {Value : Type} (read : List Char → Option (Value × List Char))
    (phrase : Value → Phrase) :
    EveryScan Bounded (token read phrase) := by
  refine .scan fun cursor value count scanned => ?_
  rw [Option.map_eq_some_iff] at scanned
  obtain ⟨found, -, same⟩ := scanned
  obtain ⟨-, rfl⟩ := Prod.mk.inj same
  exact Nat.sub_le _ _

theorem bounded_mark (sign : String) (phrase : Phrase) : EveryScan Bounded (mark sign phrase) := by
  refine .scan fun cursor value count scanned => ?_
  rw [Option.ite_none_right_eq_some, List.isPrefixOf_iff_prefix] at scanned
  obtain ⟨-, rfl⟩ := Prod.mk.inj (Option.some.inj scanned.2)
  exact scanned.1.length_le

theorem length_spelled?_le {word text written : List Char} (spelled : spelled? word text = some written) :
    written.length ≤ text.length := by
  fun_induction spelled? word text generalizing written with
  | case1 =>
    obtain rfl := Option.some.inj spelled
    exact Nat.zero_le _
  | case3 expected word c text same ih =>
    rw [Option.map_eq_some_iff] at spelled
    obtain ⟨more, spelled, rfl⟩ := spelled
    exact Nat.succ_le_succ (ih spelled)
  | _ => contradiction

theorem bounded_keyword (word : String) : EveryScan Bounded (keyword word) := by
  refine .scan fun cursor value count scanned => ?_
  rw [Option.map_eq_some_iff] at scanned
  obtain ⟨written, spelled, same⟩ := scanned
  obtain ⟨-, rfl⟩ := Prod.mk.inj same
  exact length_spelled?_le spelled

theorem bounded_blanks : EveryScan Bounded blanks := by
  refine .scan fun cursor value count scanned => ?_
  split at scanned
  · contradiction
  · obtain ⟨-, rfl⟩ := Prod.mk.inj (Option.some.inj scanned)
    exact (List.takeWhile_prefix _).length_le

theorem bounded_gap : EveryScan Bounded gap := by
  refine .scan fun cursor value count scanned => ?_
  dsimp only at scanned
  rw [Option.ite_none_right_eq_some] at scanned
  obtain ⟨-, rfl⟩ := Prod.mk.inj (Option.some.inj scanned.2)
  exact (List.takeWhile_prefix _).length_le

theorem bounded_epsilon (value : Phrase) : EveryScan Bounded (.epsilon value : RuleGrammar) := by
  refine .scan fun cursor value count scanned => ?_
  obtain ⟨-, rfl⟩ := Prod.mk.inj (Option.some.inj scanned)
  exact Nat.zero_le _

theorem bounded_forward (level : Level) : EveryScan Bounded (.forward level : RuleGrammar) := .forward

theorem bounded_someBlanks : EveryScan Bounded someBlanks :=
  bounded_blanks.maybe (bounded_epsilon _)

theorem bounded_network : EveryScan Bounded network := by
  apply EveryScan.union
  simp [bounded_token]

theorem bounded_value : EveryScan Bounded value := by
  apply EveryScan.union
  simp [bounded_mark, bounded_token]

theorem bounded_matchTail : EveryScan Bounded matchTail := by
  have sign := bounded_mark "=" .nothing
  have again : EveryScan Bounded ((mark "=" .nothing).maybe id .nothing) := sign.maybe (bounded_epsilon _)
  have equal :=
    (((bounded_someBlanks.andThen sign).andThen again).andThen bounded_someBlanks).andThen bounded_value
  have inside := ((bounded_blanks.andThen (bounded_keyword "in")).andThen bounded_blanks).andThen
    bounded_network
  apply EveryScan.union
  rw [List.forall_mem_cons, List.forall_mem_singleton]
  exact ⟨equal, inside⟩

theorem bounded_nonMatchTail : EveryScan Bounded nonMatchTail := by
  have unequal :=
    ((bounded_someBlanks.andThen (bounded_mark "!=" .nothing)).andThen bounded_someBlanks).andThen
    bounded_value
  have outside := ((((bounded_blanks.andThen (bounded_keyword "not")).andThen bounded_blanks).andThen
    (bounded_keyword "in")).andThen bounded_blanks).andThen bounded_network
  apply EveryScan.union
  rw [List.forall_mem_cons, List.forall_mem_singleton]
  exact ⟨unequal, outside⟩

theorem bounded_basic : EveryScan Bounded basic := by
  have tests : EveryScan Bounded (.step
      (.union [mark "*" (.key none), token scanString fun name => .key (some (String.ofList name))])
      [(matchTail, testOf .matching), (nonMatchTail, testOf .nonMatching)]) := by
    apply EveryScan.step
    · apply EveryScan.union
      simp [bounded_mark, bounded_token]
    · simp [bounded_matchTail, bounded_nonMatchTail]
  apply EveryScan.union
  simp only [List.forall_mem_cons, List.not_mem_nil, false_implies, implies_true, and_true]
  exact ⟨bounded_token _ _, tests, bounded_network.map, (bounded_token _ _).map, bounded_mark _ _⟩

theorem bounded_parentheses : EveryScan Bounded parentheses := by
  apply EveryScan.sequence
  simp [bounded_mark, bounded_forward]

theorem bounded_negation : EveryScan Bounded negation := by
  have grouped := bounded_someBlanks.andThen bounded_parentheses
  have spaced := bounded_blanks.andThen (bounded_forward .unary)
  apply EveryScan.map
  apply (bounded_keyword "no").andThen
  apply EveryScan.union
  rw [List.forall_mem_cons, List.forall_mem_singleton]
  exact ⟨grouped, spaced⟩

theorem bounded_chain (operand same : Level) (word : String) (kind : Junction) :
    EveryScan Bounded (chain operand same word kind) := by
  have link := ((bounded_gap.andThen (bounded_keyword word)).andThen bounded_gap).andThen
    (bounded_forward same)
  apply EveryScan.step (bounded_forward operand)
  rw [List.forall_mem_cons, List.forall_mem_singleton]
  exact ⟨link, bounded_epsilon _⟩

theorem bounded_definitions (level : Level) (grammar : RuleGrammar)
    (found : definitions.find? level = some grammar) : EveryScan Bounded grammar := by
  cases level with
  | unary =>
    obtain rfl := Option.some.inj found
    apply EveryScan.union
    simp [bounded_negation, bounded_parentheses, bounded_basic]
  | conjunction =>
    obtain rfl := Option.some.inj found
    exact bounded_chain _ _ _ _
  | disjunction =>
    obtain rfl := Option.some.inj found
    exact bounded_chain _ _ _ _
  | expression =>
    obtain rfl := Option.some.inj found
    exact (bounded_someBlanks.andThen (bounded_forward _)).andSkip bounded_someBlanks

theorem build_definitions : Definitions.build definitions.entries = .ok definitions := rfl

/-- What the outcome for a whole text says about the text. -/
def answer (text : String) : Outcome Phrase → Except Error Expression
  | some (.rule expression, ⟨_, []⟩) => .ok expression
  | _ => .error (.parse text)

theorem answer_cases (text : String) (outcome : Outcome Phrase) :
    (∃ expression, answer text outcome = .ok expression) ∨
      answer text outcome = .error (.parse text) := by
  unfold answer
  split
  · exact Or.inl ⟨_, rfl⟩
  · exact Or.inr rfl

theorem parse_eq_answer {text : String} {outcome : Outcome Phrase}
    (derived : Derives definitions (.forward .expression) (.start text.toList) (.ok outcome)) :
    parse text = answer text outcome := by
  have parsed : Grammar.parse definitions (.forward .expression) text.toList =
      .ok (outcome.map fun found => (found.1, found.2.ahead)) := derived.parse_eq
  simp only [parse, build_definitions, parsed, Except.mapError, bind, Except.bind]
  rcases outcome with _ | ⟨phrase, behind, ahead⟩
  · rfl
  · cases phrase <;> cases ahead <;> rfl

/-- Every text is answered, and the machine that reads it ends: no name is unset or set twice, no level is
called again inside a call of the same level before something is read, and each scanner begins and ends in
the text. -/
theorem every_text_is_answered (text : String) :
    Definitions.build definitions.entries = .ok definitions ∧
      ((∃ expression, parse text = .ok expression) ∨ parse text = .error (.parse text)) ∧
      (∃ outcome, (enter definitions (.forward .expression) (.start text.toList)
        []).Ends definitions (.ok outcome) ∧
        parse text = answer text outcome) ∧
      (∀ level cursor place count frame frames,
        (Turn.next definitions)^[count] (enter definitions (.forward level) cursor []) =
          .goes (.call (.forward level) place frame) frames →
            place.ahead.length < cursor.ahead.length) ∧
      ∀ read cursor count frame frames,
        (Turn.next definitions)^[count] (enter definitions (.forward .expression) (.start text.toList) []) =
          .goes (.call (.scan read) cursor frame) frames →
        cursor.offset.IsValid text ∧ ∀ value taken, read cursor = some (value, taken) →
          taken ≤ cursor.ahead.length := by
  obtain ⟨outcome, derived⟩ := derives_ok (.forward .expression) (.start text.toList)
  have answered : parse text = answer text outcome := parse_eq_answer derived
  have ends := (ends_iff_derives definitions _ _ _).2 derived
  refine ⟨build_definitions, ?_, ⟨outcome, ends, answered⟩, ?_, ?_⟩
  · rw [answered]
    exact answer_cases text outcome
  · intro level cursor place count frame frames returns
    obtain ⟨inner, ended⟩ := derives_ok (.forward level) cursor
    exact ((ends_iff_derives definitions _ _ _).2 ended).shorter_of_return returns
  · intro read cursor count frame frames calls
    have inside : (Cursor.start text.toList).text = text.toList := rfl
    have keeps := (bounded_forward .expression).keeps
      (Cursor.onward_text text.toList) bounded_definitions inside
      count
    rw [calls] at keeps
    obtain ⟨⟨every, here, -⟩, -⟩ := keeps
    refine ⟨Cursor.isValid_offset here, ?_⟩
    cases every with
    | scan bounded => exact bounded cursor

theorem parse_eq_ok_iff {text : String} {expression : Expression} :
    parse text = .ok expression ↔
      ∃ behind, Yields definitions (.forward .expression) (.start text.toList)
      (.rule expression) ⟨behind, []⟩ := by
  constructor
  · intro parsed
    obtain ⟨outcome, derived⟩ := derives_ok (.forward .expression) (.start text.toList)
    rw [parse_eq_answer derived] at parsed
    unfold answer at parsed
    split at parsed
    · rename_i behind
      obtain rfl := Except.ok.inj parsed
      exact ⟨behind, derived⟩
    · contradiction
  · rintro ⟨behind, yields⟩
    exact parse_eq_answer yields

/-- What reads a rule and says nothing of the fault reads the same rules. -/
theorem read?_eq_toOption (text : String) : read? text = (parse text).toOption := by
  obtain ⟨outcome, derived⟩ := derives_ok (.forward .expression) (.start text.toList)
  rw [parse_eq_answer derived, read?, derived.parse_eq]
  rcases outcome with _ | ⟨phrase, behind, ahead⟩
  · rfl
  · cases phrase <;> cases ahead <;> rfl

theorem sentence_of_parse {text : String} {expression : Expression} (parsed : parse text = .ok expression) :
    Sentence .expression expression text.toList [] := by
  obtain ⟨behind, yields⟩ := parse_eq_ok_iff.1 parsed
  obtain ⟨written, other, spans, sentence, same⟩ := readsSentence_of_yields yields
  have whole : text.toList = written ++ [] := spans.ahead
  obtain rfl := Phrase.rule.inj same
  rw [whole, List.append_nil]
  exact sentence

/-- A text that is accepted is a sentence of the grammar as a whole, and what is read lists the
constructors along its derivation. Every other text is refused with the error that carries it. -/
theorem accepted_text_is_sentence (text : String) :
    (∀ expression, parse text = .ok expression → Sentence .expression expression text.toList []) ∧
      ((∀ expression, parse text ≠ .ok expression) → parse text = .error (.parse text)) ∧
      ((∀ expression, ¬ Sentence .expression expression text.toList []) →
        parse text = .error (.parse text)) := by
  have refused : (∀ expression, parse text ≠ .ok expression) → parse text = .error (.parse text) := by
    intro never
    obtain ⟨outcome, derived⟩ := derives_ok (.forward .expression) (.start text.toList)
    rw [parse_eq_answer derived] at never ⊢
    exact (answer_cases text outcome).resolve_left fun ⟨expression, parsed⟩ => never expression parsed
  refine ⟨fun _ => sentence_of_parse, refused, fun none => refused fun expression parsed => ?_⟩
  exact none expression (sentence_of_parse parsed)

/-- A word needs white space or a parenthesis next to it. -/
example : (parse "no(*)").toOption.isSome ∧ (parse "no*").toOption.isNone := by decide +kernel

end EventRouting.RuleText
