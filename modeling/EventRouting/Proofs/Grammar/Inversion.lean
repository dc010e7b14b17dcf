import EventRouting.Proofs.Grammar.Derivation

set_option autoImplicit false

namespace EventRouting

namespace Cursor

/-- The text stands between the two places. -/
structure Spans (cursor : Cursor) (text : List Char) (after : Cursor) : Prop where
  ahead : cursor.ahead = text ++ after.ahead
  behind : after.behind = text.reverse ++ cursor.behind

variable {cursor middle after : Cursor} {text first second : List Char}

theorem Spans.refl (cursor : Cursor) : cursor.Spans [] cursor := ⟨rfl, rfl⟩

theorem Spans.trans (left : cursor.Spans first middle) (right : middle.Spans second after) :
    cursor.Spans (first ++ second) after where
  ahead := by rw [left.ahead, right.ahead, List.append_assoc]
  behind := by rw [right.behind, left.behind, List.reverse_append, List.append_assoc]

theorem Spans.length (spans : cursor.Spans text after) :
    cursor.ahead.length = text.length + after.ahead.length := by
  rw [spans.ahead, List.length_append]

theorem Spans.length_le (spans : cursor.Spans text after) : after.ahead.length ≤ cursor.ahead.length := by
  have length := spans.length
  omega

/-- What stood behind the second place is the end of the text or, if that is empty, what stood behind the
first. -/
theorem Spans.head?_behind (spans : cursor.Spans text after) (some : text ≠ []) :
    after.behind.head? = text.getLast? := by
  rw [spans.behind, List.head?_append, List.head?_reverse]
  obtain ⟨c, last⟩ := Option.ne_none_iff_exists'.1 (mt List.getLast?_eq_none_iff.1 some)
  rw [last]
  rfl

theorem spans_advance (count : Nat) (cursor : Cursor) :
    cursor.Spans (cursor.ahead.take count) (cursor.advance count) := by
  fun_induction advance count cursor with
  | case1 cursor =>
    rw [List.take_zero]
    exact .refl cursor
  | case2 count behind =>
    rw [List.take_nil]
    exact .refl _
  | case3 count behind c ahead ih =>
    rw [List.take_succ_cons]
    have here : Spans ⟨behind, c :: ahead⟩ [c] ⟨c :: behind, ahead⟩ := ⟨rfl, rfl⟩
    exact here.trans ih

end Cursor

namespace Grammar

variable {Name Value : Type} [DecidableEq Name]

/-- The grammar comes to a value and a place after it. -/
abbrev Yields (definitions : Definitions Name Value) (grammar : Grammar Name Value) (cursor : Cursor)
    (value : Value) (after : Cursor) : Prop :=
  Derives definitions grammar cursor (.ok (some (value, after)))

/-- The grammar does not match. -/
abbrev Fails (definitions : Definitions Name Value) (grammar : Grammar Name Value)
    (cursor : Cursor) : Prop :=
  Derives definitions grammar cursor (.ok none)

variable {definitions : Definitions Name Value} {cursor after : Cursor} {value : Value}

theorem derives_scan {read : Cursor → Option (Value × Nat)}
    {result : Except GrammarError (Outcome Value)}
    (derived : Derives definitions (.scan read) cursor result) : result = .ok (scanFrom read cursor) := by
  cases derived
  rfl

theorem yields_scan {read : Cursor → Option (Value × Nat)}
    (yields : Yields definitions (.scan read) cursor value after) :
    ∃ count, read cursor = some (value, count) ∧ after = cursor.advance count := by
  have found := (Except.ok.inj (derives_scan yields)).symm
  rw [scanFrom, Option.map_eq_some_iff] at found
  obtain ⟨⟨other, count⟩, scanned, same⟩ := found
  obtain ⟨rfl, rfl⟩ := Prod.mk.inj same
  exact ⟨count, scanned, rfl⟩

theorem fails_scan {read : Cursor → Option (Value × Nat)}
    (fails : Fails definitions (.scan read) cursor) : read cursor = none := by
  have found := (Except.ok.inj (derives_scan fails)).symm
  rwa [scanFrom, Option.map_eq_none_iff] at found

theorem not_yields_union_nil : ¬ Yields definitions (.union []) cursor value after := by
  intro yields
  generalize shape : Grammar.union [] = grammar at yields
  unfold Yields at yields
  generalize same : Except.ok (some (value, after)) = result at yields
  cases yields with
  | unionFirst => simp at shape
  | unionNone => simp at same
  | _ => contradiction

/-- An alternative further on counts only where the first one does not match. -/
theorem derives_union_cons {alternative : Grammar Name Value} {rest : List (Grammar Name Value)}
    {result : Except GrammarError (Outcome Value)}
    (derived : Derives definitions (.union (alternative :: rest)) cursor result) :
    Derives definitions alternative cursor result ∧ result ≠ .ok none ∨
      Fails definitions alternative cursor ∧ Derives definitions (.union rest) cursor result := by
  generalize shape : Grammar.union (alternative :: rest) = grammar at derived
  cases derived with
  | unionNone fail =>
    rw [← Grammar.union.inj shape, List.forall_mem_cons] at fail
    exact Or.inr ⟨fail.1, .unionNone fail.2⟩
  | @unionFirst failed others first _ _ fail settled settles =>
    cases failed with
    | nil =>
      obtain ⟨rfl, rfl⟩ := List.cons.inj (Grammar.union.inj shape)
      exact Or.inl ⟨settled, settles⟩
    | cons other failed =>
      obtain ⟨rfl, rfl⟩ := List.cons.inj (Grammar.union.inj shape)
      rw [List.forall_mem_cons] at fail
      exact Or.inr ⟨fail.1, .unionFirst fail.2 settled settles⟩
  | _ => contradiction

theorem yields_union_cons {alternative : Grammar Name Value} {rest : List (Grammar Name Value)}
    (yields : Yields definitions (.union (alternative :: rest)) cursor value after) :
    Yields definitions alternative cursor value after ∨
      Fails definitions alternative cursor ∧ Yields definitions (.union rest) cursor value after :=
  (derives_union_cons yields).imp_left And.left

theorem yields_union_single {alternative : Grammar Name Value}
    (yields : Yields definitions (.union [alternative]) cursor value after) :
    Yields definitions alternative cursor value after := by
  rcases yields_union_cons yields with here | ⟨-, later⟩
  · exact here
  · exact absurd later not_yields_union_nil

theorem fails_union_cons {alternative : Grammar Name Value} {rest : List (Grammar Name Value)}
    (fails : Fails definitions (.union (alternative :: rest)) cursor) :
    Fails definitions alternative cursor ∧ Fails definitions (.union rest) cursor := by
  rcases derives_union_cons fails with ⟨-, settles⟩ | both
  · exact absurd rfl settles
  · exact both

theorem derives_transform {inner : Grammar Name Value} {change : Value → Option Value}
    {result : Except GrammarError (Outcome Value)}
    (derived : Derives definitions (.transform inner change) cursor result) :
    ∃ early, Derives definitions inner cursor early ∧
      result = early.map fun outcome => outcome.bind fun found => (change found.1).map (·, found.2) := by
  cases derived with
  | transform ended => exact ⟨_, ended, rfl⟩
  | transformError broke => exact ⟨_, broke, rfl⟩

theorem yields_map {inner : Grammar Name Value} {change : Value → Value}
    (yields : Yields definitions (inner.map change) cursor value after) :
    ∃ early, Yields definitions inner cursor early after ∧ value = change early := by
  obtain ⟨early, ended, same⟩ := derives_transform yields
  match early, ended, same with
  | .ok (some (early, place)), ended, same =>
    obtain ⟨rfl, rfl⟩ := Prod.mk.inj (Option.some.inj (Except.ok.inj same))
    exact ⟨early, ended, rfl⟩

theorem fails_map {inner : Grammar Name Value} {change : Value → Value}
    (fails : Fails definitions (inner.map change) cursor) : Fails definitions inner cursor := by
  obtain ⟨early, ended, same⟩ := derives_transform fails
  match early, ended, same with
  | .ok none, ended, _ => exact ended

/-- Something was read or nothing was. -/
theorem yields_maybe {inner : Grammar Name Value} {present : Value → Value} {absent : Value}
    (yields : Yields definitions (inner.maybe present absent) cursor value after) :
    (∃ early, Yields definitions inner cursor early after ∧ value = present early) ∨
      value = absent ∧ after = cursor := by
  rcases yields_union_cons yields with here | ⟨-, later⟩
  · exact Or.inl (yields_map here)
  · obtain ⟨count, scanned, rfl⟩ := yields_scan (yields_union_single later)
    obtain ⟨rfl, rfl⟩ := Prod.mk.inj (Option.some.inj scanned)
    exact Or.inr ⟨rfl, rfl⟩

theorem yields_forward {name : Name} (yields : Yields definitions (.forward name) cursor value after) :
    ∃ grammar, definitions.find? name = some grammar ∧
      Yields definitions grammar cursor value after := by
  cases yields with
  | forward found ended => exact ⟨_, found, ended⟩

theorem yields_sequence_nil {collect : List Value → Value}
    (yields : Yields definitions (.sequence [] collect) cursor value after) :
    value = collect [] ∧ after = cursor := by
  cases yields
  exact ⟨rfl, rfl⟩

theorem yields_sequence_cons {part : Grammar Name Value} {rest : List (Grammar Name Value)}
    {collect : List Value → Value}
    (yields : Yields definitions (.sequence (part :: rest) collect) cursor value after) :
    ∃ early middle, Yields definitions part cursor early middle ∧
      Yields definitions (.sequence rest fun values => collect (early :: values)) middle value after := by
  cases yields with
  | sequenceStop _ stops => exact absurd rfl (stops _)
  | sequenceNext first others => exact ⟨_, _, first, others⟩

section Pairs

variable [Inhabited Value] {first second : Grammar Name Value}

theorem yields_andThen (yields : Yields definitions (first.andThen second) cursor value after) :
    ∃ early middle, Yields definitions first cursor early middle ∧
      Yields definitions second middle value after := by
  obtain ⟨early, middle, front, others⟩ := yields_sequence_cons yields
  obtain ⟨late, last, back, ended⟩ := yields_sequence_cons others
  obtain ⟨rfl, rfl⟩ := yields_sequence_nil ended
  exact ⟨early, middle, front, back⟩

theorem yields_andSkip (yields : Yields definitions (first.andSkip second) cursor value after) :
    ∃ late middle, Yields definitions first cursor value middle ∧
      Yields definitions second middle late after := by
  obtain ⟨early, middle, front, others⟩ := yields_sequence_cons yields
  obtain ⟨late, last, back, ended⟩ := yields_sequence_cons others
  obtain ⟨rfl, rfl⟩ := yields_sequence_nil ended
  exact ⟨late, middle, front, back⟩

end Pairs

theorem yields_step {head : Grammar Name Value}
    {tails : List (Grammar Name Value × (Value → Value → Value))}
    (yields : Yields definitions (.step head tails) cursor value after) :
    ∃ left middle, Yields definitions head cursor left middle ∧
      ∃ tail ∈ tails, ∃ right, Yields definitions tail.1 middle right after ∧
        value = tail.2 left right := by
  cases yields with
  | stepStop _ stops => exact absurd rfl (stops _)
  | stepFirst first _ reads =>
    exact ⟨_, _, first, _, List.mem_append_right _ List.mem_cons_self, _, reads, rfl⟩

/-- A derivation reads on from where it begins. -/
theorem Yields.spans {grammar : Grammar Name Value}
    (yields : Yields definitions grammar cursor value after) : ∃ text, cursor.Spans text after := by
  unfold Yields at yields
  generalize same : Except.ok (some (value, after)) = result at yields
  induction yields generalizing value after with
  | @scan read cursor =>
    have found := (Except.ok.inj same).symm
    rw [scanFrom, Option.map_eq_some_iff] at found
    obtain ⟨⟨other, count⟩, -, pair⟩ := found
    obtain ⟨-, rfl⟩ := Prod.mk.inj pair
    exact ⟨_, cursor.spans_advance count⟩
  | sequenceDone =>
    obtain ⟨-, rfl⟩ := Prod.mk.inj (Option.some.inj (Except.ok.inj same))
    exact ⟨_, .refl _⟩
  | sequenceStop _ stops => exact absurd same.symm (stops _)
  | sequenceNext _ _ ihFirst ihOthers =>
    obtain ⟨front, spansFront⟩ := ihFirst rfl
    obtain ⟨back, spansBack⟩ := ihOthers same
    exact ⟨_, spansFront.trans spansBack⟩
  | unionFirst _ _ _ _ ih => exact ih same
  | transform _ ih =>
    have changed := (Except.ok.inj same).symm
    rw [Option.bind_eq_some_iff] at changed
    obtain ⟨⟨early, place⟩, rfl, made⟩ := changed
    rw [Option.map_eq_some_iff] at made
    obtain ⟨late, -, pair⟩ := made
    obtain ⟨-, rfl⟩ := Prod.mk.inj pair
    exact ih rfl
  | forward _ _ ih => exact ih same
  | stepStop _ stops => exact absurd same.symm (stops _)
  | stepFirst _ _ _ ihFirst _ ihReads =>
    obtain ⟨-, rfl⟩ := Prod.mk.inj (Option.some.inj (Except.ok.inj same))
    obtain ⟨front, spansFront⟩ := ihFirst rfl
    obtain ⟨back, spansBack⟩ := ihReads rfl
    exact ⟨_, spansFront.trans spansBack⟩
  | _ => simp at same

end Grammar

end EventRouting
