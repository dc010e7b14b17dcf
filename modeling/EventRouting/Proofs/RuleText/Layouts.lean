import EventRouting.Proofs.Rule.Identity
import EventRouting.Proofs.RuleText.Leaves

set_option autoImplicit false

/- The grammar groups operands of one word to the right, and a layout may group them in any way. So a
layout is first put into the shape of the grammar, a chain of operands, which keeps the normal form; then
the grammar is followed along the chain. -/
namespace EventRouting.RuleText

open Text Grammar IpAddress

/-- The words that may follow what is read at a level. -/
def followers : Level → List String
  | .unary => junctionWords
  | .conjunction => ["or"]
  | .disjunction | .expression => []

/-- The calls that reading at a level needs, over four for each character. -/
def rank : Level → Nat
  | .unary => 1
  | .conjunction => 2
  | .disjunction => 3
  | .expression => 4

/-- Whatever may follow the text, it is read as the expression. -/
structure ReadsAs (level : Level) (expression : Expression) (text : List Char) : Prop where
  visible : ∃ c more, text = c :: more ∧ isBlank c = false
  reads : ∀ behind rest, Ending (followers level) rest →
    (text.getLast? = some ')' ∨ atBoundary rest = true) →
      RuleReads (.forward level) ⟨behind, text ++ rest⟩ (4 * (text ++ rest).length + rank level)
        (some (.rule expression, ⟨text.reverse ++ behind, rest⟩))

theorem ReadsAs.not_nil {level : Level} {expression : Expression} {text : List Char}
    (read : ReadsAs level expression text) : text ≠ [] := by
  obtain ⟨c, more, shape, -⟩ := read.visible
  simp [shape]

theorem ReadsAs.visible_append {level : Level} {expression : Expression} {text : List Char}
    (read : ReadsAs level expression text) (rest : List Char) : Visible (text ++ rest) := by
  obtain ⟨c, more, shape, visible⟩ := read.visible
  rw [Visible, shape, List.cons_append, forall_head_cons]
  exact visible

/-- Operands with a word between them, grouped to the right. -/
inductive Chain (operand : Expression → List Char → Prop) (word : String) (kind : Junction) :
    Expression → List Char → Prop where
  | single {expression : Expression} {text : List Char} (only : operand expression text) :
    Chain operand word kind expression text
  | link {left right : Expression} {first front written back second : List Char}
    (head : operand left first) (before : GapAfter first front) (spelled : Spells word written)
    (after : GapBefore back second) (tail : Chain operand word kind right second) :
    Chain operand word kind (.junction kind left [right]) (first ++ front ++ written ++ back ++ second)

theorem Chain.not_nil {operand : Expression → List Char → Prop} {word : String} {kind : Junction}
    {expression : Expression} {text : List Char} (chain : Chain operand word kind expression text)
    (some : ∀ expression text, operand expression text → text ≠ []) : text ≠ [] := by
  induction chain with
  | single only => exact some _ _ only
  | link head before spelled after tail ih =>
    intro none
    exact ih (List.append_eq_nil_iff.1 none).2

theorem GapAfter.of_append {front text gap : List Char} (some : text ≠ [])
    (apart : GapAfter (front ++ text) gap) : GapAfter text gap := by
  rw [GapAfter, List.getLast?_append_of_ne_nil _ some] at apart
  exact apart

theorem GapBefore.append {gap text : List Char} (some : text ≠ []) (apart : GapBefore gap text)
    (rest : List Char) : GapBefore gap (text ++ rest) := by
  rw [GapBefore, List.head?_append_of_ne_nil _ some]
  exact apart

/-- The word between two chains makes a chain of them, with the normal form of the junction of both. -/
theorem Chain.append {operand : Expression → List Char → Prop} {word : String} {kind : Junction}
    {left right : Expression} {first front written back second : List Char}
    (some : ∀ expression text, operand expression text → text ≠ [])
    (early : Chain operand word kind left first) (before : GapAfter first front)
    (spelled : Spells word written) (after : GapBefore back second)
    (late : Chain operand word kind right second) :
    ∃ joined, Chain operand word kind joined (first ++ front ++ written ++ back ++ second) ∧
      joined.Agrees (.junction kind left [right]) := by
  induction early with
  | single only => exact ⟨_, .link only before spelled after late, .refl _⟩
  | link head between word' gap tail ih =>
    have tailSome := tail.not_nil some
    obtain ⟨joined, chain, agrees⟩ := ih (before.of_append tailSome)
    simp only [List.append_assoc] at chain
    have whole := Chain.link head between word' (gap.append tailSome _) chain
    refine ⟨_, by simpa using whole, ?_⟩
    refine Expression.Agrees.trans ?_ (Expression.junction_agrees_assoc _ _ _ _).symm
    exact Expression.Agrees.junction (.refl _) agrees

/-- The word before another operand, and what comes after it. -/
abbrev link (word : String) (same : Level) : RuleGrammar :=
  ((gap.andThen (keyword word)).andThen gap).andThen (.forward same)

/-- Behind what is read at a level, no word joins another operand of the level to it. -/
theorem link_none {word : String} {letter : Char} {more behind rest : List Char} {same : Level}
    {least : Nat} (letters : word.toList = letter :: more) (known : IsWordLetter letter)
    (other : ∀ c ∈ (dropBlanks rest).head?, c.toLower ≠ letter) :
    RuleReads (link word same) ⟨behind, rest⟩ least none := by
  refine Reads.andThen_first (Reads.andThen_first ?_)
  by_cases apart : rest.takeWhile isBlank ≠ [] ∨ behind.head? = some ')' ∨
      (dropBlanks rest).head? = some '('
  · have reads : RuleReads gap ⟨behind, rest.takeWhile isBlank ++ dropBlanks rest⟩ least _ :=
      reads_gap (blanks_takeWhile rest) (visible_dropBlanks rest) apart
    rw [takeWhile_append_dropBlanks] at reads
    exact Reads.andThen_second reads (keyword_none letters known other)
  · simp only [not_or, not_not] at apart
    have same := takeWhile_append_dropBlanks rest
    rw [apart.1, List.nil_append] at same
    rw [same] at apart
    refine Reads.andThen_first (gap_none ?_ apart.2.1 apart.2.2)
    rw [← same]
    exact visible_dropBlanks rest

theorem reads_chain_single {operand same : Level} {word : String} {kind : Junction} {cursor after : Cursor}
    {least : Nat} {expression : Expression}
    (found : definitions.find? same = some (chain operand same word kind))
    (first : RuleReads (.forward operand) cursor least (some (.rule expression, after)))
    (none : RuleReads (link word same) after least none) :
    RuleReads (.forward same) cursor (least + 1) (some (.rule expression, after)) :=
  Reads.forward found
    (Reads.step first (ReadsAfter.next none (ReadsAfter.here (Reads.epsilon Phrase.nothing))))

theorem reads_chain_link {operand same : Level} {word : String} {kind : Junction}
    {cursor after last : Cursor} {least : Nat} {left right : Expression}
    (found : definitions.find? same = some (chain operand same word kind))
    (first : RuleReads (.forward operand) cursor least (some (.rule left, after)))
    (linked : RuleReads (link word same) after least (some (.rule right, last))) :
    RuleReads (.forward same) cursor (least + 1) (some (.rule (.junction kind left [right]), last)) :=
  Reads.forward found (Reads.step first (ReadsAfter.here linked))

/-- A grammar that chains operands reads chains of what is read as an operand. -/
theorem Chain.readsAs {operand same : Level} {word : String} {kind : Junction} {letter : Char}
    {more : List Char} {expression : Expression} {text : List Char}
    (found : definitions.find? same = some (chain operand same word kind))
    (letters : word.toList = letter :: more) (known : ∀ letter ∈ word.toList, IsWordLetter letter)
    (own : word ∈ followers operand) (fewer : followers same ⊆ followers operand)
    (deeper : rank operand < rank same)
    (other : ∀ rest, Ending (followers same) rest → ∀ c ∈ (dropBlanks rest).head?,
      c.toLower ≠ letter)
    (chained : Chain (ReadsAs operand) word kind expression text) : ReadsAs same expression text := by
  have knownFirst : IsWordLetter letter := known letter (by rw [letters]; exact List.mem_cons_self)
  have shallow : rank same ≤ 4 := by cases same <;> decide
  induction chained with
  | single only =>
    refine ⟨only.visible, ?_⟩
    intro behind rest ending closed
    have readOnly := only.reads behind rest (ending.mono fewer) closed
    have reads := reads_chain_single found readOnly (link_none letters knownFirst (other rest ending))
    exact reads.mono (by omega)
  | link head before spelled after tail ih =>
    rename_i left right first front written back second
    obtain ⟨c, others, shape, visibleFirst⟩ := head.visible
    have secondSome := ih.not_nil
    refine ⟨⟨c, others ++ front ++ written ++ back ++ second, by simp [shape], visibleFirst⟩, ?_⟩
    intro behind rest ending closed
    rw [List.getLast?_append_of_ne_nil _ secondSome] at closed
    simp only [List.append_assoc]
    have visible := (spelled.first_facts letters knownFirst (back ++ (second ++ rest))).1
    have next := dropBlanks_append before.1 (written ++ (back ++ (second ++ rest)))
    rw [dropBlanks_visible visible] at next
    have boundary : first.getLast? = .some ')' ∨
        atBoundary (front ++ (written ++ (back ++ (second ++ rest)))) = true := by
      rcases before.2 with apart | closing
      · exact Or.inr (atBoundary_of_blanks before.1 apart)
      · exact Or.inl closing
    have apart : front ≠ [] ∨ (first.reverse ++ behind).head? = .some ')' ∨
        (written ++ (back ++ (second ++ rest))).head? = .some '(' := by
      rcases before.2 with apart | closing
      · exact Or.inl apart
      · refine Or.inr (Or.inl ?_)
        rw [List.head?_append_of_ne_nil _ (by simp [shape]), List.head?_reverse, closing]
    have visibleRest := ih.visible_append rest
    have apart' : back ≠ [] ∨ (written.reverse ++ (front.reverse ++ (first.reverse ++ behind))).head? =
        .some ')' ∨ (second ++ rest).head? = .some '(' := by
      rcases after.2 with apart | opening
      · exact Or.inl apart
      · refine Or.inr (Or.inr ?_)
        rw [List.head?_append_of_ne_nil _ secondSome, opening]
    have readFirst := head.reads behind _ (.word own spelled next) boundary
    have readLink := Reads.andThen (Reads.andThen (Reads.andThen
      (reads_gap before.1 visible apart) (reads_keyword known spelled))
        (reads_gap after.1 visibleRest apart')) (ih.reads _ rest ending closed)
    have shorter : (second ++ rest).length + 1 ≤
        (first ++ (front ++ (written ++ (back ++ (second ++ rest))))).length := by
      simp only [shape, List.length_append, List.length_cons]
      omega
    have reads := reads_chain_link found readFirst (readLink.mono (by omega))
    exact (reads.congr rfl (by simp)).mono (by omega)

theorem and_letters : "and".toList = ['a', 'n', 'd'] := by simp

theorem or_letters : "or".toList = ['o', 'r'] := by simp

theorem Ending.not_or {text : List Char} (ending : Ending [] text) :
    ∀ c ∈ (dropBlanks text).head?, c.toLower ≠ 'o' := by
  cases ending with
  | finish nothing => simp [nothing]
  | closing shape =>
    rw [shape, forall_head_cons]
    decide
  | word known => simp at known

theorem Ending.not_and {text : List Char} (ending : Ending ["or"] text) :
    ∀ c ∈ (dropBlanks text).head?, c.toLower ≠ 'a' := by
  cases ending with
  | finish nothing => simp [nothing]
  | closing shape =>
    rw [shape, forall_head_cons]
    decide
  | word known spells shape =>
    obtain rfl := List.mem_singleton.1 known
    intro c first
    rw [shape] at first
    rw [((spells.first_facts or_letters (by decide) _).2 c first).1]
    decide

theorem readsAs_conjunction {expression : Expression} {text : List Char}
    (chained : Chain (ReadsAs .unary) "and" .and expression text) :
    ReadsAs .conjunction expression text :=
  chained.readsAs rfl and_letters (by simp [and_letters, IsWordLetter]) (by simp [followers, junctionWords])
    (by simp [followers, junctionWords]) (by decide) fun _ ending => ending.not_and

theorem readsAs_disjunction {expression : Expression} {text : List Char}
    (chained : Chain (ReadsAs .conjunction) "or" .or expression text) :
    ReadsAs .disjunction expression text :=
  chained.readsAs rfl or_letters (by simp [or_letters, IsWordLetter]) (by simp [followers])
    (by simp [followers]) (by decide) fun _ ending => ending.not_or

/-- Up to the end, or up to a closing parenthesis, the text is read as the expression. -/
def ReadsWhole (expression : Expression) (text : List Char) : Prop :=
  ∀ behind rest, (rest = [] ∨ ∃ more, rest = ')' :: more) →
    RuleReads (.forward .expression) ⟨behind, text ++ rest⟩ (4 * (text ++ rest).length + 4)
      (some (.rule expression, ⟨text.reverse ++ behind, rest⟩))

theorem readsWhole {expression : Expression} {before text after : List Char} (front : Blanks before)
    (inner : ReadsAs .disjunction expression text) (back : Blanks after) :
    ReadsWhole expression (before ++ text ++ after) := by
  intro behind rest finish
  have visibleRest : Visible rest := by
    rcases finish with rfl | ⟨more, rfl⟩ <;> simp [Visible, isBlank]
  have visible := inner.visible_append (after ++ rest)
  have dropped : dropBlanks (after ++ rest) = rest := by
    rw [dropBlanks_append back, dropBlanks_visible visibleRest]
  have ending : Ending [] (after ++ rest) := by
    rcases finish with rfl | ⟨more, rfl⟩
    · exact .finish dropped
    · exact .closing dropped
  have boundary : atBoundary (after ++ rest) = true := by
    by_cases some : after = []
    · rcases finish with rfl | ⟨more, rfl⟩ <;> simp [some, atBoundary]
    · exact atBoundary_of_blanks back some
  have reads := Reads.andSkip (Reads.andThen (reads_someBlanks front visible)
    (inner.reads (before.reverse ++ behind) _ ending (Or.inr boundary))) (reads_someBlanks back visibleRest)
  refine RuleReads.congr ((Reads.forward rfl reads).mono ?_) (by simp) (by simp)
  simp only [rank, List.length_append]
  omega

/-- What is read as an operand and, when it begins with a parenthesis, as something in parentheses. -/
structure ReadsOperand (expression : Expression) (text : List Char) : Prop where
  operand : ReadsAs .unary expression text
  parentheses : text.head? = some '(' → ∀ behind rest,
    RuleReads parentheses ⟨behind, text ++ rest⟩ (4 * (text ++ rest).length)
      (some (.rule expression, ⟨text.reverse ++ behind, rest⟩))

theorem ne_close_of_bare {text : List Char} (some : text ≠ []) (bare : ∀ c ∈ text, isBare c = true)
    (front : List Char) : (front ++ text).getLast? ≠ .some ')' := by
  rw [List.getLast?_append_of_ne_nil _ some]
  intro same
  exact absurd (bare ')' (List.mem_of_getLast? same)) (by decide)

theorem ValueText.last_ne {text : List Char} {atom : Option Atom} (valued : ValueText text atom)
    (front : List Char) : (front ++ text).getLast? ≠ some ')' := by
  cases valued with
  | any => simp
  | regexp spelled =>
    obtain ⟨⟩ := spelled
    rw [← List.append_assoc]
    split <;> rw [List.getLast?_append_of_ne_nil _ (by simp)] <;> simp
  | string spelled =>
    cases spelled with
    | bare some bare => exact ne_close_of_bare some bare front
    | quoted quoted =>
      rw [← List.append_assoc, List.getLast?_append_of_ne_nil _ (by simp)]
      simp

theorem NetworkText.last_ne {text : List Char} {atom : Atom} (networked : NetworkText text atom)
    (front : List Char) : (front ++ text).getLast? ≠ some ')' := by
  cases networked with
  | ip spelled =>
    cases spelled with
    | address read => exact ne_close_of_bare (bare_of_read? read).1 (bare_of_read? read).2 front
    | block read before after some short decimal =>
      rw [← List.append_assoc]
      exact ne_close_of_bare some (fun c inside => isBare_of_isColonsChar
        (Or.inl (isHexDigit_of_isDigit (decimal c inside)))) _
    | ends read before after readOther =>
      rw [← List.append_assoc]
      exact ne_close_of_bare (bare_of_read? readOther).1 (bare_of_read? readOther).2 _
  | domainName spelled =>
    obtain ⟨count, some, bare, -⟩ := spelled
    rw [← List.append_assoc]
    exact ne_close_of_bare some bare _

theorem LeafText.last_ne {expression : Expression} {text : List Char}
    (spelled : LeafText expression text) : text.getLast? ≠ some ')' := by
  cases spelled with
  | anything => simp
  | equal keyed front signed back valued => exact valued.last_ne _
  | unequal keyed front back valued => exact valued.last_ne _
  | inside keyed front apart spelled back separate networked => exact networked.last_ne _
  | outside keyed front apart denied between distinct spelled back separate networked =>
    exact networked.last_ne _
  | regexp spelled => exact ValueText.last_ne (.regexp spelled) []
  | network networked => exact networked.last_ne []
  | bare some bare => exact ne_close_of_bare some bare []
  | quoted quoted => exact ValueText.last_ne (.string (.quoted quoted)) []

theorem Opening.first {text : List Char} (opening : Opening text) :
    ∃ c more, text = c :: more ∧ isBlank c = false := by
  have visible := opening.visible
  cases text with
  | nil =>
    cases opening with
    | token shape some => exact absurd (List.append_eq_nil_iff.1 shape.symm).1 some
    | sign shape => exact absurd shape (by simp)
  | cons c more => exact ⟨c, more, rfl, visible c rfl⟩

/-- What is read alone is read as an operand, if it neither begins like a denial or something in
parentheses nor ends with a parenthesis. -/
theorem readsOperand_of_basic {expression : Expression} {text : List Char}
    (last : text.getLast? ≠ some ')') (opening : ∀ rest, EndsBare rest → Opening (text ++ rest))
    (reads : ∀ behind rest least, atBoundary rest = true → Ending junctionWords rest →
      RuleReads basic ⟨behind, text ++ rest⟩ least
        (some (.rule expression, ⟨text.reverse ++ behind, rest⟩))) :
    ReadsOperand expression text := by
  have alone : Opening (text ++ []) := opening [] (by simp [EndsBare])
  rw [List.append_nil] at alone
  refine ⟨⟨alone.first, ?_⟩, ?_⟩
  · intro behind rest ending closed
    have boundary := closed.resolve_left last
    have begins := opening rest (endsBare_of_atBoundary boundary)
    apply Reads.mono (Nat.le_add_left _ _)
    apply Reads.forward rfl
    apply Reads.union_next begins.negation_none
    apply Reads.union_next begins.parentheses_none
    exact Reads.union_here (reads behind rest _ boundary ending)
  · intro opened
    exact absurd rfl (alone.not_open '(' opened)

theorem LeafText.readsOperand {expression : Expression} {text : List Char}
    (spelled : LeafText expression text) : ReadsOperand expression text :=
  readsOperand_of_basic spelled.last_ne (fun _ ends => spelled.opening ends)
    fun _ _ _ boundary ending => spelled.reads boundary ending

theorem readsOperand_parentheses {expression : Expression} {text : List Char}
    (inner : ReadsWhole expression text) : ReadsOperand expression ('(' :: text ++ [')']) := by
  have grouped (behind rest : List Char) :
      RuleReads parentheses ⟨behind, '(' :: text ++ [')'] ++ rest⟩
        (4 * ('(' :: text ++ [')'] ++ rest).length)
        (some (.rule expression, ⟨('(' :: text ++ [')']).reverse ++ behind, rest⟩)) := by
    have deep : 4 * (text ++ ')' :: rest).length + 4 ≤ 4 * ('(' :: text ++ [')'] ++ rest).length := by
      simp only [List.length_append, List.length_cons]
      omega
    have readInner := (inner ('(' :: behind) (')' :: rest) (Or.inr ⟨rest, rfl⟩)).mono deep
    refine RuleReads.congr (Reads.sequence_cons (reads_mark open_letters _) (Reads.sequence_cons readInner
      (Reads.sequence_cons (reads_mark close_letters _) Reads.sequence_nil))) (by simp) (by simp)
  refine ⟨⟨⟨_, _, rfl, by decide⟩, ?_⟩, fun _ => grouped⟩
  intro behind rest ending closed
  apply Reads.forward rfl
  apply Reads.union_next
  · apply Reads.map_none
    exact Reads.andThen_first (keyword_none no_letters (by decide) (by simp))
  · exact Reads.union_here (grouped behind rest)

theorem readsOperand_no {operand : Expression} {word gap text : List Char} (spelled : Spells "no" word)
    (apart : GapBefore gap text) (inner : ReadsOperand operand text) :
    ReadsOperand (.no operand) (word ++ gap ++ text) := by
  obtain ⟨d, others, letters, lower⟩ := spelled.in_first no_letters (gap ++ text)
  have some := inner.operand.not_nil
  have visible (rest : List Char) := inner.operand.visible_append rest
  have wordSome : 0 < word.length := List.length_pos_of_ne_nil (spelled.not_nil no_letters)
  rw [List.append_assoc]
  refine ⟨⟨⟨d, others, letters, visible_of_toLower (by decide) lower⟩, ?_⟩, ?_⟩
  · intro behind rest ending closed
    rw [← List.append_assoc, List.getLast?_append_of_ne_nil _ some] at closed
    have known : ∀ letter ∈ "no".toList, IsWordLetter letter := by simp [no_letters, IsWordLetter]
    have shorter : (text ++ rest).length < (word ++ (gap ++ text) ++ rest).length := by
      simp only [List.length_append]
      omega
    have denied : RuleReads (.union [someBlanks.andThen parentheses, blanks.andThen (.forward .unary)])
        ⟨word.reverse ++ behind, gap ++ (text ++ rest)⟩ (4 * (word ++ (gap ++ text) ++ rest).length)
        (.some (.rule operand, ⟨text.reverse ++ (gap.reverse ++ (word.reverse ++ behind)), rest⟩)) := by
      by_cases opened : text.head? = .some '('
      · apply Reads.union_here
        apply Reads.andThen (reads_someBlanks apart.1 (visible rest))
        exact (inner.parentheses opened _ rest).mono (by omega)
      · have notOpen : ∀ c ∈ (text ++ rest).head?, c ≠ '(' := by
          rw [List.head?_append_of_ne_nil _ some]
          rintro _ first rfl
          exact opened first
        apply Reads.union_next
        · apply Reads.andThen_second (reads_someBlanks apart.1 (visible rest))
          exact Reads.sequence_none (mark_none open_letters _ notOpen)
        · apply Reads.union_here
          apply Reads.andThen (reads_blanks apart.1 (apart.2.resolve_right opened) (visible rest))
          apply (inner.operand.reads _ rest ending closed).mono
          simp only [rank]
          omega
    have reads := (Reads.andThen (reads_keyword known spelled) denied).map noOf
    exact RuleReads.congr (Reads.forward rfl (Reads.union_here reads)) (by simp) (by simp)
  · intro opened
    rw [letters, List.head?_cons] at opened
    rw [Option.some.inj opened] at lower
    exact absurd lower (by decide)

/-- What a layout is read as: an expression with the normal form of the one that is laid out. -/
def ReadsAlike : Level → Expression → List Char → Prop
  | .unary, expression, text => ∃ other, ReadsOperand other text ∧ other.Agrees expression
  | .conjunction, expression, text =>
    ∃ other, Chain (ReadsAs .unary) "and" .and other text ∧ other.Agrees expression
  | .disjunction, expression, text =>
    ∃ other, Chain (ReadsAs .conjunction) "or" .or other text ∧ other.Agrees expression
  | .expression, expression, text => ∃ other, ReadsWhole other text ∧ other.Agrees expression

theorem Layout.readsAlike {level : Level} {expression : Expression} {text : List Char}
    (layout : Layout level expression text) : ReadsAlike level expression text := by
  induction layout with
  | leaf leaf => exact ⟨_, leaf.readsOperand, .refl _⟩
  | parentheses inner ih =>
    obtain ⟨other, reads, agrees⟩ := ih
    exact ⟨other, readsOperand_parentheses reads, agrees⟩
  | no spelled apart inner ih =>
    obtain ⟨other, reads, agrees⟩ := ih
    exact ⟨.no other, readsOperand_no spelled apart reads, agrees.no⟩
  | unary inner ih =>
    obtain ⟨other, reads, agrees⟩ := ih
    exact ⟨other, .single reads.operand, agrees⟩
  | and inLeft before spelled after inRight ihLeft ihRight =>
    obtain ⟨left, chainLeft, agreesLeft⟩ := ihLeft
    obtain ⟨right, chainRight, agreesRight⟩ := ihRight
    obtain ⟨joined, chain, agrees⟩ :=
      chainLeft.append (fun _ _ => ReadsAs.not_nil) before spelled after chainRight
    exact ⟨joined, chain, agrees.trans (.junction agreesLeft agreesRight)⟩
  | conjunction inner ih =>
    obtain ⟨other, chain, agrees⟩ := ih
    exact ⟨other, .single (readsAs_conjunction chain), agrees⟩
  | or inLeft before spelled after inRight ihLeft ihRight =>
    obtain ⟨left, chainLeft, agreesLeft⟩ := ihLeft
    obtain ⟨right, chainRight, agreesRight⟩ := ihRight
    obtain ⟨joined, chain, agrees⟩ :=
      chainLeft.append (fun _ _ => ReadsAs.not_nil) before spelled after chainRight
    exact ⟨joined, chain, agrees.trans (.junction agreesLeft agreesRight)⟩
  | expression front inner back ih =>
    obtain ⟨other, chain, agrees⟩ := ih
    exact ⟨other, readsWhole front (readsAs_disjunction chain) back, agrees⟩

theorem read?_of_readsWhole {expression : Expression} {text : List Char}
    (reads : ReadsWhole expression text) : RuleText.read? (String.ofList text) = some expression := by
  have whole := reads [] [] (Or.inl rfl)
  rw [List.append_nil] at whole
  have parsed := parse_eq_of_reads whole (Nat.le_refl _)
  rw [RuleText.read?, String.toList_ofList, parsed]
  rfl

theorem ReadsOperand.read? {expression : Expression} {text : List Char}
    (reads : ReadsOperand expression text) :
    RuleText.read? (String.ofList text) = some expression := by
  have whole := readsWhole blanks_nil (readsAs_disjunction (.single (readsAs_conjunction
    (.single reads.operand)))) blanks_nil
  rw [List.nil_append, List.append_nil] at whole
  exact read?_of_readsWhole whole

/-- Every layout of a rule is read, and what is read has the normal form of what was laid out. -/
theorem Layout.read? {expression : Expression} {text : List Char}
    (layout : Layout .expression expression text) :
    ∃ other, RuleText.read? (String.ofList text) = some other ∧ other.Agrees expression := by
  obtain ⟨other, reads, agrees⟩ := layout.readsAlike
  exact ⟨other, read?_of_readsWhole reads, agrees⟩

open Workspace in
/-- In every state of every run, a text that lays out an expression is read, and the rule that is read is
the rule that the constructors make of the expression, whichever of the two is made first. -/
theorem layout_reads_as_built {work : Workspace} (run : Run start work) {expression : Expression}
    {text : String} (layout : Layout .expression expression text.toList) :
    ∃ parsed, RuleText.read? text = some parsed ∧
      (expression.build (parsed.build work.store).2).1 = (parsed.build work.store).1 ∧
      (parsed.build (expression.build work.store).2).1 = (expression.build work.store).1 := by
  obtain ⟨parsed, read, agrees⟩ := layout.read?
  rw [String.ofList_toList] at read
  have sound := run.sound start_sound
  have told := run.told start_sound start_told
  exact ⟨parsed, read, sound.build_agreeing told agrees, sound.build_agreeing told agrees.symm⟩

/-- Around the word no white space is needed next to parentheses, and letter case does not count. -/
theorem layout_reads_as_built_grouped : ∃ parsed, RuleText.read? "(*)AND(no *)" = some parsed ∧
    ((Expression.both .anything (.no .anything)).build (parsed.build Workspace.start.store).2).1 =
      (parsed.build Workspace.start.store).1 ∧
    (parsed.build ((Expression.both .anything (.no .anything)).build Workspace.start.store).2).1 =
      ((Expression.both .anything (.no .anything)).build Workspace.start.store).1 := by
  have star : Layout .unary .anything ['*'] := .leaf .anything
  have grouped {expression : Expression} {text : List Char} (inner : Layout .unary expression text) :
      Layout .unary expression ('(' :: text ++ [')']) := by
    have whole := Layout.expression blanks_nil (.conjunction (.unary inner)) blanks_nil
    rw [List.nil_append, List.append_nil] at whole
    exact .parentheses whole
  have spellsNo : Spells "no" ['n', 'o'] := by simp [Spells]
  have spellsAnd : Spells "and" ['A', 'N', 'D'] := by simp [Spells]
  have denied := Layout.no spellsNo ⟨blanks_space, Or.inl (by simp)⟩ star
  have both := Layout.and (.unary (grouped star)) ⟨blanks_nil, Or.inr (by simp)⟩ spellsAnd
    ⟨blanks_nil, Or.inr (by simp)⟩ (.unary (grouped denied))
  have whole := Layout.expression blanks_nil (.conjunction both) blanks_nil
  exact layout_reads_as_built .refl (by simpa using whole)

end EventRouting.RuleText
