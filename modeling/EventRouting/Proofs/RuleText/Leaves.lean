import EventRouting.Proofs.Grammar.Reading
import EventRouting.Proofs.RuleText.Sentences

set_option autoImplicit false

namespace EventRouting

namespace RuleText

open Text Grammar IpAddress

abbrev RuleReads (grammar : RuleGrammar) (cursor : Cursor) (least : Nat) (outcome : Outcome Phrase) :
    Prop :=
  Reads definitions grammar cursor least outcome

variable {behind text rest : List Char} {least : Nat}

/-- Where a grammar begins and ends may be written in another way. -/
theorem RuleReads.congr {grammar : RuleGrammar} {value : Phrase} {ahead ahead' after after' : List Char}
    (reads : RuleReads grammar ⟨behind, ahead⟩ least (some (value, ⟨after, rest⟩)))
    (sameAhead : ahead' = ahead) (sameAfter : after' = after) :
    RuleReads grammar ⟨behind, ahead'⟩ least (some (value, ⟨after', rest⟩)) := by
  rw [sameAhead, sameAfter]
  exact reads

theorem reads_token {Value : Type} {read : List Char → Option (Value × List Char)} {value : Value}
    (phrase : Value → Phrase) (scanned : read (text ++ rest) = some (value, rest)) :
    RuleReads (token read phrase) ⟨behind, text ++ rest⟩ least
      (some (phrase value, ⟨text.reverse ++ behind, rest⟩)) := by
  have reads : RuleReads (token read phrase) ⟨behind, text ++ rest⟩ least _ := Reads.scan _
  rw [scanFrom, scanned] at reads
  simp only [Option.map_some, List.length_append, Nat.add_sub_cancel, Cursor.advance_append] at reads
  exact reads

theorem token_none {Value : Type} {read : List Char → Option (Value × List Char)}
    (phrase : Value → Phrase) (fails : read text = none) :
    RuleReads (token read phrase) ⟨behind, text⟩ least none := by
  have reads : RuleReads (token read phrase) ⟨behind, text⟩ least _ := Reads.scan _
  rw [scanFrom, fails] at reads
  exact reads

theorem reads_mark {sign : String} {chars : List Char} (shape : sign.toList = chars) (phrase : Phrase) :
    RuleReads (mark sign phrase) ⟨behind, chars ++ rest⟩ least
      (some (phrase, ⟨chars.reverse ++ behind, rest⟩)) := by
  have reads : RuleReads (.literal chars phrase) ⟨behind, chars ++ rest⟩ least _ := Reads.scan _
  have front : chars.isPrefixOf (chars ++ rest) = true := by
    rw [List.isPrefixOf_iff_prefix]
    exact List.prefix_append chars rest
  rw [scanFrom, if_pos front, Option.map_some, Cursor.advance_append] at reads
  rw [mark, shape]
  exact reads

theorem mark_none {sign : String} {first : Char} {more : List Char} (shape : sign.toList = first :: more)
    (phrase : Phrase) (other : ∀ c ∈ text.head?, c ≠ first) :
    RuleReads (mark sign phrase) ⟨behind, text⟩ least none := by
  have reads : RuleReads (.literal (first :: more) phrase) ⟨behind, text⟩ least _ := Reads.scan _
  have apart : (first :: more).isPrefixOf text = false := by
    cases text with
    | nil => rfl
    | cons c rest =>
      have different := other c rfl
      simp [List.isPrefixOf, Ne.symm different]
  rw [scanFrom, apart] at reads
  rw [mark, shape]
  exact reads

theorem star_letters : "*".toList = ['*'] := by simp

theorem open_letters : "(".toList = ['('] := by simp

theorem close_letters : ")".toList = [')'] := by simp

theorem no_letters : "no".toList = ['n', 'o'] := by simp

theorem reads_keyword {word : String} {written : List Char}
    (known : ∀ letter ∈ word.toList, IsWordLetter letter) (spells : Spells word written) :
    RuleReads (keyword word) ⟨behind, written ++ rest⟩ least
      (some (.nothing, ⟨written.reverse ++ behind, rest⟩)) := by
  have reads : RuleReads (keyword word) ⟨behind, written ++ rest⟩ least _ := Reads.scan _
  rw [scanFrom, spelled?_append known spells rest] at reads
  simp only [Option.map_some, Cursor.advance_append] at reads
  exact reads

theorem keyword_none_of_spelled? {word : String} (fails : spelled? word.toList text = none) :
    RuleReads (keyword word) ⟨behind, text⟩ least none := by
  have reads : RuleReads (keyword word) ⟨behind, text⟩ least _ := Reads.scan _
  rw [scanFrom, fails] at reads
  exact reads

theorem keyword_none {word : String} {letter : Char} {more : List Char}
    (shape : word.toList = letter :: more) (known : IsWordLetter letter)
    (other : ∀ c ∈ text.head?, c.toLower ≠ letter) :
    RuleReads (keyword word) ⟨behind, text⟩ least none :=
  keyword_none_of_spelled? (by rw [shape]; exact spelled?_eq_none known other)

theorem reads_blanks {blanks : List Char} (blank : Blanks blanks) (some : blanks ≠ [])
    (visible : Visible rest) :
    RuleReads RuleText.blanks ⟨behind, blanks ++ rest⟩ least
      (.some (.nothing, ⟨blanks.reverse ++ behind, rest⟩)) := by
  have reads : RuleReads RuleText.blanks ⟨behind, blanks ++ rest⟩ least _ := Reads.scan _
  rw [scanFrom, takeWhile_blanks blank visible] at reads
  cases blanks with
  | nil => exact absurd rfl some
  | cons c more =>
    simp only [Option.map_some, Cursor.advance_append] at reads
    exact reads

theorem blanks_none (visible : Visible text) : RuleReads RuleText.blanks ⟨behind, text⟩ least none := by
  have reads : RuleReads RuleText.blanks ⟨behind, text⟩ least _ := Reads.scan _
  have taken : text.takeWhile isBlank = [] := takeWhile_blanks blanks_nil visible
  rw [scanFrom, taken] at reads
  exact reads

theorem reads_someBlanks {blanks : List Char} (blank : Blanks blanks) (visible : Visible rest) :
    RuleReads someBlanks ⟨behind, blanks ++ rest⟩ least
      (some (.nothing, ⟨blanks.reverse ++ behind, rest⟩)) := by
  cases blanks with
  | nil => exact Reads.maybe_none (blanks_none visible)
  | cons c more => exact Reads.maybe_some (reads_blanks blank (by simp) visible)

theorem reads_gap {blanks : List Char} (blank : Blanks blanks) (visible : Visible rest)
    (apart : blanks ≠ [] ∨ behind.head? = some ')' ∨ rest.head? = some '(') :
    RuleReads gap ⟨behind, blanks ++ rest⟩ least
      (some (.nothing, ⟨blanks.reverse ++ behind, rest⟩)) := by
  have reads : RuleReads gap ⟨behind, blanks ++ rest⟩ least _ := Reads.scan _
  have separated : (!blanks.isEmpty || decide (behind.head? = some ')') ||
      decide (rest.head? = some '(')) = true := by
    rcases apart with some | closed | opened
    · simp [some]
    · simp [closed]
    · simp [opened]
  rw [scanFrom] at reads
  simp only [takeWhile_blanks blank visible, List.drop_left, separated, if_true, Option.map_some,
    Cursor.advance_append] at reads
  exact reads

theorem gap_none (visible : Visible text) (notClosed : behind.head? ≠ some ')')
    (notOpened : text.head? ≠ some '(') : RuleReads gap ⟨behind, text⟩ least none := by
  have reads : RuleReads gap ⟨behind, text⟩ least _ := Reads.scan _
  have taken : text.takeWhile isBlank = [] := takeWhile_blanks blanks_nil visible
  rw [scanFrom] at reads
  simp only [taken, List.isEmpty_nil, List.length_nil, List.drop_zero, notClosed, notOpened, Bool.not_true,
    Bool.false_or, decide_false, Bool.false_eq_true, if_false, Option.map_none] at reads
  exact reads

theorem StringToken.first {text value : List Char} (spelled : StringToken text value) (rest : List Char) :
    ∃ c more, text ++ rest = c :: more ∧ (c = '"' ∨ isBare c = true) := by
  cases spelled with
  | bare some bare =>
    cases text with
    | nil => exact absurd rfl some
    | cons c more => exact ⟨c, more ++ rest, rfl, Or.inr (bare c List.mem_cons_self)⟩
  | quoted quoted => exact ⟨_, _, by rw [List.append_assoc, List.cons_append], Or.inl rfl⟩

/-- A string does not begin with a delimiter other than a quote. -/
theorem StringToken.first_ne {text value : List Char} {sign : Char} (spelled : StringToken text value)
    (delimiter : isBare sign = false) (notQuote : sign ≠ '"') (rest : List Char) :
    ∀ c ∈ (text ++ rest).head?, c ≠ sign := by
  obtain ⟨d, more, shape, quote | bare⟩ := spelled.first rest
  · rw [shape, forall_head_cons, quote]
    exact notQuote.symm
  · rw [shape, forall_head_cons]
    rintro rfl
    rw [delimiter] at bare
    contradiction

theorem StringToken.visible {text value : List Char} (spelled : StringToken text value) (rest : List Char) :
    Visible (text ++ rest) := by
  obtain ⟨d, more, shape, quote | bare⟩ := spelled.first rest
  · rw [Visible, shape, forall_head_cons, quote]
    decide
  · rw [Visible, shape, forall_head_cons]
    exact not_blank_of_bare bare

theorem scanRegexp_eq_none {text : List Char} (other : ∀ c ∈ text.head?, c ≠ '/') :
    scanRegexp text = none := by
  unfold scanRegexp
  split
  · rename_i same
    exact absurd rfl (other _ (by rw [List.head?_cons]; rfl))
  · rfl

theorem not_i_of_atBoundary (boundary : atBoundary rest = true) : ∀ c ∈ rest.head?, c ≠ 'i' := by
  intro c first same
  have ends := endsBare_of_atBoundary boundary c first
  rw [same] at ends
  exact absurd ends (by decide)

theorem reads_value {atom : Option Atom} (valued : ValueToken text atom)
    (boundary : atBoundary rest = true) :
    RuleReads RuleText.value ⟨behind, text ++ rest⟩ least
      (some (.operand atom, ⟨text.reverse ++ behind, rest⟩)) := by
  cases valued with
  | any => exact Reads.union_here (reads_mark star_letters _)
  | regexp spelled =>
    have scanned := scanRegexp_append spelled (not_i_of_atBoundary boundary)
    apply Reads.union_next
    · apply mark_none star_letters
      obtain ⟨⟩ := spelled
      rw [List.cons_append, List.cons_append, forall_head_cons]
      decide
    · exact Reads.union_here (reads_token _ scanned)
  | string spelled =>
    have scanned := scanString_append spelled (endsBare_of_atBoundary boundary)
    apply Reads.union_next (mark_none star_letters _ (spelled.first_ne (by decide) (by decide) rest))
    apply Reads.union_next
    · exact token_none _ (scanRegexp_eq_none (spelled.first_ne (by decide) (by decide) rest))
    · exact Reads.union_here (reads_token stringOperand scanned)

theorem reads_network {atom : Atom} (networked : NetworkText text atom) (boundary : atBoundary rest = true)
    (ending : Ending junctionWords rest) :
    RuleReads network ⟨behind, text ++ rest⟩ least
      (some (.operand (some atom), ⟨text.reverse ++ behind, rest⟩)) := by
  cases networked with
  | ip spelled =>
    exact Reads.union_here
      (reads_token (fun range => .operand (some (.ip range))) (scanIp_append spelled boundary ending))
  | domainName spelled =>
    have scanned := scanDomain_append spelled (endsBare_of_atBoundary boundary)
    apply Reads.union_next (token_none _ (scanIp_domain spelled boundary ending))
    apply Reads.union_here
    exact reads_token (fun pattern => .operand (some (.domainName pattern))) scanned

theorem network_none (noIp : scanIp text = none) (noDomain : scanDomain text = none) :
    RuleReads network ⟨behind, text⟩ least none := by
  apply Reads.union_next (token_none _ noIp)
  exact Reads.union_next (token_none _ noDomain) Reads.union_nil

/-- The key of a test, or a star. -/
abbrev keyOrStar : RuleGrammar :=
  .union [mark "*" (.key none), token scanString fun name => .key (some (String.ofList name))]

/-- What can follow a key, with what is made of both. -/
abbrev keyTails : List (RuleGrammar × (Phrase → Phrase → Phrase)) :=
  [(matchTail, testOf .matching), (nonMatchTail, testOf .nonMatching)]

theorem reads_keyOrStar {key : Option String} (keyed : KeyToken text key) (ends : EndsBare rest) :
    RuleReads keyOrStar ⟨behind, text ++ rest⟩ least
      (some (.key key, ⟨text.reverse ++ behind, rest⟩)) := by
  cases keyed with
  | any => exact Reads.union_here (reads_mark star_letters _)
  | string spelled =>
    apply Reads.union_next (mark_none star_letters _ (spelled.first_ne (by decide) (by decide) rest))
    exact Reads.union_here
      (reads_token (fun name => .key (some (String.ofList name))) (scanString_append spelled ends))

theorem equal_letters : "=".toList = ['='] := by simp

theorem unequal_letters : "!=".toList = ['!', '='] := by simp

theorem in_letters : "in".toList = ['i', 'n'] := by simp

theorem not_letters : "not".toList = ['n', 'o', 't'] := by simp

theorem Spells.in_first {word : String} {letter : Char} {more written : List Char}
    (spells : Spells word written) (letters : word.toList = letter :: more) (rest : List Char) :
    ∃ c others, written ++ rest = c :: others ∧ c.toLower = letter := by
  obtain ⟨c, others, rfl, lower, -⟩ := List.map_eq_cons_iff.1 (spells.trans letters)
  exact ⟨c, others ++ rest, rfl, lower⟩

theorem bare_of_toLower {c letter : Char} (known : IsWordLetter letter) (lower : c.toLower = letter) :
    isBare c = true := by
  have code := code_of_toLower lower
  simp only [IsWordLetter, List.mem_cons, List.not_mem_nil, or_false] at known
  have range : 65 ≤ c.toNat ∧ c.toNat ≤ 90 ∨ 97 ≤ c.toNat ∧ c.toNat ≤ 122 := by
    rcases known with rfl | rfl | rfl | rfl | rfl | rfl | rfl <;> simp at code <;> omega
  exact isBare_of_code (Or.inr (Or.inr range))

theorem visible_of_toLower {c letter : Char} (known : IsWordLetter letter) (lower : c.toLower = letter) :
    isBlank c = false :=
  not_blank_of_bare (bare_of_toLower known lower)

/-- No operator stands at the front, white space aside. -/
def NoOperator (text : List Char) : Prop :=
  ∀ c ∈ (dropBlanks text).head?, c ≠ '=' ∧ c ≠ '!' ∧ c.toLower ≠ 'i' ∧ c.toLower ≠ 'n'

theorem not_operator_of_code {c : Char} (sign : c.toNat ≠ 61 ∧ c.toNat ≠ 33)
    (lower : c.toNat ≠ 105 ∧ c.toNat ≠ 110) (upper : c.toNat ≠ 73 ∧ c.toNat ≠ 78) :
    c ≠ '=' ∧ c ≠ '!' ∧ c.toLower ≠ 'i' ∧ c.toLower ≠ 'n' := by
  refine ⟨?_, ?_, ?_, ?_⟩
  · rintro rfl
    exact sign.1 rfl
  · rintro rfl
    exact sign.2 rfl
  · intro same
    have code := code_of_toLower same
    simp at code
    omega
  · intro same
    have code := code_of_toLower same
    simp at code
    omega

theorem NoOperator.of_ending {text : List Char} (ending : Ending junctionWords text) : NoOperator text := by
  intro c first
  have code := ending.first_code c first
  exact not_operator_of_code (by omega) (by omega) (by omega)

theorem takeWhile_append_dropBlanks (text : List Char) :
    text.takeWhile isBlank ++ dropBlanks text = text :=
  List.takeWhile_append_dropWhile

theorem blanks_takeWhile (text : List Char) : Blanks (text.takeWhile isBlank) :=
  fun _ inside => List.mem_takeWhile_imp inside

theorem visible_dropBlanks (text : List Char) : Visible (dropBlanks text) := by
  cases shape : dropBlanks text with
  | nil => simp [Visible]
  | cons d rest =>
    rw [Visible, forall_head_cons]
    exact dropBlanks_head text d rest shape

theorem reads_someBlanks_before (text : List Char) :
    RuleReads someBlanks ⟨behind, text⟩ least
      (some (.nothing, ⟨(text.takeWhile isBlank).reverse ++ behind, dropBlanks text⟩)) := by
  have reads : RuleReads someBlanks ⟨behind, text.takeWhile isBlank ++ dropBlanks text⟩ least _ :=
    reads_someBlanks (blanks_takeWhile text) (visible_dropBlanks text)
  rw [takeWhile_append_dropBlanks] at reads
  exact reads

/-- White space and a word: they are not there if something else stands behind the white space. -/
theorem blanks_keyword_none {word : String} {letter : Char} {more : List Char}
    (letters : word.toList = letter :: more) (known : IsWordLetter letter)
    (other : ∀ c ∈ (dropBlanks text).head?, c.toLower ≠ letter) :
    RuleReads (blanks.andThen (keyword word)) ⟨behind, text⟩ least none := by
  by_cases some : text.takeWhile isBlank = []
  · have same := takeWhile_append_dropBlanks text
    rw [some, List.nil_append] at same
    refine Reads.andThen_first (blanks_none ?_)
    rw [← same]
    exact visible_dropBlanks text
  · have reads : RuleReads blanks ⟨behind, text.takeWhile isBlank ++ dropBlanks text⟩ least _ :=
      reads_blanks (blanks_takeWhile text) some (visible_dropBlanks text)
    rw [takeWhile_append_dropBlanks] at reads
    exact Reads.andThen_second reads (keyword_none letters known other)

/-- The same for a sign. -/
theorem blanks_mark_none {sign : String} {letter : Char} {more : List Char}
    (letters : sign.toList = letter :: more) (phrase : Phrase)
    (other : ∀ c ∈ (dropBlanks text).head?, c ≠ letter) :
    RuleReads (someBlanks.andThen (mark sign phrase)) ⟨behind, text⟩ least none :=
  Reads.andThen_second (reads_someBlanks_before text) (mark_none letters phrase other)

theorem matchTail_none (equal : ∀ c ∈ (dropBlanks text).head?, c ≠ '=')
    (inside : ∀ c ∈ (dropBlanks text).head?, c.toLower ≠ 'i') :
    RuleReads matchTail ⟨behind, text⟩ least none := by
  apply Reads.union_next
  · apply Reads.andThen_first
    apply Reads.andThen_first
    apply Reads.andThen_first
    exact blanks_mark_none equal_letters _ equal
  · apply Reads.union_next _ Reads.union_nil
    apply Reads.andThen_first
    apply Reads.andThen_first
    exact blanks_keyword_none in_letters (by decide) inside

theorem nonMatchTail_none (unequal : ∀ c ∈ (dropBlanks text).head?, c ≠ '!')
    (outside : ∀ c ∈ (dropBlanks text).head?, c.toLower ≠ 'n') :
    RuleReads nonMatchTail ⟨behind, text⟩ least none := by
  apply Reads.union_next
  · apply Reads.andThen_first
    apply Reads.andThen_first
    exact blanks_mark_none unequal_letters _ unequal
  · apply Reads.union_next _ Reads.union_nil
    apply Reads.andThen_first
    apply Reads.andThen_first
    apply Reads.andThen_first
    apply Reads.andThen_first
    exact blanks_keyword_none not_letters (by decide) outside

/-- Without an operator behind it a key is not the key of a test. -/
theorem tails_none {left : Phrase} (none : NoOperator text) :
    ReadsAfter definitions left ⟨behind, text⟩ keyTails least .none := by
  apply ReadsAfter.next
  · exact matchTail_none (fun c first => (none c first).1) fun c first => (none c first).2.2.1
  · apply ReadsAfter.next _ ReadsAfter.nil
    exact nonMatchTail_none (fun c first => (none c first).2.1) fun c first => (none c first).2.2.2

theorem EndsBare.of_blanks {blanks : List Char} (blank : Blanks blanks) (ends : EndsBare rest) :
    EndsBare (blanks ++ rest) := by
  cases blanks with
  | nil => exact ends
  | cons c more =>
    rw [EndsBare, List.cons_append, forall_head_cons]
    simp [isBare, blank c List.mem_cons_self]

theorem EndsBare.of_some_blanks {blanks : List Char} (blank : Blanks blanks) (some : blanks ≠ []) :
    EndsBare (blanks ++ rest) := by
  intro c first
  rw [List.head?_append_of_ne_nil _ some] at first
  simp [isBare, blank c (List.mem_of_mem_head? first)]

theorem reads_test {key : Option String} {name : List Char} {found : Phrase × Cursor}
    (keyed : KeyToken name key) (ends : EndsBare rest)
    (reads : ReadsAfter definitions (.key key) ⟨name.reverse ++ behind, rest⟩ keyTails least
      (some found)) :
    RuleReads basic ⟨behind, name ++ rest⟩ least (some found) := by
  have other : ∀ c ∈ (name ++ rest).head?, c ≠ '/' := by
    cases keyed with
    | any => simp
    | string spelled => exact spelled.first_ne (by decide) (by decide) rest
  refine Reads.union_next (token_none _ (scanRegexp_eq_none other)) (Reads.union_here ?_)
  exact Reads.step (reads_keyOrStar keyed ends) reads

theorem reads_matching {key : Option String} {atom : Option Atom} {name : List Char} {last : Cursor}
    (keyed : KeyToken name key) (ends : EndsBare rest)
    (tail : RuleReads matchTail ⟨name.reverse ++ behind, rest⟩ least (some (.operand atom, last))) :
    RuleReads basic ⟨behind, name ++ rest⟩ least (some (.rule (.test .matching key atom), last)) :=
  reads_test keyed ends (ReadsAfter.here tail)

theorem reads_nonMatching {key : Option String} {atom : Option Atom} {name : List Char} {last : Cursor}
    (keyed : KeyToken name key) (ends : EndsBare rest)
    (other : RuleReads matchTail ⟨name.reverse ++ behind, rest⟩ least none)
    (tail : RuleReads nonMatchTail ⟨name.reverse ++ behind, rest⟩ least (some (.operand atom, last))) :
    RuleReads basic ⟨behind, name ++ rest⟩ least (some (.rule (.test .nonMatching key atom), last)) :=
  reads_test keyed ends (ReadsAfter.next other (ReadsAfter.here tail))

theorem ValueToken.visible {atom : Option Atom} (valued : ValueToken text atom) (rest : List Char) :
    Visible (text ++ rest) ∧ ∀ c ∈ (text ++ rest).head?, c ≠ '=' := by
  cases valued with
  | any => simp [Visible, isBlank]
  | regexp spelled =>
    obtain ⟨⟩ := spelled
    simp [Visible, isBlank]
  | string spelled => exact ⟨spelled.visible rest, spelled.first_ne (by decide) (by decide) rest⟩

theorem ValueToken.not_equal {atom : Option Atom} {blanks : List Char} (blank : Blanks blanks)
    (valued : ValueToken text atom) (rest : List Char) :
    ∀ c ∈ (blanks ++ (text ++ rest)).head?, c ≠ '=' := by
  cases blanks with
  | nil => exact (valued.visible rest).2
  | cons d more =>
    rw [List.cons_append, forall_head_cons]
    rintro rfl
    exact absurd (blank _ List.mem_cons_self) (by decide)

theorem reads_matchTail_equal {atom : Option Atom} {before sign after value : List Char}
    (front : Blanks before) (signed : sign = ['='] ∨ sign = ['=', '=']) (back : Blanks after)
    (valued : ValueToken value atom) (boundary : atBoundary rest = true) :
    RuleReads matchTail ⟨behind, before ++ (sign ++ (after ++ (value ++ rest)))⟩ least
      (some (.operand atom,
        ⟨value.reverse ++ (after.reverse ++ (sign.reverse ++ (before.reverse ++ behind))), rest⟩)) := by
  have signVisible (more : List Char) : Visible ('=' :: more) := by simp [Visible, isBlank]
  have reads : RuleReads ((someBlanks.andThen (mark "=" .nothing)).andThen
      ((mark "=" .nothing).maybe id .nothing))
      ⟨behind, before ++ (sign ++ (after ++ (value ++ rest)))⟩ least
      (some (.nothing, ⟨sign.reverse ++ (before.reverse ++ behind), after ++ (value ++ rest)⟩)) := by
    rcases signed with rfl | rfl
    · apply Reads.andThen
      · exact Reads.andThen (reads_someBlanks front (signVisible _)) (reads_mark equal_letters _)
      · exact Reads.maybe_none (mark_none equal_letters _ (valued.not_equal back rest))
    · apply Reads.andThen
      · apply Reads.andThen (reads_someBlanks front (signVisible _))
        exact @reads_mark _ ('=' :: (after ++ (value ++ rest))) _ _ _ equal_letters _
      · apply Reads.maybe_some
        exact @reads_mark _ (after ++ (value ++ rest)) _ _ _ equal_letters _
  apply Reads.union_here
  apply Reads.andThen
  · exact Reads.andThen reads (reads_someBlanks back (valued.visible rest).1)
  · exact reads_value valued boundary

theorem reads_nonMatchTail_unequal {atom : Option Atom} {before after value : List Char}
    (front : Blanks before) (back : Blanks after) (valued : ValueToken value atom)
    (boundary : atBoundary rest = true) :
    RuleReads nonMatchTail ⟨behind, before ++ (['!', '='] ++ (after ++ (value ++ rest)))⟩ least
      (some (.operand atom,
        ⟨value.reverse ++ (after.reverse ++ (['=', '!'] ++ (before.reverse ++ behind))), rest⟩)) := by
  have signVisible (more : List Char) : Visible ('!' :: more) := by simp [Visible, isBlank]
  apply Reads.union_here
  apply Reads.andThen
  · apply Reads.andThen
    · exact Reads.andThen (reads_someBlanks front (signVisible _)) (reads_mark unequal_letters _)
    · exact reads_someBlanks back (valued.visible rest).1
  · exact reads_value valued boundary

theorem IpText.first {range : IpRange} (spelled : IpText text range) (rest : List Char) :
    ∃ c more, text ++ rest = c :: more ∧ IsColonsChar c := by
  have front {first : List Char} {address : IpAddress} (read : IpAddress.read? first = some address)
      (rest : List Char) : ∃ c more, first ++ rest = c :: more ∧ IsColonsChar c := by
    obtain ⟨some, chars⟩ := chars_of_read? read
    cases first with
    | nil => exact absurd rfl some
    | cons c more => exact ⟨c, more ++ rest, rfl, chars c List.mem_cons_self⟩
  cases spelled with
  | address read => exact front read rest
  | block read =>
    simp only [List.append_assoc]
    exact front read _
  | ends read =>
    simp only [List.append_assoc]
    exact front read _

theorem NetworkText.visible {atom : Atom} (networked : NetworkText text atom) (rest : List Char) :
    Visible (text ++ rest) := by
  cases networked with
  | ip spelled =>
    obtain ⟨c, more, shape, char⟩ := spelled.first rest
    rw [Visible, shape, forall_head_cons]
    exact not_blank_of_bare (isBare_of_isColonsChar char)
  | domainName spelled =>
    obtain ⟨count, some, bare, -⟩ := spelled
    cases count with
    | zero => exact visible_append some bare
    | succ count => simp [Visible, DomainPattern.wildcardText, isBlank]

/-- A word is visible and is not taken for another word or a sign. -/
theorem Spells.first_facts {word : String} {letter : Char} {more written : List Char}
    (spells : Spells word written) (letters : word.toList = letter :: more) (known : IsWordLetter letter)
    (rest : List Char) : Visible (written ++ rest) ∧
      ∀ c ∈ (written ++ rest).head?, c.toLower = letter ∧ c ≠ '=' ∧ c ≠ '!' := by
  obtain ⟨c, others, shape, lower⟩ := spells.in_first letters rest
  rw [Visible, shape, forall_head_cons, forall_head_cons]
  refine ⟨visible_of_toLower known lower, lower, ?_, ?_⟩
  · rintro rfl
    rw [← lower] at known
    exact absurd known (by decide)
  · rintro rfl
    rw [← lower] at known
    exact absurd known (by decide)

theorem reads_matchTail_inside {atom : Atom} {before word after text : List Char} (front : Blanks before)
    (apart : before ≠ []) (spelled : Spells "in" word) (back : Blanks after) (separate : after ≠ [])
    (networked : NetworkText text atom) (boundary : atBoundary rest = true)
    (ending : Ending junctionWords rest) :
    RuleReads matchTail ⟨behind, before ++ (word ++ (after ++ (text ++ rest)))⟩ least
      (some (.operand (some atom),
        ⟨text.reverse ++ (after.reverse ++ (word.reverse ++ (before.reverse ++ behind))), rest⟩)) := by
  obtain ⟨visible, facts⟩ := spelled.first_facts in_letters (by decide) (after ++ (text ++ rest))
  apply Reads.union_next
  · apply Reads.andThen_first
    apply Reads.andThen_first
    apply Reads.andThen_first
    apply blanks_mark_none equal_letters
    rw [dropBlanks_append front, dropBlanks_visible visible]
    exact fun c first => (facts c first).2.1
  · apply Reads.union_here
    apply Reads.andThen
    · apply Reads.andThen
      · apply Reads.andThen (reads_blanks front apart visible)
        exact reads_keyword (by simp [in_letters, IsWordLetter]) spelled
      · exact reads_blanks back separate (networked.visible rest)
    · exact reads_network networked boundary ending

theorem matchTail_none_outside {before word : List Char} (front : Blanks before)
    (denied : Spells "not" word) (rest : List Char) :
    RuleReads matchTail ⟨behind, before ++ (word ++ rest)⟩ least none := by
  obtain ⟨visible, facts⟩ := denied.first_facts not_letters (by decide) rest
  have front : dropBlanks (before ++ (word ++ rest)) = word ++ rest := by
    rw [dropBlanks_append front, dropBlanks_visible visible]
  apply matchTail_none
  · rw [front]
    exact fun c first => (facts c first).2.1
  · rw [front]
    intro c first same
    rw [(facts c first).1] at same
    exact absurd same (by decide)

theorem reads_nonMatchTail_outside {atom : Atom} {before denial middle word after text : List Char}
    (front : Blanks before) (apart : before ≠ []) (denied : Spells "not" denial) (between : Blanks middle)
    (distinct : middle ≠ []) (spelled : Spells "in" word) (back : Blanks after) (separate : after ≠ [])
    (networked : NetworkText text atom) (boundary : atBoundary rest = true)
    (ending : Ending junctionWords rest) :
    RuleReads nonMatchTail
      ⟨behind, before ++ (denial ++ (middle ++ (word ++ (after ++ (text ++ rest)))))⟩ least
      (some (.operand (some atom), ⟨text.reverse ++ (after.reverse ++ (word.reverse ++ (middle.reverse ++
        (denial.reverse ++ (before.reverse ++ behind))))), rest⟩)) := by
  obtain ⟨visible, facts⟩ := denied.first_facts not_letters (by decide)
    (middle ++ (word ++ (after ++ (text ++ rest))))
  obtain ⟨visibleIn, -⟩ := spelled.first_facts in_letters (by decide) (after ++ (text ++ rest))
  apply Reads.union_next
  · apply Reads.andThen_first
    apply Reads.andThen_first
    apply blanks_mark_none unequal_letters
    rw [dropBlanks_append front, dropBlanks_visible visible]
    exact fun c first => (facts c first).2.2
  · apply Reads.union_here
    apply Reads.andThen
    · apply Reads.andThen
      · apply Reads.andThen
        · apply Reads.andThen
          · apply Reads.andThen (reads_blanks front apart visible)
            exact reads_keyword (by simp [not_letters, IsWordLetter]) denied
          · exact reads_blanks between distinct visibleIn
        · exact reads_keyword (by simp [in_letters, IsWordLetter]) spelled
      · exact reads_blanks back separate (networked.visible rest)
    · exact reads_network networked boundary ending

theorem dropWhile_bare_append {front : List Char} (bare : ∀ c ∈ front, isBare c = true)
    (rest : List Char) :
    (front ++ rest).dropWhile isBare = rest.dropWhile isBare :=
  List.dropWhile_append_of_pos bare

theorem dropWhile_bare_of_ends (ends : EndsBare text) : text.dropWhile isBare = text := by
  cases text with
  | nil => rfl
  | cons c more => simp [ends c rfl]

theorem NoOperator.of_blanks {blanks : List Char} (blank : Blanks blanks) {c : Char}
    (first : c ≠ '=' ∧ c ≠ '!' ∧ c.toLower ≠ 'i' ∧ c.toLower ≠ 'n')
    (visible : isBlank c = false) :
    NoOperator (blanks ++ c :: rest) := by
  intro d same
  rw [dropBlanks_append blank, dropBlanks_cons_of_not_blank visible, List.head?_cons,
    Option.mem_some_iff] at same
  rw [← same]
  exact first

theorem no_operator_of_isColonsChar {c : Char} (char : IsColonsChar c) :
    c ≠ '=' ∧ c ≠ '!' ∧ c.toLower ≠ 'i' ∧ c.toLower ≠ 'n' := by
  have code := code_of_isColonsChar char
  exact not_operator_of_code (by omega) (by omega) (by omega)

theorem matchTail_none_unequal {before : List Char} (front : Blanks before) (rest : List Char) :
    RuleReads matchTail ⟨behind, before ++ (['!', '='] ++ rest)⟩ least none := by
  have visible : Visible (['!', '='] ++ rest) := by simp [Visible, isBlank]
  apply matchTail_none
  · rw [dropBlanks_append front, dropBlanks_visible visible]
    simp
  · rw [dropBlanks_append front, dropBlanks_visible visible]
    simp

/-- Behind the bare token at the front of a range there is no operator. -/
theorem IpText.no_operator {range : IpRange} (spelled : IpText text range)
    (boundary : atBoundary rest = true) (ending : Ending junctionWords rest) :
    NoOperator ((text ++ rest).dropWhile isBare) := by
  have ends := endsBare_of_atBoundary boundary
  have after := NoOperator.of_ending ending
  cases spelled with
  | address read =>
    rw [dropWhile_bare_append (bare_of_read? read).2, dropWhile_bare_of_ends ends]
    exact after
  | block read front =>
    simp only [List.append_assoc, List.cons_append]
    rw [dropWhile_bare_append (bare_of_read? read).2,
      dropWhile_bare_of_ends (.of_blanks front (by simp [EndsBare, isBare, delimiters]))]
    exact .of_blanks front (by decide) (by decide)
  | ends read front back readOther valid =>
    rename_i first before behind other one last
    obtain ⟨c, more, shape, char⟩ := IpText.first (.address readOther) rest
    simp only [List.append_assoc, List.cons_append]
    rw [dropWhile_bare_append (bare_of_read? read).2]
    by_cases closeBefore : before = []
    · rw [closeBefore, List.nil_append, List.dropWhile_cons_of_pos (show isBare '-' = true by decide)]
      by_cases closeBehind : behind = []
      · rw [closeBehind, List.nil_append, dropWhile_bare_append (bare_of_read? readOther).2,
          dropWhile_bare_of_ends ends]
        exact after
      · rw [dropWhile_bare_of_ends (.of_some_blanks back closeBehind), shape]
        exact .of_blanks back (no_operator_of_isColonsChar char)
          (not_blank_of_bare (isBare_of_isColonsChar char))
    · rw [dropWhile_bare_of_ends (.of_some_blanks front closeBefore)]
      exact .of_blanks front (by decide) (by decide)

/-- A key that no operator follows is not the beginning of a test. -/
theorem test_none {name : List Char} (scanned : scanString (text ++ rest) = some (name, rest))
    (star : ∀ c ∈ (text ++ rest).head?, c ≠ '*') (none : NoOperator rest) :
    RuleReads (.step keyOrStar keyTails) ⟨behind, text ++ rest⟩ least .none := by
  have keyed : RuleReads keyOrStar ⟨behind, text ++ rest⟩ least
      (some (.key (some (String.ofList name)), ⟨text.reverse ++ behind, rest⟩)) := by
    apply Reads.union_next (mark_none star_letters _ star)
    exact Reads.union_here (reads_token (fun name => .key (some (String.ofList name))) scanned)
  exact Reads.step keyed (tails_none none)

theorem test_none_bare {name : List Char} (some : name ≠ []) (bare : ∀ c ∈ name, isBare c = true)
    (ends : EndsBare rest) (none : NoOperator rest) :
    RuleReads (.step keyOrStar keyTails) ⟨behind, name ++ rest⟩ least .none :=
  test_none (scanString_bare some bare ends) (head_bare some bare rest) none

theorem IpText.test_none {range : IpRange} (spelled : IpText text range)
    (boundary : atBoundary rest = true) (ending : Ending junctionWords rest) :
    RuleReads (.step keyOrStar keyTails) ⟨behind, text ++ rest⟩ least none := by
  obtain ⟨c, more, shape, char⟩ := spelled.first rest
  have whole : (text ++ rest).takeWhile isBare ++ (text ++ rest).dropWhile isBare = text ++ rest :=
    List.takeWhile_append_dropWhile
  have some : (text ++ rest).takeWhile isBare ≠ [] := by
    rw [shape, List.takeWhile_cons_of_pos (isBare_of_isColonsChar char)]
    simp
  have ends : EndsBare ((text ++ rest).dropWhile isBare) := by
    intro d first
    have stops := List.head?_dropWhile_not isBare (text ++ rest)
    rw [Option.mem_def.1 first] at stops
    simpa using stops
  rw [← whole]
  exact test_none_bare some (fun _ inside => List.mem_takeWhile_imp inside) ends
    (spelled.no_operator boundary ending)

theorem no_operator_dot (text : List Char) : NoOperator ('.' :: text) :=
  NoOperator.of_blanks blanks_nil (by decide) (by decide)

theorem DomainText.test_none {pattern : DomainPattern} (spelled : DomainText text pattern)
    (boundary : atBoundary rest = true) (ending : Ending junctionWords rest) :
    RuleReads (.step keyOrStar keyTails) ⟨behind, text ++ rest⟩ least none := by
  obtain ⟨count, some, bare, -⟩ := spelled
  rename_i token
  cases count with
  | zero => exact test_none_bare some bare (endsBare_of_atBoundary boundary) (.of_ending ending)
  | succ count =>
    exact Reads.step (Reads.union_here (reads_mark star_letters _)) (tails_none (no_operator_dot _))

theorem Spells.not_nil {word : String} {letter : Char} {more written : List Char}
    (spells : Spells word written) (letters : word.toList = letter :: more) : written ≠ [] := by
  obtain ⟨c, others, rfl, -⟩ := List.map_eq_cons_iff.1 (spells.trans letters)
  simp

theorem scanRegexp_cons_none {c : Char} (text : List Char) (other : c ≠ '/') :
    scanRegexp (c :: text) = none := by
  apply scanRegexp_eq_none
  rw [forall_head_cons]
  exact other

theorem ne_slash_of_bare {c : Char} (bare : isBare c = true) : c ≠ '/' := by
  rintro rfl
  exact absurd bare (by decide)

theorem scanRegexp_bare (some : text ≠ []) (bare : ∀ c ∈ text, isBare c = true) (rest : List Char) :
    scanRegexp (text ++ rest) = none := by
  refine scanRegexp_eq_none fun c first => ne_slash_of_bare (bare c ?_)
  rw [List.head?_append_of_ne_nil _ some] at first
  exact List.mem_of_mem_head? first

theorem NetworkText.not_regexp {atom : Atom} (networked : NetworkText text atom) (rest : List Char) :
    scanRegexp (text ++ rest) = none := by
  cases networked with
  | ip spelled =>
    obtain ⟨c, more, shape, char⟩ := spelled.first rest
    rw [shape]
    exact scanRegexp_cons_none more (ne_slash_of_bare (isBare_of_isColonsChar char))
  | domainName spelled =>
    obtain ⟨count, some, bare, -⟩ := spelled
    rename_i token
    cases count with
    | zero => exact scanRegexp_bare some bare rest
    | succ count => exact scanRegexp_cons_none _ (by decide)

/-- A star with nothing behind it is not a domain. -/
theorem scanDomain_star (boundary : atBoundary rest = true) : scanDomain ('*' :: rest) = none := by
  have plain : spanWildcards ('*' :: rest) = ([], '*' :: rest) := by
    cases rest with
    | nil => rfl
    | cons c more =>
      apply spanWildcards.eq_2 _
      intro other same
      obtain ⟨-, same⟩ := List.cons.inj same
      rw [same] at boundary
      exact absurd boundary (by simp [atBoundary, isBlank])
  rw [scanDomain, plain]
  rfl

theorem reads_equal {key : Option String} {atom : Option Atom} {name before sign after value : List Char}
    (keyed : KeyToken name key) (front : Blanks before) (signed : sign = ['='] ∨ sign = ['=', '='])
    (back : Blanks after) (valued : ValueToken value atom) (boundary : atBoundary rest = true) :
    RuleReads basic ⟨behind, name ++ before ++ sign ++ after ++ value ++ rest⟩ least
      (some (.rule (.test .matching key atom),
        ⟨(name ++ before ++ sign ++ after ++ value).reverse ++ behind, rest⟩)) := by
  refine RuleReads.congr (reads_matching keyed ?_
    (reads_matchTail_equal front signed back valued boundary)) (by simp) (by simp)
  apply EndsBare.of_blanks front
  rcases signed with rfl | rfl <;> simp [EndsBare, isBare, delimiters]

theorem reads_unequal {key : Option String} {atom : Option Atom} {name before after value : List Char}
    (keyed : KeyToken name key) (front : Blanks before) (back : Blanks after)
    (valued : ValueToken value atom) (boundary : atBoundary rest = true) :
    RuleReads basic ⟨behind, name ++ before ++ ['!', '='] ++ after ++ value ++ rest⟩ least
      (some (.rule (.test .nonMatching key atom),
        ⟨(name ++ before ++ ['!', '='] ++ after ++ value).reverse ++ behind, rest⟩)) := by
  refine RuleReads.congr (reads_nonMatching keyed ?_ (matchTail_none_unequal front _)
    (reads_nonMatchTail_unequal front back valued boundary)) (by simp) (by simp)
  exact .of_blanks front (by simp [EndsBare, isBare, delimiters])

theorem reads_inside {key : Option String} {atom : Atom} {name before word after network : List Char}
    (keyed : KeyToken name key) (front : Blanks before) (apart : before ≠ []) (spelled : Spells "in" word)
    (back : Blanks after) (separate : after ≠ []) (networked : NetworkText network atom)
    (boundary : atBoundary rest = true) (ending : Ending junctionWords rest) :
    RuleReads basic ⟨behind, name ++ before ++ word ++ after ++ network ++ rest⟩ least
      (some (.rule (.test .matching key (some atom)),
        ⟨(name ++ before ++ word ++ after ++ network).reverse ++ behind, rest⟩)) :=
  RuleReads.congr
    (reads_matching keyed (.of_some_blanks front apart)
      (reads_matchTail_inside front apart spelled back separate networked boundary ending))
    (by simp) (by simp)

theorem reads_outside {key : Option String} {atom : Atom}
    {name before denial middle word after network : List Char} (keyed : KeyToken name key)
    (front : Blanks before) (apart : before ≠ []) (denied : Spells "not" denial) (between : Blanks middle)
    (distinct : middle ≠ []) (spelled : Spells "in" word) (back : Blanks after) (separate : after ≠ [])
    (networked : NetworkText network atom) (boundary : atBoundary rest = true)
    (ending : Ending junctionWords rest) :
    RuleReads basic ⟨behind, name ++ before ++ denial ++ middle ++ word ++ after ++
      network ++ rest⟩ least
      (some (.rule (.test .nonMatching key (some atom)),
        ⟨(name ++ before ++ denial ++ middle ++ word ++ after ++ network).reverse ++ behind, rest⟩)) :=
  RuleReads.congr (reads_nonMatching keyed (.of_some_blanks front apart)
    (matchTail_none_outside front denied _) (reads_nonMatchTail_outside front apart denied between distinct
      spelled back separate networked boundary ending)) (by simp) (by simp)

/-- A rule without parts is read where it ends. -/
theorem LeafText.reads {expression : Expression} (spelled : LeafText expression text)
    (boundary : atBoundary rest = true) (ending : Ending junctionWords rest) :
    RuleReads basic ⟨behind, text ++ rest⟩ least
      (some (.rule expression, ⟨text.reverse ++ behind, rest⟩)) := by
  have ends := endsBare_of_atBoundary boundary
  have after := NoOperator.of_ending ending
  cases spelled with
  | anything =>
    have noDomain : scanDomain ('*' :: rest) = none := scanDomain_star boundary
    apply Reads.union_next (token_none _ (scanRegexp_cons_none _ (by decide)))
    apply Reads.union_next (Reads.step (Reads.union_here (reads_mark star_letters _)) (tails_none after))
    apply Reads.union_next (Reads.map_none (network_none rfl noDomain))
    apply Reads.union_next (Reads.map_none (token_none _ rfl))
    exact Reads.union_here (reads_mark star_letters _)
  | equal keyed front signed back valued =>
    exact reads_equal keyed.token front signed back valued.token boundary
  | unequal keyed front back valued => exact reads_unequal keyed.token front back valued.token boundary
  | inside keyed front apart spelled back separate networked =>
    exact reads_inside keyed.token front apart spelled back separate networked boundary ending
  | outside keyed front apart denied between distinct spelled back separate networked =>
    exact reads_outside keyed.token front apart denied between distinct spelled back separate
      networked boundary
      ending
  | regexp spelled =>
    exact Reads.union_here (reads_token (fun regexp => .rule (.fuzzy (.regexp regexp)))
      (scanRegexp_append spelled (not_i_of_atBoundary boundary)))
  | network networked =>
    rename_i atom
    have none : RuleReads (.step keyOrStar keyTails) ⟨behind, text ++ rest⟩ least none := by
      cases networked with
      | ip spelled => exact spelled.test_none boundary ending
      | domainName spelled => exact spelled.test_none boundary ending
    apply Reads.union_next (token_none _ (networked.not_regexp rest))
    apply Reads.union_next none
    exact Reads.union_here ((reads_network networked boundary ending).map fuzzyOf)
  | bare some bare free notIp notDomain =>
    have scanned := scanString_bare some bare ends
    have noIp : scanIp (text ++ rest) = none := by
      rw [scanIp_bare bare boundary ending, notIp]
      rfl
    have noDomain : scanDomain (text ++ rest) = none := by
      rw [scanDomain_bare some bare ends, notDomain]
      rfl
    apply Reads.union_next (token_none _ (scanRegexp_bare some bare rest))
    apply Reads.union_next (test_none_bare some bare ends after)
    apply Reads.union_next (Reads.map_none (network_none noIp noDomain))
    exact Reads.union_here ((reads_token stringOperand scanned).map fuzzyOf)
  | quoted quoted =>
    rename_i inner value
    have scanned := scanString_append (.quoted quoted) ends
    apply Reads.union_next (token_none _ (scanRegexp_cons_none _ (by decide)))
    apply Reads.union_next (test_none scanned (by simp) after)
    apply Reads.union_next (Reads.map_none (network_none rfl rfl))
    exact Reads.union_here ((reads_token stringOperand scanned).map fuzzyOf)

/-- The text begins with a bare token, or with a character that begins neither a word nor anything in
parentheses. Behind the word `no` itself stands neither white space nor an opening parenthesis. -/
inductive Opening (text : List Char) : Prop where
  | token {token rest : List Char} (shape : text = token ++ rest) (some : token ≠ [])
    (bare : ∀ c ∈ token, isBare c = true) (ends : EndsBare rest)
    (closed : Spells "no" token → Visible rest ∧ ∀ c ∈ rest.head?, c ≠ '(')
  | sign {c : Char} {rest : List Char} (shape : text = c :: rest) (visible : isBlank c = false)
    (notNo : c.toLower ≠ 'n') (notOpen : c ≠ '(')

theorem not_keyword_no {token : List Char} (free : isKeyword token = false) : ¬Spells "no" token := by
  intro spells
  rw [isKeyword, spells] at free
  simp [keywords] at free

/-- A token that is no word of the language opens a rule. -/
theorem Opening.of_free {token rest : List Char} (some : token ≠ [])
    (bare : ∀ c ∈ token, isBare c = true)
    (free : isKeyword token = false) (ends : EndsBare rest) : Opening (token ++ rest) :=
  .token rfl some bare ends fun spells => absurd spells (not_keyword_no free)

theorem Opening.visible (opening : Opening text) : Visible text := by
  cases opening with
  | token shape some bare => rw [shape]; exact visible_append some bare
  | sign shape visible =>
    rw [Visible, shape, forall_head_cons]
    exact visible

theorem Opening.not_open (opening : Opening text) : ∀ c ∈ text.head?, c ≠ '(' := by
  cases opening with
  | token shape some bare =>
    rw [shape, List.head?_append_of_ne_nil _ some]
    rintro c first rfl
    exact absurd (bare _ (List.mem_of_mem_head? first)) (by decide)
  | sign shape visible notNo notOpen =>
    rw [shape, forall_head_cons]
    exact notOpen

theorem Opening.parentheses_none (opening : Opening text) :
    RuleReads parentheses ⟨behind, text⟩ least none :=
  Reads.sequence_none (mark_none open_letters _ opening.not_open)

/-- What stands behind a `no` at the front of a token: the rest of the token, or what follows the word. -/
theorem closed_after_no {token rest written after : List Char} (some : token ≠ [])
    (bare : ∀ c ∈ token, isBare c = true) (ends : EndsBare rest)
    (closed : Spells "no" token → Visible rest ∧ ∀ c ∈ rest.head?, c ≠ '(')
    (spells : Spells "no" written)
    (same : token ++ rest = written ++ after) : Visible after ∧ ∀ c ∈ after.head?, c ≠ '(' := by
  have letters : written.map Char.toLower = ['n', 'o'] := spells.trans no_letters
  obtain ⟨n, last, rfl, -, letters'⟩ := List.map_eq_cons_iff.1 letters
  obtain ⟨o, none, rfl, lowerO, letters''⟩ := List.map_eq_cons_iff.1 letters'
  obtain rfl := List.map_eq_nil_iff.1 letters''
  match token with
  | [] => exact absurd rfl some
  | [first] =>
    have next : rest = o :: after := (List.cons.inj same).2
    have other := ends o (by rw [next]; rfl)
    rw [bare_of_toLower (by decide) lowerO] at other
    contradiction
  | [first, second] =>
    simp only [List.cons_append, List.nil_append, List.cons.injEq] at same
    rw [← same.2.2]
    apply closed
    rw [same.1, same.2.1]
    exact spells
  | first :: second :: third :: more =>
    simp only [List.cons_append, List.nil_append, List.cons.injEq] at same
    have bareThird := bare third (by simp)
    rw [Visible, ← same.2.2, forall_head_cons, forall_head_cons]
    refine ⟨not_blank_of_bare bareThird, ?_⟩
    rintro rfl
    exact absurd bareThird (by decide)

/-- Nothing is denied: behind a token that only begins with `no` stands no operand. -/
theorem Opening.negation_none (opening : Opening text) :
    RuleReads negation ⟨behind, text⟩ least none := by
  cases opening with
  | sign shape visible notNo =>
    apply Reads.map_none
    apply Reads.andThen_first
    apply keyword_none no_letters (by decide)
    rw [shape, forall_head_cons]
    exact notNo
  | token shape some bare ends closed =>
    have known : ∀ letter ∈ "no".toList, IsWordLetter letter := by simp [no_letters, IsWordLetter]
    cases spelled : spelled? "no".toList text with
    | none => exact Reads.map_none (Reads.andThen_first (keyword_none_of_spelled? spelled))
    | some written =>
      obtain ⟨spells, after, same⟩ := eq_append_of_spelled? known spelled
      obtain ⟨visible, notOpen⟩ := closed_after_no some bare ends closed spells (shape.symm.trans same)
      rw [same]
      apply Reads.map_none
      apply Reads.andThen_second (reads_keyword known spells)
      apply Reads.union_next
      · apply Reads.andThen_second (@reads_someBlanks _ after _ [] blanks_nil visible)
        exact Reads.sequence_none (mark_none open_letters _ notOpen)
      · apply Reads.union_next _ Reads.union_nil
        exact Reads.andThen_first (blanks_none visible)

theorem NetworkText.opening {atom : Atom} (networked : NetworkText text atom) (ends : EndsBare rest) :
    Opening (text ++ rest) := by
  cases networked with
  | ip spelled =>
    obtain ⟨c, more, shape, char⟩ := spelled.first rest
    have bare := isBare_of_isColonsChar char
    refine .sign shape (not_blank_of_bare bare) (no_operator_of_isColonsChar char).2.2.2 ?_
    rintro rfl
    exact absurd bare (by decide)
  | domainName spelled =>
    obtain ⟨count, some, bare, read⟩ := spelled
    cases count with
    | zero => exact .of_free some bare (not_keyword_of_read some bare read) ends
    | succ count => exact .sign rfl (by decide) (by decide) (by decide)

/-- A rule without parts does not begin like a denial or something in parentheses. -/
theorem LeafText.opening {expression : Expression} (spelled : LeafText expression text)
    (ends : EndsBare rest) : Opening (text ++ rest) := by
  have key {name : List Char} {key : Option String} (keyed : KeyText name key) {rest : List Char}
      (ends : EndsBare rest) : Opening (name ++ rest) := by
    cases keyed with
    | any => exact .sign rfl (by decide) (by decide) (by decide)
    | string spelled =>
      cases spelled with
      | bare some bare free => exact .of_free some bare free ends
      | quoted quoted =>
        exact .sign (by rw [List.append_assoc, List.cons_append]) (by decide) (by decide) (by decide)
  cases spelled with
  | anything => exact .sign rfl (by decide) (by decide) (by decide)
  | equal keyed front signed =>
    simp only [List.append_assoc]
    refine key keyed (.of_blanks front ?_)
    rcases signed with rfl | rfl <;> simp [EndsBare, isBare, delimiters]
  | unequal keyed front =>
    simp only [List.append_assoc]
    exact key keyed (.of_blanks front (by simp [EndsBare, isBare, delimiters]))
  | inside keyed front apart =>
    simp only [List.append_assoc]
    exact key keyed (.of_some_blanks front apart)
  | outside keyed front apart =>
    simp only [List.append_assoc]
    exact key keyed (.of_some_blanks front apart)
  | regexp spelled =>
    obtain ⟨⟩ := spelled
    exact .sign rfl (by decide) (by decide) (by decide)
  | network networked => exact networked.opening ends
  | bare some bare free => exact .of_free some bare free ends
  | quoted quoted =>
    exact .sign (by rw [List.append_assoc, List.cons_append]) (by decide) (by decide) (by decide)

end RuleText

end EventRouting
