import EventRouting.DomainName
import EventRouting.Proofs.Text.LetterCase
import Mathlib.Data.List.Basic

set_option autoImplicit false

namespace EventRouting

open Text

theorem Text.map_toList_map_ofList (pieces : List (List Char)) :
    (pieces.map String.ofList).map String.toList = pieces := by
  simp

namespace DomainName

theorem mapM_eq_ok_cons_iff {Piece Value Failure : Type} {read : Piece → Except Failure Value}
    {piece : Piece} {pieces : List Piece} {values : List Value} :
    (piece :: pieces).mapM read = .ok values ↔
      ∃ value rest, read piece = .ok value ∧ pieces.mapM read = .ok rest ∧
        values = value :: rest := by
  rw [List.mapM_cons]
  constructor
  · intro all
    cases first : read piece with
    | error failure => rw [first] at all; contradiction
    | ok value =>
      cases others : pieces.mapM read with
      | error failure => rw [first, others] at all; contradiction
      | ok rest =>
        rw [first, others] at all
        exact ⟨value, rest, rfl, rfl, (Except.ok.inj all).symm⟩
  · rintro ⟨value, rest, first, others, rfl⟩
    rw [first, others]
    rfl

theorem mapM_eq_ok_forall {Piece Value Failure : Type} {read : Piece → Except Failure Value}
    {pieces : List Piece} {values : List Value} (all : pieces.mapM read = .ok values) :
    ∀ piece ∈ pieces, ∃ value ∈ values, read piece = .ok value := by
  induction pieces generalizing values with
  | nil => simp
  | cons piece pieces ih =>
    obtain ⟨value, rest, first, others, rfl⟩ := mapM_eq_ok_cons_iff.1 all
    intro other inside
    rcases List.mem_cons.1 inside with rfl | inside
    · exact ⟨value, List.mem_cons_self, first⟩
    · obtain ⟨found, known, same⟩ := ih others other inside
      exact ⟨found, List.mem_cons_of_mem _ known, same⟩

theorem mapM_eq_ok_values {Piece Value Failure : Type} {read : Piece → Except Failure Value}
    {pieces : List Piece} {values : List Value} (all : pieces.mapM read = .ok values) :
    ∀ value ∈ values, ∃ piece ∈ pieces, read piece = .ok value := by
  induction pieces generalizing values with
  | nil =>
    obtain rfl := Except.ok.inj all
    simp
  | cons piece pieces ih =>
    obtain ⟨value, rest, first, others, rfl⟩ := mapM_eq_ok_cons_iff.1 all
    intro other inside
    rcases List.mem_cons.1 inside with rfl | inside
    · exact ⟨piece, List.mem_cons_self, first⟩
    · obtain ⟨found, known, same⟩ := ih others other inside
      exact ⟨found, List.mem_cons_of_mem _ known, same⟩

theorem mapM_eq_ok_concat {Piece Value Failure : Type} {read : Piece → Except Failure Value}
    {pieces : List Piece} {last : Piece} {values : List Value}
    (all : (pieces ++ [last]).mapM read = .ok values) :
    ∃ value, read last = .ok value ∧ values.getLast? = some value := by
  induction pieces generalizing values with
  | nil =>
    obtain ⟨value, rest, first, others, rfl⟩ := mapM_eq_ok_cons_iff.1 all
    rw [List.mapM_nil] at others
    obtain rfl := Except.ok.inj others
    exact ⟨value, first, rfl⟩
  | cons piece pieces ih =>
    obtain ⟨value, rest, first, others, rfl⟩ := mapM_eq_ok_cons_iff.1 all
    obtain ⟨final, read, last⟩ := ih others
    refine ⟨final, read, ?_⟩
    cases rest with
    | nil => simp at last
    | cons next more => rwa [List.getLast?_cons_cons]

theorem isAscii_iff (text : List Char) : Idna.isAscii text = true ↔ ∀ c ∈ text, c.toNat < 128 := by
  simp [Idna.isAscii]

section Reading

variable (respell : List Char → Option (List Char))

/-- The spelling of a label before its characters are checked. -/
def spellingWith? (label : List Char) : Option (List Char) :=
  if Idna.isAscii label then some (label.map Char.toLower) else respell label

/-- The length is counted in characters: what is too long only in bytes has characters that no label has. -/
def normalLabelWith (label : List Char) : Except DomainNameError (List Char) :=
  match spellingWith? respell label with
  | none => .error (.invalidLabel (String.ofList label))
  | some spelled =>
    if spelled.isEmpty || maxLabelLength < spelled.length then
      .error (.labelLength (String.ofList label))
    else if !spelled.all isLabelChar then .error (.invalidLabel (String.ofList label))
    else if spelled.head? = some '-' || spelled.getLast? = some '-' then
      .error (.hyphen (String.ofList label))
    else .ok spelled

def readLabelsWith (name : List Char) : Except DomainNameError (List (List Char)) :=
  if name.isEmpty then .error .empty
  else do
    let labels ← (splitAt '.' name).mapM (normalLabelWith respell)
    if maxLength < dottedLength labels then .error (.tooLong (String.ofList name))
    else if (labels.getLast?.getD []).all Char.isDigit then
      .error (.numericTop (String.ofList name))
    else .ok labels

def readWith (text : List Char) : Except DomainNameError (List String) :=
  (readLabelsWith respell (dropFinalDot (trim text))).map (·.map String.ofList)

end Reading

theorem readWith_toAscii : readWith Idna.toAscii = read := rfl

variable {respell : List Char → Option (List Char)}

/-- A label in normal form. -/
structure IsLabel (text : List Char) : Prop where
  some : text ≠ []
  short : text.length ≤ maxLabelLength
  chars : ∀ c ∈ text, isLabelChar c = true
  front : text.head? ≠ .some '-'
  back : text.getLast? ≠ .some '-'

theorem normalLabelWith_eq_ok_iff {label spelled : List Char} :
    normalLabelWith respell label = .ok spelled ↔
      spellingWith? respell label = some spelled ∧ IsLabel spelled := by
  unfold normalLabelWith
  split
  · rename_i none
    simp [none]
  · rename_i found same
    rw [same, Option.some.injEq]
    split
    · rename_i long
      refine ⟨by simp, ?_⟩
      rintro ⟨rfl, label⟩
      simp only [Bool.or_eq_true, List.isEmpty_iff, decide_eq_true_eq] at long
      rcases long with none | long
      · exact absurd none label.some
      · exact absurd label.short (Nat.not_le_of_lt long)
    · rename_i short
      simp only [Bool.or_eq_true, List.isEmpty_iff, decide_eq_true_eq, not_or, Nat.not_lt] at short
      split
      · rename_i strange
        refine ⟨by simp, ?_⟩
        rintro ⟨rfl, label⟩
        rw [Bool.not_eq_true', List.all_eq_false] at strange
        obtain ⟨c, inside, other⟩ := strange
        exact absurd (label.chars c inside) other
      · rename_i chars
        split
        · rename_i hyphen
          refine ⟨by simp, ?_⟩
          rintro ⟨rfl, label⟩
          simp only [Bool.or_eq_true, decide_eq_true_eq] at hyphen
          exact absurd hyphen (not_or.2 ⟨label.front, label.back⟩)
        · rename_i plain
          simp only [Bool.or_eq_true, decide_eq_true_eq, not_or] at plain
          rw [Except.ok.injEq]
          constructor
          · rintro rfl
            exact ⟨rfl, short.1, short.2, by simpa using chars, plain.1, plain.2⟩
          · exact fun known => known.1

theorem spellingWith?_ascii {label : List Char} (ascii : ∀ c ∈ label, c.toNat < 128) :
    spellingWith? respell label = some (label.map Char.toLower) := by
  rw [spellingWith?, if_pos ((isAscii_iff label).2 ascii)]

theorem code_of_isLabelChar {c : Char} (char : isLabelChar c = true) :
    (97 ≤ c.toNat ∧ c.toNat ≤ 122) ∨ (48 ≤ c.toNat ∧ c.toNat ≤ 57) ∨ c.toNat = 95 ∨
    c.toNat = 45 := by
  simp only [isLabelChar, Char.isDigit, Bool.or_eq_true, Bool.and_eq_true, decide_eq_true_eq, ge_iff_le,
    UInt32.le_iff_toNat_le, beq_iff_eq] at char
  rcases char with ((lower | ⟨low, high⟩) | rfl) | rfl
  · have bounds : (decide ('a'.val ≤ c.val) && decide (c.val ≤ 'z'.val)) = true := lower
    rw [Bool.and_eq_true, decide_eq_true_eq, decide_eq_true_eq] at bounds
    exact Or.inl bounds
  · exact Or.inr (Or.inl ⟨low, high⟩)
  · exact Or.inr (Or.inr (Or.inl rfl))
  · exact Or.inr (Or.inr (Or.inr rfl))

theorem toLower_of_isLabelChar {c : Char} (char : isLabelChar c = true) : c.toLower = c := by
  have code := code_of_isLabelChar char
  exact toLower_of_code (by omega)

theorem IsLabel.ascii {label : List Char} (normal : IsLabel label) : ∀ c ∈ label, c.toNat < 128 := by
  intro c inside
  have code := code_of_isLabelChar (normal.chars c inside)
  omega

theorem IsLabel.toLower {label : List Char} (normal : IsLabel label) : label.map Char.toLower = label :=
  (List.map_congr_left fun c inside => toLower_of_isLabelChar (normal.chars c inside)).trans
    (List.map_id label)

/-- A label in normal form stays as it is. -/
theorem normalLabelWith_again {label : List Char} (normal : IsLabel label) :
    normalLabelWith respell label = .ok label := by
  refine normalLabelWith_eq_ok_iff.2 ⟨?_, normal⟩
  rw [spellingWith?_ascii normal.ascii, normal.toLower]

theorem mapM_eq_ok_self {labels : List (List Char)} (normal : ∀ label ∈ labels, IsLabel label) :
    labels.mapM (normalLabelWith respell) = .ok labels := by
  induction labels with
  | nil => rfl
  | cons label rest ih =>
    rw [List.mapM_cons, normalLabelWith_again (normal label List.mem_cons_self),
      ih fun other inside => normal other (List.mem_cons_of_mem _ inside)]
    rfl

theorem readLabelsWith_eq_ok_iff {name : List Char} {labels : List (List Char)} :
    readLabelsWith respell name = .ok labels ↔
      name ≠ [] ∧ (splitAt '.' name).mapM (normalLabelWith respell) = .ok labels ∧
        dottedLength labels ≤ maxLength ∧ (labels.getLast?.getD []).all Char.isDigit = false := by
  unfold readLabelsWith
  by_cases empty : name = []
  · simp [empty]
  · rw [if_neg (by simpa using empty)]
    cases all : (splitAt '.' name).mapM (normalLabelWith respell) with
    | error failure => simp [bind, Except.bind]
    | ok found =>
      change (if maxLength < dottedLength found then _ else _) = _ ↔ _
      constructor
      · intro read
        split at read
        · contradiction
        · split at read
          · contradiction
          · next short notNumeric =>
            obtain rfl := Except.ok.inj read
            exact ⟨empty, rfl, Nat.le_of_not_lt short, by simpa using notNumeric⟩
      · rintro ⟨-, same, short, notNumeric⟩
        obtain rfl := Except.ok.inj same
        rw [if_neg (Nat.not_lt_of_le short), if_neg (by simp [notNumeric])]

theorem labels_of_readLabelsWith {name : List Char} {labels : List (List Char)}
    (read : readLabelsWith respell name = .ok labels) :
    labels ≠ [] ∧ ∀ label ∈ labels, IsLabel label := by
  obtain ⟨-, all, -, -⟩ := readLabelsWith_eq_ok_iff.1 read
  constructor
  · obtain ⟨piece, pieces, shape⟩ := List.exists_cons_of_ne_nil (splitAt_ne_nil '.' name)
    rw [shape] at all
    obtain ⟨value, rest, -, -, rfl⟩ := mapM_eq_ok_cons_iff.1 all
    simp
  · intro label inside
    obtain ⟨piece, -, same⟩ := mapM_eq_ok_values all label inside
    exact (normalLabelWith_eq_ok_iff.1 same).2

section Joined

variable {labels : List (List Char)}

theorem splitAt_joined (some : labels ≠ []) (normal : ∀ label ∈ labels, IsLabel label) :
    splitAt '.' (joinWith ['.'] labels) = labels := by
  refine splitAt_joinWith some fun label inside dot => ?_
  exact absurd ((normal label inside).chars '.' dot) (by decide)

theorem joined_ne_nil (some : labels ≠ []) (normal : ∀ label ∈ labels, IsLabel label) :
    joinWith ['.'] labels ≠ [] := by
  intro empty
  have cut := splitAt_joined some normal
  rw [empty] at cut
  exact (normal [] (by rw [← cut]; exact List.mem_singleton_self _)).some rfl

theorem code_of_joined (normal : ∀ label ∈ labels, IsLabel label) :
    ∀ c ∈ joinWith ['.'] labels, 45 ≤ c.toNat ∧ c.toNat ≤ 122 := by
  intro c inside
  rcases mem_joinWith inside with rfl | ⟨label, member, inside⟩
  · decide
  · have code := code_of_isLabelChar ((normal label member).chars c inside)
    omega

/-- No label is empty, so no dot comes last. -/
theorem dropFinalDot_joined (some : labels ≠ []) (normal : ∀ label ∈ labels, IsLabel label) :
    dropFinalDot (joinWith ['.'] labels) = joinWith ['.'] labels := by
  refine if_neg fun dot => ?_
  obtain ⟨front, shape⟩ := List.getLast?_eq_some_iff.1 dot
  have cut := splitAt_joined some normal
  rw [shape, splitAt_append_mark] at cut
  exact (normal [] (by rw [← cut]; exact List.mem_append_right _ (List.mem_singleton_self _))).some rfl

theorem length_joined (labels : List (List Char)) :
    (joinWith ['.'] labels).length = dottedLength labels := by
  induction labels with
  | nil => rfl
  | cons label rest ih =>
    cases rest with
    | nil => simp [joinWith, dottedLength]
    | cons next more =>
      rw [joinWith, List.length_append, List.length_append, ih]
      · simp [dottedLength]
        omega
      · simp

end Joined

/-- The labels of a name, with dots between them, are a name of the same labels. -/
theorem readLabelsWith_joinWith {name : List Char} {labels : List (List Char)}
    (read : readLabelsWith respell name = .ok labels) :
    readLabelsWith respell (joinWith ['.'] labels) = .ok labels := by
  obtain ⟨some, normal⟩ := labels_of_readLabelsWith read
  obtain ⟨-, -, short, notNumeric⟩ := readLabelsWith_eq_ok_iff.1 read
  refine readLabelsWith_eq_ok_iff.2 ⟨joined_ne_nil some normal, ?_, short, notNumeric⟩
  rw [splitAt_joined some normal]
  exact mapM_eq_ok_self normal

end DomainName

namespace DomainPattern

open DomainName

def readWith (respell : List Char → Option (List Char)) (text : List Char) :
    Except DomainNameError DomainPattern :=
  let trimmed := trim text
  if trimmed.isEmpty then .error .empty
  else do
    let (free, rest) := dropWildcards trimmed
    let labels ← readLabelsWith respell rest
    if free + labels.length < 2 then .error (.tooFewLabels (String.ofList trimmed))
    else .ok ⟨free, labels.map String.ofList⟩

theorem readWith_toAscii : readWith Idna.toAscii = read := rfl

variable {respell : List Char → Option (List Char)}

/-- The wildcard labels at the front of a text. -/
def wildcardText (count : Nat) : List Char := (List.replicate count ['*', '.']).flatten

theorem wildcardText_succ (count : Nat) :
    wildcardText (count + 1) = '*' :: '.' :: wildcardText count := by
  simp [wildcardText, List.replicate_succ]

theorem dropWildcards_append {rest : List Char} (count : Nat) (plain : ∀ c ∈ rest.head?, c ≠ '*') :
    dropWildcards (wildcardText count ++ rest) = (count, rest) := by
  induction count with
  | zero =>
    change dropWildcards rest = (0, rest)
    cases rest with
    | nil => rfl
    | cons c more =>
      unfold dropWildcards
      split
      · rename_i same
        exact absurd (List.cons.inj same).1 (plain c rfl)
      · rfl
  | succ count ih =>
    rw [wildcardText_succ, List.cons_append, List.cons_append, dropWildcards, ih]

/-- Reading a text without white space at its ends comes down to reading its labels. -/
theorem readWith_append {count : Nat} {rest : List Char} (trimmed : trim (wildcardText count ++ rest) =
    wildcardText count ++ rest) (some : rest ≠ []) (plain : ∀ c ∈ rest.head?, c ≠ '*') :
    readWith respell (wildcardText count ++ rest) = (do
      let labels ← readLabelsWith respell rest
      if count + labels.length < 2 then
        .error (.tooFewLabels (String.ofList (wildcardText count ++ rest)))
      else .ok ⟨count, labels.map String.ofList⟩) := by
  unfold readWith
  rw [trimmed]
  have present : (wildcardText count ++ rest).isEmpty = false := by
    cases rest with
    | nil => exact absurd rfl some
    | cons c more => simp
  simp only [present, Bool.false_eq_true, if_false, dropWildcards_append count plain]

theorem labels_of_readWith {text : List Char} {pattern : DomainPattern}
    (read : readWith respell text = .ok pattern) :
    ∃ rest labels, readLabelsWith respell rest = .ok labels ∧ 2 ≤ pattern.free + labels.length ∧
      pattern.labels = labels.map String.ofList := by
  unfold readWith at read
  simp only at read
  split at read
  · contradiction
  · cases found : readLabelsWith respell (dropWildcards (trim text)).2 with
    | error failure => rw [found] at read; contradiction
    | ok labels =>
      rw [found] at read
      change (if (dropWildcards (trim text)).1 + labels.length < 2 then _ else _) = _ at read
      split at read
      · contradiction
      · rename_i many
        obtain rfl := Except.ok.inj read
        exact ⟨_, labels, found, Nat.le_of_not_lt many, rfl⟩

theorem write_eq {pattern : DomainPattern} {labels : List (List Char)}
    (same : pattern.labels = labels.map String.ofList) :
    pattern.write = wildcardText pattern.free ++ joinWith ['.'] labels := by
  rw [write, same, map_toList_map_ofList, wildcardText]

theorem trim_wildcardText {token : List Char} (count : Nat) (some : token ≠ [])
    (visible : ∀ c ∈ token, isBlank c = false) :
    trim (wildcardText count ++ token) = wildcardText count ++ token := by
  refine trim_of_edges ?_ ?_
  · intro c first
    cases count with
    | zero => exact visible c (List.mem_of_mem_head? first)
    | succ count =>
      rw [wildcardText_succ, List.cons_append, List.head?_cons, Option.mem_some_iff] at first
      subst first
      decide
  · intro c last
    rw [List.getLast?_append_of_ne_nil _ some] at last
    exact visible c (List.mem_of_mem_getLast? last)

/-- The text of a pattern that was read reads back as the pattern. -/
theorem readWith_write {text : List Char} {pattern : DomainPattern}
    (read : readWith respell text = .ok pattern) : readWith respell pattern.write = .ok pattern := by
  obtain ⟨rest, labels, readRest, enough, same⟩ := labels_of_readWith read
  obtain ⟨some, normal⟩ := labels_of_readLabelsWith readRest
  have someText := joined_ne_nil some normal
  have code := code_of_joined normal
  have visible := fun c inside => @not_blank_of_code c (by have := code c inside; omega)
  have plain : ∀ c ∈ (joinWith ['.'] labels).head?, c ≠ '*' := by
    rintro c first rfl
    exact absurd (code '*' (List.mem_of_mem_head? first)) (by decide)
  rw [write_eq same, readWith_append (trim_wildcardText _ someText visible) someText plain,
    readLabelsWith_joinWith readRest]
  change (if pattern.free + labels.length < 2 then _ else _) = _
  rw [if_neg (by omega), ← same]

end DomainPattern

end EventRouting
