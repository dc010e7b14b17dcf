set_option autoImplicit false

namespace EventRouting.Text

/-- The pieces between occurrences of `mark`: always at least one. -/
def splitAt (mark : Char) : List Char → List (List Char)
  | [] => [[]]
  | c :: rest =>
    if c = mark then [] :: splitAt mark rest
    else
      match splitAt mark rest with
      | piece :: others => (c :: piece) :: others
      | [] => [[c]]

/-- What stands before and after the first `mark`, if there is one. -/
def splitOnce (mark : Char) : List Char → Option (List Char × List Char)
  | [] => none
  | c :: rest =>
    if c = mark then some ([], rest)
    else (splitOnce mark rest).map fun halves => (c :: halves.1, halves.2)

/-- `pieces` with `mark` between them. -/
def joinWith (mark : List Char) : List (List Char) → List Char
  | [] => []
  | [piece] => piece
  | piece :: rest => piece ++ mark ++ joinWith mark rest

theorem splitAt_ne_nil (mark : Char) (text : List Char) : splitAt mark text ≠ [] := by
  cases text with
  | nil => simp [splitAt]
  | cons c rest =>
    rw [splitAt]
    split
    · simp
    · split <;> simp

theorem joinWith_splitAt (mark : Char) (text : List Char) :
    joinWith [mark] (splitAt mark text) = text := by
  induction text with
  | nil => rfl
  | cons c rest ih =>
    rw [splitAt]
    split
    · next here =>
      subst here
      cases shape : splitAt c rest with
      | nil => exact absurd shape (splitAt_ne_nil c rest)
      | cons piece others =>
        rw [shape] at ih
        simp [joinWith, ih]
    · cases shape : splitAt mark rest with
      | nil => exact absurd shape (splitAt_ne_nil mark rest)
      | cons piece others =>
        rw [shape] at ih
        cases others with
        | nil => simpa [joinWith] using ih
        | cons next more => simpa [joinWith] using ih

theorem splitAt_clean {mark : Char} {piece : List Char} (clean : mark ∉ piece) :
    splitAt mark piece = [piece] := by
  induction piece with
  | nil => rfl
  | cons c rest ih =>
    simp only [List.mem_cons, not_or] at clean
    rw [splitAt, if_neg (Ne.symm clean.1), ih clean.2]

theorem splitAt_append {mark : Char} {piece : List Char} (clean : mark ∉ piece) (rest : List Char) :
    splitAt mark (piece ++ mark :: rest) = piece :: splitAt mark rest := by
  induction piece with
  | nil => simp [splitAt]
  | cons c more ih =>
    simp only [List.mem_cons, not_or] at clean
    rw [List.cons_append, splitAt, if_neg (Ne.symm clean.1), ih clean.2]

theorem splitAt_append_mark (mark : Char) (before after : List Char) :
    splitAt mark (before ++ mark :: after) = splitAt mark before ++ splitAt mark after := by
  induction before with
  | nil => simp [splitAt]
  | cons c rest ih =>
    rw [List.cons_append, splitAt, splitAt]
    split
    · rw [ih, List.cons_append]
    · rw [ih]
      cases shape : splitAt mark rest with
      | nil => exact absurd shape (splitAt_ne_nil mark rest)
      | cons piece others => rfl

/-- After the last of some pieces that all end with the mark, there is an empty one. -/
theorem splitAt_terminated {mark : Char} {pieces : List (List Char)}
    (clean : ∀ piece ∈ pieces, mark ∉ piece) :
    splitAt mark (pieces.flatMap (· ++ [mark])) = pieces ++ [[]] := by
  induction pieces with
  | nil => rfl
  | cons piece rest ih =>
    rw [List.forall_mem_cons] at clean
    rw [List.flatMap_cons, List.append_assoc, List.singleton_append, splitAt_append clean.1, ih clean.2]
    rfl

/-- Cutting undoes joining, unless a piece has the mark in it. -/
theorem splitAt_joinWith {mark : Char} {pieces : List (List Char)} (some : pieces ≠ [])
    (clean : ∀ piece ∈ pieces, mark ∉ piece) : splitAt mark (joinWith [mark] pieces) = pieces := by
  induction pieces with
  | nil => exact absurd rfl some
  | cons piece rest ih =>
    cases rest with
    | nil => exact splitAt_clean (clean piece List.mem_cons_self)
    | cons next more =>
      rw [joinWith, List.append_assoc, List.singleton_append,
        splitAt_append (clean piece List.mem_cons_self),
        ih (by simp) fun other inside => clean other (List.mem_cons_of_mem _ inside)]
      simp

theorem mem_joinWith {mark c : Char} {pieces : List (List Char)} (inside : c ∈ joinWith [mark] pieces) :
    c = mark ∨ ∃ piece ∈ pieces, c ∈ piece := by
  induction pieces with
  | nil => simp [joinWith] at inside
  | cons piece rest ih =>
    cases rest with
    | nil => exact Or.inr ⟨piece, List.mem_cons_self, inside⟩
    | cons next more =>
      rw [joinWith, List.append_assoc, List.mem_append, List.singleton_append, List.mem_cons] at inside
      · rcases inside with inside | same | inside
        · exact Or.inr ⟨piece, List.mem_cons_self, inside⟩
        · exact Or.inl same
        · rcases ih inside with same | ⟨other, known, inside⟩
          · exact Or.inl same
          · exact Or.inr ⟨other, List.mem_cons_of_mem _ known, inside⟩
      · simp

theorem mem_joinWith_of_mem {mark : List Char} {c : Char} {piece : List Char} {pieces : List (List Char)}
    (member : piece ∈ pieces) (inside : c ∈ piece) : c ∈ joinWith mark pieces := by
  induction pieces with
  | nil => simp at member
  | cons first rest ih =>
    cases rest with
    | nil =>
      rw [List.mem_singleton] at member
      exact member ▸ inside
    | cons next more =>
      rw [joinWith, List.mem_append, List.mem_append]
      · rcases List.mem_cons.1 member with rfl | member
        · exact Or.inl (Or.inl inside)
        · exact Or.inr (ih member)
      · simp

theorem splitOnce_eq_none_iff {mark : Char} {text : List Char} :
    splitOnce mark text = none ↔ mark ∉ text := by
  induction text with
  | nil => simp [splitOnce]
  | cons c rest ih =>
    rw [splitOnce]
    split
    · next here => simp [here]
    · next other => simp [ih, Ne.symm other]

theorem splitOnce_append {mark : Char} {before : List Char} (rest : List Char)
    (absent : mark ∉ before) : splitOnce mark (before ++ mark :: rest) = some (before, rest) := by
  induction before with
  | nil => simp [splitOnce]
  | cons c tail ih =>
    simp only [List.mem_cons, not_or] at absent
    simp [splitOnce, Ne.symm absent.1, ih absent.2]

theorem splitOnce_eq_some_iff {mark : Char} {text before after : List Char} :
    splitOnce mark text = some (before, after) ↔ text = before ++ mark :: after ∧ mark ∉ before := by
  constructor
  · intro halves
    induction text generalizing before with
    | nil => contradiction
    | cons c rest ih =>
      rw [splitOnce] at halves
      split at halves
      · next here =>
        obtain ⟨rfl, rfl⟩ := Prod.mk.inj (Option.some.inj halves)
        exact ⟨by rw [here, List.nil_append], List.not_mem_nil⟩
      · next other =>
        obtain ⟨⟨front, back⟩, earlier, same⟩ := Option.map_eq_some_iff.1 halves
        obtain ⟨rfl, rfl⟩ := Prod.mk.inj same
        obtain ⟨rfl, absent⟩ := ih earlier
        exact ⟨rfl, by simpa [absent] using Ne.symm other⟩
  · rintro ⟨rfl, absent⟩
    exact splitOnce_append after absent

end EventRouting.Text
