import EventRouting.Proofs.RuleText.Spelling

set_option autoImplicit false

namespace EventRouting

namespace Unicode

/-- What replaces a character stays beyond ASCII, unless it is the one sign with the lower case `k`. -/
def Replacement.staysBeyond (row : Replacement) : Bool :=
  match row.target with
  | [target] => 128 ≤ target || (target == 0x6b && row.run.first == row.run.last)
  | _ => true

set_option maxRecDepth 100000 in
theorem lowercaseTable_staysBeyond : lowercaseTable.rows.all Replacement.staysBeyond = true := by
  unfold lowercaseTable ReplacementTable.read words
  rw [String.toList_ofList]
  decide +kernel

theorem toNat_ofNat_of_le {point bound : Nat} (large : bound ≤ point) :
    bound ≤ (Char.ofNat point).toNat ∨ Char.ofNat point = '\x00' := by
  rw [Char.ofNat]
  by_cases valid : point.isValidChar
  · rw [dif_pos valid]
    exact Or.inl large
  · rw [dif_neg valid]
    exact Or.inr rfl

/-- No character beyond ASCII is replaced by an ASCII letter other than `k`. -/
theorem ReplacementTable.find?_ne_letter {table : ReplacementTable}
    (beyond : table.rows.all Replacement.staysBeyond = true) {c letter : Char}
    (ascii : letter.toNat < 128) (notK : letter ≠ 'k') (notNull : letter ≠ '\x00') :
    table.find? c ≠ some [letter] := by
  intro found
  unfold ReplacementTable.find? at found
  dsimp only at found
  split at found
  · rename_i row listed
    have stays : row.staysBeyond = true := by
      rw [Array.all_eq_true] at beyond
      obtain ⟨place, same⟩ := Array.getElem?_eq_some_iff.1 listed
      rw [← same]
      exact beyond _ place
    split at found
    · rename_i inside
      rw [Option.some.injEq] at found
      unfold Replacement.at at found
      unfold Replacement.staysBeyond at stays
      split at found
      · rename_i point single
        rw [single] at stays
        simp only [Bool.or_eq_true, decide_eq_true_eq, Bool.and_eq_true, beq_iff_eq] at stays
        simp only [List.map_cons, List.map_nil, List.cons.injEq, and_true] at found
        rcases stays with large | ⟨rfl, alone⟩
        · rcases toNat_ofNat_of_le (Nat.le_add_right_of_le (k := c.toNat - row.run.first) large) with
            far | null
          · rw [found] at far
            omega
          · exact notNull (found ▸ null)
        · simp only [Run.contains, Bool.and_eq_true, decide_eq_true_eq, beq_iff_eq] at inside
          have here : c.toNat - row.run.first = 0 := by omega
          rw [here] at found
          exact notK found.symm
      · rename_i several
        have length := congrArg List.length found
        rw [List.length_map, List.length_singleton, List.length_eq_one_iff] at length
        obtain ⟨point, single⟩ := length
        exact several point single
    · contradiction
  · contradiction

/-- A character whose lower case is an ASCII letter other than `k` is that letter in some case. -/
theorem toLower_of_lowercase {c letter : Char} (ascii : letter.toNat < 128) (notK : letter ≠ 'k')
    (notNull : letter ≠ '\x00') (lower : lowercase c = [letter]) : c.toLower = letter := by
  unfold lowercase at lower
  split at lower
  · simpa using lower
  · rename_i beyond
    have other := ReplacementTable.find?_ne_letter (c := c) lowercaseTable_staysBeyond ascii notK notNull
    cases found : lowercaseTable.find? c with
    | none =>
      rw [found, Option.getD_none, List.cons.injEq] at lower
      rw [lower.1] at beyond
      omega
    | some target =>
      rw [found, Option.getD_some] at lower
      rw [lower] at found
      exact absurd found other

end Unicode

namespace RuleText

open Text Unicode

/-- The letters that words are made of. -/
def IsWordLetter (letter : Char) : Prop := letter ∈ ['a', 'd', 'i', 'n', 'o', 'r', 't']

instance (letter : Char) : Decidable (IsWordLetter letter) :=
  inferInstanceAs (Decidable (letter ∈ ['a', 'd', 'i', 'n', 'o', 'r', 't']))

theorem sameLetter_iff {c letter : Char} (known : IsWordLetter letter) :
    sameLetter c letter = true ↔ c.toLower = letter := by
  have facts : letter.toNat < 128 ∧ letter ≠ 'k' ∧ letter ≠ '\x00' ∧
      lowercase letter = [letter] := by
    simp only [IsWordLetter, List.mem_cons, List.not_mem_nil, or_false] at known
    rcases known with rfl | rfl | rfl | rfl | rfl | rfl | rfl <;> decide
  obtain ⟨ascii, notK, notNull, own⟩ := facts
  rw [sameLetter, beq_iff_eq, own]
  constructor
  · exact toLower_of_lowercase ascii notK notNull
  · intro lower
    have small : c.toNat < 128 := toLower_lt_ascii_iff.1 (lower ▸ ascii)
    rw [lowercase, if_pos small, lower]

theorem spelled?_append {word text : List Char} (known : ∀ letter ∈ word, IsWordLetter letter)
    (spells : text.map Char.toLower = word) (rest : List Char) :
    Grammar.spelled? word (text ++ rest) = some text := by
  induction word generalizing text with
  | nil =>
    rw [List.map_eq_nil_iff] at spells
    rw [spells, Grammar.spelled?]
  | cons letter word ih =>
    cases text with
    | nil => simp at spells
    | cons c text =>
      rw [List.map_cons, List.cons.injEq] at spells
      have same := (sameLetter_iff (known letter List.mem_cons_self)).2 spells.1
      rw [List.cons_append, Grammar.spelled?, if_pos same,
        ih (fun other inside => known other (List.mem_cons_of_mem _ inside)) spells.2]
      rfl

/-- What reads as a word is the word in some letter case. -/
theorem eq_append_of_spelled? {word text written : List Char}
    (known : ∀ letter ∈ word, IsWordLetter letter)
    (spelled : Grammar.spelled? word text = some written) :
    written.map Char.toLower = word ∧ ∃ rest, text = written ++ rest := by
  induction word generalizing text written with
  | nil =>
    rw [Grammar.spelled?, Option.some.injEq] at spelled
    subst spelled
    exact ⟨rfl, text, rfl⟩
  | cons letter word ih =>
    cases text with
    | nil => simp [Grammar.spelled?] at spelled
    | cons c text =>
      rw [Grammar.spelled?] at spelled
      split at spelled
      · rename_i same
        rw [Option.map_eq_some_iff] at spelled
        obtain ⟨more, found, rfl⟩ := spelled
        obtain ⟨lower, rest, rfl⟩ :=
          ih (fun other inside => known other (List.mem_cons_of_mem _ inside)) found
        rw [sameLetter_iff (known letter List.mem_cons_self)] at same
        exact ⟨by rw [List.map_cons, same, lower], rest, rfl⟩
      · contradiction

theorem spelled?_eq_none {letter : Char} {word text : List Char} (known : IsWordLetter letter)
    (other : ∀ c ∈ text.head?, c.toLower ≠ letter) :
    Grammar.spelled? (letter :: word) text = none := by
  cases text with
  | nil => rw [Grammar.spelled?]
  | cons c rest =>
    rw [Grammar.spelled?, if_neg]
    rw [sameLetter_iff known]
    exact other c rfl

end RuleText

end EventRouting
