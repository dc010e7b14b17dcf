import EventRouting.Text.Blank
import EventRouting.Text.Split

set_option autoImplicit false

namespace EventRouting.Text

theorem toLower_cases (c : Char) :
    (65 ≤ c.toNat ∧ c.toNat ≤ 90 ∧ c.toLower.toNat = c.toNat + 32) ∨
      ((c.toNat < 65 ∨ 90 < c.toNat) ∧ c.toLower = c) := by
  unfold Char.toLower
  split
  · next upper =>
    have low : 65 ≤ c.toNat := UInt32.le_iff_toNat_le.1 upper.1
    have high : c.toNat ≤ 90 := UInt32.le_iff_toNat_le.1 upper.2
    refine .inl ⟨low, high, ?_⟩
    change (c.val + 32).toNat = c.toNat + 32
    rw [UInt32.toNat_add]
    change (c.toNat + 32) % 2 ^ 32 = c.toNat + 32
    omega
  · next other =>
    rw [ge_iff_le, UInt32.le_iff_toNat_le, UInt32.le_iff_toNat_le] at other
    change ¬(65 ≤ c.toNat ∧ c.toNat ≤ 90) at other
    exact .inr ⟨by omega, rfl⟩

theorem toLower_of_code {c : Char} (code : c.toNat < 65 ∨ 90 < c.toNat) : c.toLower = c := by
  rcases toLower_cases c with ⟨low, high, -⟩ | ⟨-, same⟩
  · omega
  · exact same

theorem toLower_toLower (c : Char) : c.toLower.toLower = c.toLower := by
  rcases toLower_cases c with ⟨low, high, moved⟩ | ⟨-, same⟩
  · exact toLower_of_code (by omega)
  · rw [same, same]

theorem toLower_lt_ascii_iff {c : Char} : c.toLower.toNat < 128 ↔ c.toNat < 128 := by
  rcases toLower_cases c with ⟨low, high, moved⟩ | ⟨-, same⟩
  · omega
  · rw [same]

/-- No code from the sign after the space up to the last of ASCII is white space. -/
theorem not_blank_of_code {c : Char} (code : 33 ≤ c.toNat ∧ c.toNat ≤ 127) : isBlank c = false := by
  simp only [isBlank, Bool.or_eq_false_iff, Bool.and_eq_false_iff, decide_eq_false_iff_not,
    beq_eq_false_iff_ne]
  omega

theorem isBlank_toLower (c : Char) : isBlank c.toLower = isBlank c := by
  rcases toLower_cases c with ⟨low, high, moved⟩ | ⟨-, same⟩
  · rw [@not_blank_of_code c (by omega), @not_blank_of_code c.toLower (by omega)]
  · rw [same]

/-- A character before the capital letters is a small letter of nothing else. -/
theorem toLower_eq_mark_iff {c mark : Char} (code : mark.toNat < 65) : c.toLower = mark ↔ c = mark := by
  constructor
  · rintro rfl
    rcases toLower_cases c with ⟨low, high, moved⟩ | ⟨-, same⟩
    · omega
    · exact same.symm
  · rintro rfl
    exact toLower_of_code (.inl code)

theorem dropBlanks_toLower (text : List Char) :
    dropBlanks (text.map Char.toLower) = (dropBlanks text).map Char.toLower := by
  induction text with
  | nil => rfl
  | cons c rest ih =>
    by_cases blank : isBlank c = true
    · rw [List.map_cons, dropBlanks_cons_of_blank ((isBlank_toLower c).trans blank),
        dropBlanks_cons_of_blank blank, ih]
    · rw [Bool.not_eq_true] at blank
      rw [List.map_cons, dropBlanks_cons_of_not_blank ((isBlank_toLower c).trans blank),
        dropBlanks_cons_of_not_blank blank, List.map_cons]

theorem trim_toLower (text : List Char) : trim (text.map Char.toLower) = (trim text).map Char.toLower := by
  rw [trim, trim, dropTrailingBlanks, dropTrailingBlanks, dropBlanks_toLower, ← List.map_reverse,
    dropBlanks_toLower, List.map_reverse]

theorem splitAt_toLower {mark : Char} (code : mark.toNat < 65) (text : List Char) :
    splitAt mark (text.map Char.toLower) = (splitAt mark text).map (List.map Char.toLower) := by
  induction text with
  | nil => rfl
  | cons c rest ih =>
    rw [List.map_cons, splitAt, splitAt]
    by_cases here : c = mark
    · rw [if_pos ((toLower_eq_mark_iff code).2 here), if_pos here, ih, List.map_cons, List.map_nil]
    · rw [if_neg (fun lower => here ((toLower_eq_mark_iff code).1 lower)), if_neg here, ih]
      cases splitAt mark rest <;> rfl

end EventRouting.Text
