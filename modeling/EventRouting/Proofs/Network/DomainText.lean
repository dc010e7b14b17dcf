import EventRouting.Proofs.Network.AddressShape
import EventRouting.Proofs.Network.DomainSpelling

set_option autoImplicit false

namespace EventRouting

open Text

namespace DomainName

theorem normalLabel_ascii {label spelled : List Char} (ascii : ∀ c ∈ label, c.toNat < 128)
    (normal : normalLabel label = .ok spelled) : spelled = label.map Char.toLower := by
  have same := (normalLabelWith_eq_ok_iff.1 normal).1
  rw [spellingWith?_ascii ascii] at same
  exact (Option.some.inj same).symm

theorem readLabels_eq_ok {name : List Char} {labels : List (List Char)}
    (read : readLabels name = .ok labels) :
    name ≠ [] ∧ (splitAt '.' name).mapM normalLabel = .ok labels ∧
      dottedLength labels ≤ maxLength ∧
      (labels.getLast?.getD []).all Char.isDigit = false :=
  readLabelsWith_eq_ok_iff.1 read

theorem readLabels_joinWith {name : List Char} {labels : List (List Char)}
    (read : readLabels name = .ok labels) :
    labels ≠ [] ∧ (∀ label ∈ labels, IsLabel label) ∧
    readLabels (joinWith ['.'] labels) = .ok labels :=
  ⟨(labels_of_readLabelsWith read).1, (labels_of_readLabelsWith read).2, readLabelsWith_joinWith read⟩

/-- A name has no colon, unless it is written in letters beyond ASCII. -/
theorem no_colon_of_readLabels {name : List Char} {labels : List (List Char)}
    (read : readLabels name = .ok labels) (ascii : ∀ c ∈ name, c.toNat < 128) : ':' ∉ name := by
  intro colon
  obtain ⟨-, all, -, -⟩ := readLabels_eq_ok read
  have joined := joinWith_splitAt '.' name
  rw [← joined] at colon
  rcases mem_joinWith colon with same | ⟨piece, member, inside⟩
  · contradiction
  · obtain ⟨spelled, -, normal⟩ := mapM_eq_ok_forall all piece member
    have pieceAscii : ∀ c ∈ piece, c.toNat < 128 := by
      intro c known
      apply ascii c
      rw [← joined]
      exact mem_joinWith_of_mem member known
    have shape := normalLabel_ascii pieceAscii normal
    have chars := (normalLabelWith_eq_ok_iff.1 normal).2.chars
    rw [shape] at chars
    have bad := chars ':' (List.mem_map.2 ⟨':', inside, by decide⟩)
    exact absurd bad (by decide)

/-- The last label of a name is not a number. -/
theorem not_numeric_of_readLabels {front last : List Char} {labels : List (List Char)}
    (read : readLabels (front ++ '.' :: last) = .ok labels) (digits : ∀ c ∈ last, c.isDigit = true) :
    False := by
  have ascii : ∀ c ∈ last, c.toNat < 128 ∧ c ≠ '.' ∧ c.toLower = c := by
    intro c inside
    have digit := digits c inside
    simp only [Char.isDigit, Bool.and_eq_true, decide_eq_true_eq, ge_iff_le,
      UInt32.le_iff_toNat_le] at digit
    change 48 ≤ c.toNat ∧ c.toNat ≤ 57 at digit
    refine ⟨by omega, ?_, ?_⟩
    · rintro rfl
      simp at digit
    · exact toLower_of_code (by omega)
  obtain ⟨-, all, -, notNumeric⟩ := readLabels_eq_ok read
  rw [splitAt_append_mark, splitAt_clean fun inside => (ascii '.' inside).2.1 rfl] at all
  obtain ⟨spelled, normal, final⟩ := mapM_eq_ok_concat all
  have shape := normalLabel_ascii (fun c inside => (ascii c inside).1) normal
  have same : last.map Char.toLower = last := by
    rw [List.map_congr_left fun c inside => (ascii c inside).2.2, List.map_id']
  rw [same] at shape
  rw [final, Option.getD_some, shape] at notNumeric
  have numeric : last.all Char.isDigit = true := List.all_eq_true.2 digits
  rw [numeric] at notNumeric
  contradiction

end DomainName

namespace DomainPattern

open DomainName

theorem read_append {count : Nat} {rest : List Char} (trimmed : trim (wildcardText count ++ rest) =
    wildcardText count ++ rest) (some : rest ≠ []) (plain : ∀ c ∈ rest.head?, c ≠ '*') :
    DomainPattern.read (wildcardText count ++ rest) = (do
      let labels ← readLabels rest
      if count + labels.length < 2 then
        .error (.tooFewLabels (String.ofList (wildcardText count ++ rest)))
      else .ok ⟨count, labels.map String.ofList⟩) :=
  readWith_append trimmed some plain

theorem labels_of_read {text : List Char} {pattern : DomainPattern}
    (read : DomainPattern.read text = .ok pattern) :
    ∃ rest labels, readLabels rest = .ok labels ∧ 2 ≤ pattern.free + labels.length ∧
      pattern.labels = labels.map String.ofList :=
  labels_of_readWith read

theorem readLabels_of_read {count : Nat} {rest : List Char} {pattern : DomainPattern}
    (trimmed : trim (wildcardText count ++ rest) = wildcardText count ++ rest) (some : rest ≠ [])
    (plain : ∀ c ∈ rest.head?, c ≠ '*')
    (read : DomainPattern.read (wildcardText count ++ rest) = .ok pattern) :
    ∃ labels, readLabels rest = .ok labels ∧ 2 ≤ count + labels.length ∧
      pattern = ⟨count, labels.map String.ofList⟩ := by
  rw [read_append trimmed some plain] at read
  cases found : readLabels rest with
  | error failure => rw [found] at read; contradiction
  | ok labels =>
    rw [found] at read
    change (if count + labels.length < 2 then _ else _) = _ at read
    split at read
    · contradiction
    · rename_i many
      exact ⟨labels, rfl, by omega, (Except.ok.inj read).symm⟩

end DomainPattern

end EventRouting
