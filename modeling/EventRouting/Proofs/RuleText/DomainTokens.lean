import EventRouting.Proofs.RuleText.AddressTokens
import Mathlib.Data.List.Basic

set_option autoImplicit false

namespace EventRouting.RuleText

open Text IpAddress DomainPattern

theorem scanDigits_eq_append {most : Nat} {text : List Char} {found : List Char × List Char}
    (scanned : scanDigits most text = some found) : text = found.1 ++ found.2 := by
  unfold scanDigits at scanned
  split at scanned
  · contradiction
  · rw [← Option.some.inj scanned]
    have front : (text.takeWhile Char.isDigit).take most <+: text :=
      (List.take_prefix _ _).trans (List.takeWhile_prefix _)
    exact (List.prefix_iff_eq_append.1 front).symm

theorem scanDot_eq_append {text left : List Char} (scanned : scanDot text = some left) :
    text = '.' :: left := by
  unfold scanDot at scanned
  split at scanned
  · rw [← Option.some.inj scanned]
  · contradiction

theorem scanAddress_eq_append {text : List Char} {found : List Char × List Char}
    (scanned : scanAddress text = some found) : text = found.1 ++ found.2 := by
  unfold scanAddress at scanned
  cases dotted : scanDotted text with
  | some other =>
    rw [dotted] at scanned
    rw [← Option.some.inj scanned]
    simp only [scanDotted, Option.bind_eq_bind, Option.bind_eq_some_iff, Option.some.injEq] at dotted
    obtain ⟨a, first, r, dotA, b, second, s, dotB, c, third, t, dotC, d, fourth, rfl⟩ := dotted
    rw [scanDigits_eq_append first, scanDot_eq_append dotA, scanDigits_eq_append second,
      scanDot_eq_append dotB, scanDigits_eq_append third, scanDot_eq_append dotC,
      scanDigits_eq_append fourth]
    simp
  | none =>
    rw [dotted] at scanned
    change scanColons text = some found at scanned
    unfold scanColons at scanned
    split at scanned
    · split at scanned
      · rw [← Option.some.inj scanned]
        exact List.takeWhile_append_dropWhile.symm
      · contradiction
    · contradiction

theorem eq_nil_of_atBoundary {text : List Char} (bare : ∀ c ∈ text, isBare c = true)
    (boundary : atBoundary text = true) : text = [] := by
  have ends := endsBare_of_atBoundary boundary
  cases text with
  | nil => rfl
  | cons c rest =>
    have other := ends c rfl
    rw [bare c List.mem_cons_self] at other
    contradiction

/-- A bare token that reads as a range is an address, or two of them with a hyphen between. -/
theorem bare_of_scanIp {text : List Char} {found : IpRange × List Char}
    (bare : ∀ c ∈ text, isBare c = true) (scanned : scanIp text = some found) :
    ∃ front last address, text = front ++ last ∧ IpAddress.read? last = some address ∧
      ∀ c ∈ front, IsColonsChar c ∨ c = '-' := by
  simp only [scanIp, Option.bind_eq_bind, Option.bind_eq_some_iff] at scanned
  obtain ⟨⟨first, left⟩, scannedFirst, address, read, range, valid, boundary⟩ := scanned
  have shape := scanAddress_eq_append scannedFirst
  simp only at shape
  subst shape
  have leftBare : ∀ c ∈ left, isBare c = true := fun c inside => bare c (List.mem_append_right _ inside)
  have colonsChars : ∀ c ∈ first, IsColonsChar c := by
    intro c inside
    rcases shape_of_read? read with dotted | colons
    · rcases dotted.chars c inside with digit | rfl
      · exact Or.inl (isHexDigit_of_isDigit digit)
      · exact Or.inr (Or.inr rfl)
    · exact colons.chars c inside
  cases suffixed : scanSuffix left with
  | none =>
    rw [suffixed] at boundary
    simp only [Option.ite_none_right_eq_some] at boundary
    rw [eq_nil_of_atBoundary leftBare boundary.1]
    exact ⟨[], first, address, by simp, read, by simp⟩
  | some suffix =>
    obtain ⟨suffix, behind⟩ := suffix
    rw [suffixed] at valid boundary
    simp only [Option.ite_none_right_eq_some] at valid boundary
    cases left with
    | nil => simp [scanSuffix] at suffixed
    | cons c more =>
      have visible := not_blank_of_bare (leftBare c List.mem_cons_self)
      rw [scanSuffix, dropBlanks_cons_of_not_blank visible] at suffixed
      split at suffixed
      · rename_i same
        obtain ⟨rfl, -⟩ := List.cons.inj same
        exact absurd (leftBare '/' List.mem_cons_self) (by decide)
      · rename_i same
        obtain ⟨rfl, rfl⟩ := List.cons.inj same
        rw [Option.map_eq_some_iff] at suffixed
        obtain ⟨other, scannedOther, same⟩ := suffixed
        obtain ⟨rfl, rfl⟩ := Prod.mk.inj same
        have moreBare : ∀ c ∈ more, isBare c = true := fun c inside =>
          leftBare c (List.mem_cons_of_mem _ inside)
        have visible : Visible more := by
          intro c first
          exact not_blank_of_bare (moreBare c (List.mem_of_mem_head? first))
        rw [dropBlanks_visible visible] at scannedOther
        have shape := scanAddress_eq_append scannedOther
        have behindBare : ∀ c ∈ other.2, isBare c = true := fun c inside =>
          moreBare c (shape ▸ List.mem_append_right _ inside)
        rw [eq_nil_of_atBoundary behindBare boundary.1, List.append_nil] at shape
        simp only [suffixedRange, Option.bind_eq_bind, Option.bind_eq_some_iff] at valid
        obtain ⟨last, readLast, -⟩ := valid
        refine ⟨first ++ ['-'], other.1, last, by simp [shape], readLast, ?_⟩
        intro c inside
        rcases List.mem_append.1 inside with inside | inside
        · exact Or.inl (colonsChars c inside)
        · exact Or.inr (List.mem_singleton.1 inside)
      · contradiction

/-- No text is both a name and an address or a range. -/
theorem readLabels_ne_ok_of_scanIp {text : List Char} {found : IpRange × List Char}
    (bare : ∀ c ∈ text, isBare c = true) (scanned : scanIp text = some found)
    (labels : List (List Char)) : DomainName.readLabels text ≠ .ok labels := by
  intro read
  obtain ⟨front, last, address, rfl, readLast, frontChars⟩ := bare_of_scanIp bare scanned
  rcases shape_of_read? readLast with dotted | colons
  · obtain ⟨first, second, third, fourth⟩ := dotted
    rename_i a b c d
    have split : DomainName.readLabels ((front ++ a ++ '.' :: b ++ '.' :: c) ++ '.' :: d) = .ok labels := by
      simpa using read
    exact DomainName.not_numeric_of_readLabels split fourth.2.2
  · have ascii : ∀ c ∈ front ++ last, c.toNat < 128 := by
      intro c inside
      rcases List.mem_append.1 inside with inside | inside
      · rcases frontChars c inside with char | rfl
        · have code := code_of_isColonsChar char
          omega
        · decide
      · have code := code_of_isColonsChar (colons.chars c inside)
        omega
    apply DomainName.no_colon_of_readLabels read ascii
    obtain ⟨-, -, -⟩ := colons
    simp

theorem head_bare {text : List Char} (some : text ≠ []) (bare : ∀ c ∈ text, isBare c = true)
    (rest : List Char) : ∀ c ∈ (text ++ rest).head?, c ≠ '*' := by
  intro c first same
  rw [List.head?_append_of_ne_nil _ some] at first
  have char := bare c (List.mem_of_mem_head? first)
  rw [same] at char
  exact absurd char (by decide)

theorem trim_wildcards {token : List Char} (count : Nat) (some : token ≠ [])
    (bare : ∀ c ∈ token, isBare c = true) :
    trim (wildcardText count ++ token) = wildcardText count ++ token :=
  trim_wildcardText count some fun c inside => not_blank_of_bare (bare c inside)

theorem spanWildcards_append {rest : List Char} (count : Nat) (plain : ∀ c ∈ rest.head?, c ≠ '*') :
    spanWildcards (wildcardText count ++ rest) = (wildcardText count, rest) := by
  induction count with
  | zero =>
    change spanWildcards rest = ([], rest)
    cases rest with
    | nil => rfl
    | cons c more =>
      unfold spanWildcards
      split
      · rename_i same
        exact absurd (List.cons.inj same).1 (plain c rfl)
      · rfl
  | succ count ih =>
    rw [wildcardText_succ, List.cons_append, List.cons_append, spanWildcards, ih]

theorem scanDomain_append {text rest : List Char} {pattern : DomainPattern}
    (spelled : DomainText text pattern) (ends : EndsBare rest) :
    scanDomain (text ++ rest) = some (pattern, rest) := by
  obtain ⟨count, some, bare, read⟩ := spelled
  rename_i token
  have plain := head_bare some bare rest
  unfold scanDomain
  rw [List.append_assoc, spanWildcards_append count plain]
  simp [scanBare_append some bare ends, read, Except.toOption]

/-- A domain is not taken for an address before. -/
theorem scanIp_domain {text rest : List Char} {pattern : DomainPattern}
    (spelled : DomainText text pattern) (boundary : atBoundary rest = true)
    (ending : Ending junctionWords rest) : scanIp (text ++ rest) = none := by
  obtain ⟨count, some, bare, read⟩ := spelled
  rename_i token
  cases count with
  | succ count => rfl
  | zero =>
    change scanIp (token ++ rest) = none
    rw [scanIp_bare bare boundary ending]
    cases scanned : scanIp token with
    | none => rfl
    | some found =>
      have plain : ∀ c ∈ token.head?, c ≠ '*' := by simpa using head_bare some bare []
      obtain ⟨labels, readLabels, -⟩ := readLabels_of_read (trim_wildcards 0 some bare) some plain read
      exact absurd readLabels (readLabels_ne_ok_of_scanIp bare scanned labels)

/-- Whether a bare token reads as a domain does not depend on what follows. -/
theorem scanDomain_bare {text rest : List Char} (some : text ≠ [])
    (bare : ∀ c ∈ text, isBare c = true)
    (ends : EndsBare rest) : scanDomain (text ++ rest) = (scanDomain text).map (behind rest) := by
  have alone : scanBare text = .some (text, []) := by
    have ended : EndsBare [] := by simp [EndsBare]
    simpa using scanBare_append some bare ended
  have span (more : List Char) : spanWildcards (text ++ more) = ([], text ++ more) :=
    spanWildcards_append 0 (head_bare some bare more)
  have spanAlone := span []
  rw [List.append_nil] at spanAlone
  unfold scanDomain
  rw [span rest, spanAlone]
  simp only [scanBare_append some bare ends, alone, List.nil_append, Option.bind_eq_bind, Option.bind_some]
  cases (DomainPattern.read text).toOption <;> rfl

theorem not_dot_of_keyword {text : List Char} (known : isKeyword text = true) : '.' ∉ text := by
  intro dot
  have lowered : '.' ∈ text.map Char.toLower := List.mem_map.2 ⟨'.', dot, by decide⟩
  simp only [isKeyword, keywords, List.contains_iff_mem, List.mem_map, List.mem_cons, List.not_mem_nil,
    or_false] at known
  obtain ⟨word, found, same⟩ := known
  rw [← same] at lowered
  rcases found with rfl | rfl | rfl | rfl | rfl <;> simp at lowered

/-- A domain has two labels or a wildcard, so no keyword is one. -/
theorem not_keyword_of_read {token : List Char} {pattern : DomainPattern} (some : token ≠ [])
    (bare : ∀ c ∈ token, isBare c = true)
    (read : DomainPattern.read (wildcardText 0 ++ token) = .ok pattern) : isKeyword token = false := by
  rw [Bool.eq_false_iff]
  intro known
  have plain := head_bare some bare []
  rw [List.append_nil] at plain
  obtain ⟨labels, readLabels, enough, -⟩ :=
    readLabels_of_read (trim_wildcards 0 some bare) some plain read
  obtain ⟨-, all, -⟩ := DomainName.readLabels_eq_ok readLabels
  rw [splitAt_clean (not_dot_of_keyword known)] at all
  obtain ⟨label, rest, -, others, rfl⟩ := DomainName.mapM_eq_ok_cons_iff.1 all
  cases rest with
  | nil => simp at enough
  | cons next more => simp [pure, Except.pure] at others

end EventRouting.RuleText
