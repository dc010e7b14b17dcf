import EventRouting.Proofs.Network.AddressShape
import EventRouting.Proofs.RuleText.Tokens
import EventRouting.Proofs.RuleText.Words
import Mathlib.Data.List.TakeWhile

set_option autoImplicit false

namespace EventRouting.RuleText

open Text IpAddress

theorem isAddressChar_iff (c : Char) : isAddressChar c = true ↔ IsColonsChar c := by
  simp [isAddressChar, IsColonsChar, or_assoc]

theorem code_of_isDigit {c : Char} (digit : c.isDigit = true) : 48 ≤ c.toNat ∧ c.toNat ≤ 57 := by
  simp only [Char.isDigit, Bool.and_eq_true, decide_eq_true_eq, ge_iff_le, UInt32.le_iff_toNat_le] at digit
  exact digit

theorem code_of_isHexDigit {c : Char} (hex : isHexDigit c = true) :
    (48 ≤ c.toNat ∧ c.toNat ≤ 57) ∨ (97 ≤ c.toNat ∧ c.toNat ≤ 102) ∨
    (65 ≤ c.toNat ∧ c.toNat ≤ 70) := by
  simp only [isHexDigit, Bool.or_eq_true, Bool.and_eq_true, decide_eq_true_eq, Char.le_def,
    UInt32.le_iff_toNat_le] at hex
  rcases hex with (digit | lower) | upper
  · exact Or.inl (code_of_isDigit digit)
  · exact Or.inr (Or.inl lower)
  · exact Or.inr (Or.inr upper)

theorem code_of_isColonsChar {c : Char} (char : IsColonsChar c) :
    (46 ≤ c.toNat ∧ c.toNat ≤ 58 ∧ c.toNat ≠ 47) ∨ (97 ≤ c.toNat ∧ c.toNat ≤ 102) ∨
      (65 ≤ c.toNat ∧ c.toNat ≤ 70) := by
  rcases char with hex | rfl | rfl
  · have code := code_of_isHexDigit hex
    omega
  · decide
  · decide

theorem isBare_of_code {c : Char}
    (code : (45 ≤ c.toNat ∧ c.toNat ≤ 58 ∧ c.toNat ≠ 47) ∨ c.toNat = 95 ∨
    (65 ≤ c.toNat ∧ c.toNat ≤ 90) ∨ (97 ≤ c.toNat ∧ c.toNat ≤ 122)) : isBare c = true := by
  have visible : isBlank c = false := not_blank_of_code (by omega)
  have notDelimiter : c ∉ delimiters := by
    intro inside
    simp only [delimiters, List.mem_cons, List.not_mem_nil, or_false] at inside
    rcases inside with rfl | rfl | rfl | rfl | rfl | rfl | rfl | rfl <;> simp at code
  simp [isBare, visible, notDelimiter]

theorem isBare_of_isColonsChar {c : Char} (char : IsColonsChar c) : isBare c = true := by
  have code := code_of_isColonsChar char
  exact isBare_of_code (by omega)

/-- The text is empty or begins with a character that no address holds. -/
def EndsAddress (text : List Char) : Prop := ∀ c ∈ text.head?, ¬IsColonsChar c

theorem EndsBare.endsAddress {text : List Char} (ends : EndsBare text) : EndsAddress text := by
  intro c first char
  have bare := isBare_of_isColonsChar char
  rw [ends c first] at bare
  contradiction

theorem EndsAddress.not_hex {text : List Char} (ends : EndsAddress text) :
    ∀ c ∈ text.head?, isHexDigit c = false := by
  intro c first
  rw [Bool.eq_false_iff]
  exact fun hex => ends c first (Or.inl hex)

theorem EndsAddress.not_digit {text : List Char} (ends : EndsAddress text) :
    ∀ c ∈ text.head?, c.isDigit = false := by
  intro c first
  rw [Bool.eq_false_iff]
  exact fun digit => ends c first (Or.inl (isHexDigit_of_isDigit digit))

section Local

variable {text rest : List Char}

theorem takeWhile_local {p : Char → Bool} (ends : ∀ c ∈ rest.head?, p c = false) :
    (text ++ rest).takeWhile p = text.takeWhile p := by
  induction text with
  | nil =>
    cases rest with
    | nil => rfl
    | cons c more => simp [ends c rfl]
  | cons c more ih =>
    by_cases inside : p c = true
    · simp [inside, ih]
    · simp [inside]

theorem dropWhile_local {p : Char → Bool} (ends : ∀ c ∈ rest.head?, p c = false) :
    (text ++ rest).dropWhile p = text.dropWhile p ++ rest := by
  induction text with
  | nil =>
    cases rest with
    | nil => rfl
    | cons c more => simp [ends c rfl]
  | cons c more ih =>
    by_cases inside : p c = true
    · simp [inside, ih]
    · simp [inside]

/-- A scanner's result with more text behind. -/
def behind {Value : Type} (rest : List Char) (found : Value × List Char) : Value × List Char :=
  (found.1, found.2 ++ rest)

theorem length_digits_le (text : List Char) (most : Nat) :
    ((text.takeWhile Char.isDigit).take most).length ≤ text.length := by
  have whole : (text.takeWhile Char.isDigit).length ≤ text.length := (List.takeWhile_prefix _).length_le
  rw [List.length_take]
  omega

theorem scanDigits_local (most : Nat) (ends : ∀ c ∈ rest.head?, c.isDigit = false) :
    scanDigits most (text ++ rest) = (scanDigits most text).map (behind rest) := by
  unfold scanDigits
  rw [takeWhile_local ends]
  cases digits : (text.takeWhile Char.isDigit).take most with
  | nil => rfl
  | cons c more =>
    have short := length_digits_le text most
    rw [digits] at short
    change some (c :: more, (text ++ rest).drop (c :: more).length) = _
    rw [List.drop_append_of_le_length short]
    rfl

theorem scanDot_local (ends : ∀ c ∈ rest.head?, c ≠ '.') :
    scanDot (text ++ rest) = (scanDot text).map (· ++ rest) := by
  cases text with
  | nil =>
    cases rest with
    | nil => rfl
    | cons c more =>
      have other := ends c rfl
      simp [scanDot, other]
  | cons c more =>
    by_cases dot : c = '.'
    · simp [scanDot, dot]
    · simp [scanDot, dot]

theorem scanDotted_local (ends : EndsAddress rest) :
    scanDotted (text ++ rest) = (scanDotted text).map (behind rest) := by
  have notDot : ∀ c ∈ rest.head?, c ≠ '.' := fun c first same => ends c first (Or.inr (Or.inr same))
  have digits (most : Nat) (more : List Char) := @scanDigits_local more _ most ends.not_digit
  have dots (more : List Char) := @scanDot_local more _ notDot
  unfold scanDotted
  simp only [digits, dots, Option.bind_eq_bind, Option.map_bind, Option.bind_map, Function.comp_def, behind,
    Option.map_some]

theorem scanColons_local (ends : EndsAddress rest) :
    scanColons (text ++ rest) = (scanColons text).map (behind rest) := by
  have notColon : ∀ c ∈ rest.head?, c ≠ ':' := fun c first same => ends c first (Or.inr (Or.inl same))
  have notAddress : ∀ c ∈ rest.head?, isAddressChar c = false := by
    intro c first
    rw [Bool.eq_false_iff, Ne, isAddressChar_iff]
    exact ends c first
  unfold scanColons
  rw [dropWhile_local ends.not_hex, takeWhile_local notAddress, dropWhile_local notAddress]
  cases afterFirst : text.dropWhile isHexDigit with
  | nil =>
    cases rest with
    | nil => rfl
    | cons c more => simp [notColon c rfl]
  | cons c more =>
    by_cases colon : c = ':'
    · subst colon
      simp only [List.cons_append]
      rw [dropWhile_local ends.not_hex]
      cases afterSecond : more.dropWhile isHexDigit with
      | nil =>
        cases rest with
        | nil => rfl
        | cons d others => simp [notColon d rfl]
      | cons d others =>
        by_cases second : d = ':'
        · simp [second, behind]
        · simp [second]
    · simp [colon]

theorem scanAddress_local (ends : EndsAddress rest) :
    scanAddress (text ++ rest) = (scanAddress text).map (behind rest) := by
  unfold scanAddress
  rw [scanDotted_local ends, scanColons_local ends]
  cases scanDotted text <;> rfl

end Local

theorem scanDigits_append {digits rest : List Char} {most : Nat} (some : digits ≠ [])
    (short : digits.length ≤ most) (decimal : ∀ c ∈ digits, c.isDigit = true)
    (ends : ∀ c ∈ rest.head?, c.isDigit = false) :
    scanDigits most (digits ++ rest) = .some (digits, rest) := by
  rw [scanDigits_local most ends, scanDigits]
  rw [List.takeWhile_eq_self_iff.2 decimal, List.take_of_length_le short]
  cases digits with
  | nil => exact absurd rfl some
  | cons c more => simp [behind]

theorem scanDigits_octet {digits rest : List Char} (octet : IsOctet digits)
    (ends : ∀ c ∈ rest.head?, c.isDigit = false) :
    scanDigits 3 (digits ++ rest) = some (digits, rest) := by
  obtain ⟨some, short, decimal⟩ := octet
  exact scanDigits_append some short decimal ends

theorem scanDotted_append {text : List Char} (dotted : Dotted text) :
    scanDotted text = some (text, []) := by
  obtain ⟨first, second, third, fourth⟩ := dotted
  rename_i a b c d
  have last := @scanDigits_octet _ [] fourth (by simp)
  rw [List.append_nil] at last
  unfold scanDotted
  rw [scanDigits_octet first (by simp)]
  simp only [Option.bind_eq_bind, Option.bind_some, scanDot]
  rw [scanDigits_octet second (by simp)]
  simp only [Option.bind_some]
  rw [scanDigits_octet third (by simp)]
  simp only [Option.bind_some, last]
  simp

/-- No dot comes before the second colon. -/
theorem scanDotted_colons {text : List Char} (colons : Colons text) : scanDotted text = none := by
  obtain ⟨front, back, chars⟩ := colons
  rename_i first second rest
  unfold scanDotted
  cases scanned : scanDigits 3 (first ++ ':' :: (second ++ ':' :: rest)) with
  | none => rfl
  | some found =>
    have undotted : scanDot found.2 = none := by
      unfold scanDigits at scanned
      rw [takeWhile_local (by simp)] at scanned
      cases digits : (first.takeWhile Char.isDigit).take 3 with
      | nil =>
        rw [digits] at scanned
        contradiction
      | cons c more =>
        rw [digits] at scanned
        have short := length_digits_le first 3
        rw [digits] at short
        rw [← Option.some.inj scanned]
        dsimp only
        rw [List.drop_append_of_le_length short]
        cases left : first.drop (c :: more).length with
        | nil => rfl
        | cons d others =>
          have hex := front d (List.mem_of_mem_drop (left ▸ List.mem_cons_self))
          have notDot : d ≠ '.' := by
            rintro rfl
            simp [isHexDigit] at hex
          simp [scanDot, notDot]
    simp [undotted]

theorem scanColons_append {text : List Char} (colons : Colons text) :
    scanColons text = some (text, []) := by
  have all : ∀ c ∈ text, isAddressChar c = true := fun c inside =>
    (isAddressChar_iff c).2 (colons.chars c inside)
  obtain ⟨front, back, chars⟩ := colons
  rename_i first second rest
  have afterFirst (more : List Char) : (first ++ ':' :: more).dropWhile isHexDigit = ':' :: more := by
    rw [List.dropWhile_append_of_pos front]
    rfl
  have afterSecond : (second ++ ':' :: rest).dropWhile isHexDigit = ':' :: rest := by
    rw [List.dropWhile_append_of_pos back]
    rfl
  unfold scanColons
  rw [afterFirst]
  simp only [afterSecond]
  rw [List.takeWhile_eq_self_iff.2 all, List.dropWhile_eq_nil_iff.2 all]

theorem scanAddress_of_read? {text : List Char} {address : IpAddress}
    (read : IpAddress.read? text = some address) : scanAddress text = some (text, []) := by
  unfold scanAddress
  rcases shape_of_read? read with dotted | colons
  · rw [scanDotted_append dotted]
    rfl
  · rw [scanDotted_colons colons, scanColons_append colons]
    rfl

theorem scanAddress_append {text rest : List Char} {address : IpAddress}
    (read : IpAddress.read? text = some address) (ends : EndsAddress rest) :
    scanAddress (text ++ rest) = some (text, rest) := by
  rw [scanAddress_local ends, scanAddress_of_read? read]
  rfl

/-- After white space the text ends, closes a parenthesis or goes on with one of the words. -/
inductive Ending (words : List String) (text : List Char) : Prop where
  | finish (nothing : dropBlanks text = [])
  | closing {rest : List Char} (shape : dropBlanks text = ')' :: rest)
  | word {word : String} {written rest : List Char} (known : word ∈ words) (spells : Spells word written)
    (shape : dropBlanks text = written ++ rest)

theorem Ending.mono {words more : List String} {text : List Char} (subset : words ⊆ more)
    (ending : Ending words text) : Ending more text := by
  cases ending with
  | finish nothing => exact .finish nothing
  | closing shape => exact .closing shape
  | word known spells shape => exact .word (subset known) spells shape

/-- What may stand behind an operand, directly or after white space. -/
def junctionWords : List String := ["and", "or"]

theorem code_of_toLower {c letter : Char} (lower : c.toLower = letter) :
    c.toNat = letter.toNat ∨ 65 ≤ c.toNat ∧ c.toNat ≤ 90 ∧ c.toNat + 32 = letter.toNat := by
  subst lower
  rcases toLower_cases c with ⟨low, high, moved⟩ | ⟨-, same⟩
  · exact Or.inr ⟨low, high, moved.symm⟩
  · exact Or.inl (congrArg Char.toNat same.symm)

theorem Spells.and_letters {written : List Char} (spells : Spells "and" written) :
    written.map Char.toLower = ['a', 'n', 'd'] := by
  simpa [Spells] using spells

theorem Spells.or_letters {written : List Char} (spells : Spells "or" written) :
    written.map Char.toLower = ['o', 'r'] := by
  simpa [Spells] using spells

/-- What follows an operand begins with a closing parenthesis or one of two letters, if with anything. -/
theorem Ending.first_code {text : List Char} (ending : Ending junctionWords text) :
    ∀ c ∈ (dropBlanks text).head?, c.toNat = 41 ∨ c.toNat = 65 ∨ c.toNat = 79 ∨ c.toNat = 97 ∨
      c.toNat = 111 := by
  cases ending with
  | finish nothing => simp [nothing]
  | closing shape =>
    rw [shape, forall_head_cons]
    exact Or.inl rfl
  | word known spells shape =>
    simp only [junctionWords, List.mem_cons, List.not_mem_nil, or_false] at known
    rcases known with rfl | rfl
    · obtain ⟨a, more, rfl, lower, -⟩ := List.map_eq_cons_iff.1 spells.and_letters
      rw [shape, List.cons_append, forall_head_cons]
      have code := code_of_toLower lower
      simp at code
      omega
    · obtain ⟨o, more, rfl, lower, -⟩ := List.map_eq_cons_iff.1 spells.or_letters
      rw [shape, List.cons_append, forall_head_cons]
      have code := code_of_toLower lower
      simp at code
      omega

theorem Ending.no_dotted {text : List Char} (ending : Ending junctionWords text) :
    scanDotted (dropBlanks text) = none := by
  have notDigit : ∀ c ∈ (dropBlanks text).head?, c.isDigit = false := by
    intro c first
    have code := ending.first_code c first
    rw [Bool.eq_false_iff]
    intro digit
    have range := code_of_isDigit digit
    omega
  have none : scanDigits 3 (dropBlanks text) = none := by
    cases shape : dropBlanks text with
    | nil => rfl
    | cons c rest => simp [scanDigits, notDigit c (by rw [shape]; rfl)]
  simp [scanDotted, none]

/-- A letter behind `f`, in either case, is no hexadecimal digit and no colon. -/
theorem not_hex_of_code {c : Char} (beyond : 103 ≤ c.toNat ∨ 71 ≤ c.toNat ∧ c.toNat ≤ 96) :
    isHexDigit c = false ∧ c ≠ ':' := by
  constructor
  · rw [Bool.eq_false_iff]
    intro hex
    have range := code_of_isHexDigit hex
    omega
  · rintro rfl
    simp at beyond

theorem Ending.no_colons {text : List Char} (ending : Ending junctionWords text) :
    scanColons (dropBlanks text) = none := by
  cases ending with
  | finish nothing => rw [nothing]; rfl
  | closing shape => rw [shape]; rfl
  | word known spells shape =>
    simp only [junctionWords, List.mem_cons, List.not_mem_nil, or_false] at known
    rcases known with rfl | rfl
    · -- `a` may be a digit, but then `n` is not.
      obtain ⟨a, more, rfl, lowerA, letters⟩ := List.map_eq_cons_iff.1 spells.and_letters
      obtain ⟨n, more, rfl, lowerN, -⟩ := List.map_eq_cons_iff.1 letters
      have codeA := code_of_toLower lowerA
      have codeN := code_of_toLower lowerN
      simp at codeA codeN
      have notColon : a ≠ ':' := by
        rintro rfl
        simp at codeA
      have notHex := @not_hex_of_code n (by omega)
      rw [shape]
      by_cases hexA : isHexDigit a = true
      · simp [scanColons, hexA, notHex.1, notHex.2]
      · simp [scanColons, hexA, notColon]
    · obtain ⟨o, more, rfl, lower, -⟩ := List.map_eq_cons_iff.1 spells.or_letters
      have code := code_of_toLower lower
      simp at code
      have notHex := @not_hex_of_code o (by omega)
      rw [shape]
      simp [scanColons, notHex.1, notHex.2]

/-- No address begins behind an operand: the words are not spelled with digits and colons. -/
theorem Ending.no_address {text : List Char} (ending : Ending junctionWords text) :
    scanAddress (dropBlanks text) = none := by
  unfold scanAddress
  rw [ending.no_dotted, ending.no_colons]
  rfl

theorem Ending.no_suffix {text : List Char} (ending : Ending junctionWords text) :
    scanSuffix text = none := by
  have code := ending.first_code
  unfold scanSuffix
  cases shape : dropBlanks text with
  | nil => rfl
  | cons c rest =>
    have first := code c (by rw [shape]; rfl)
    split
    · rename_i same
      obtain ⟨rfl, -⟩ := List.cons.inj same
      simp at first
    · rename_i same
      obtain ⟨rfl, -⟩ := List.cons.inj same
      simp at first
    · rfl

theorem endsBare_of_atBoundary {text : List Char} (boundary : atBoundary text = true) : EndsBare text := by
  cases text with
  | nil => simp [EndsBare]
  | cons d rest =>
    rw [EndsBare, forall_head_cons]
    simp only [atBoundary, Bool.or_eq_true, decide_eq_true_eq] at boundary
    rcases boundary with rfl | blank
    · decide
    · simp [isBare, blank]

theorem atBoundary_of_blanks {blanks rest : List Char} (blank : Blanks blanks) (some : blanks ≠ []) :
    atBoundary (blanks ++ rest) = true := by
  cases blanks with
  | nil => exact absurd rfl some
  | cons c more => simp [atBoundary, blank c List.mem_cons_self]

theorem EndsAddress.of_blanks {blanks rest : List Char} (blank : Blanks blanks) (ends : EndsAddress rest) :
    EndsAddress (blanks ++ rest) := by
  cases blanks with
  | nil => exact ends
  | cons c more =>
    rw [EndsAddress, List.cons_append, forall_head_cons]
    intro char
    have visible := not_blank_of_bare (isBare_of_isColonsChar char)
    rw [blank c List.mem_cons_self] at visible
    contradiction

theorem visible_append {text rest : List Char} (some : text ≠ [])
    (bare : ∀ c ∈ text, isBare c = true) :
    Visible (text ++ rest) := by
  cases text with
  | nil => exact absurd rfl some
  | cons c more =>
    rw [Visible, List.cons_append, forall_head_cons]
    exact not_blank_of_bare (bare c List.mem_cons_self)

/-- The text of an address is a bare token. -/
theorem bare_of_read? {text : List Char} {address : IpAddress}
    (read : IpAddress.read? text = some address) :
    text ≠ [] ∧ ∀ c ∈ text, isBare c = true := by
  obtain ⟨some, chars⟩ := chars_of_read? read
  exact ⟨some, fun c inside => isBare_of_isColonsChar (chars c inside)⟩

theorem scanIp_append {text rest : List Char} {range : IpRange} (spelled : IpText text range)
    (boundary : atBoundary rest = true) (ending : Ending junctionWords rest) :
    scanIp (text ++ rest) = some (range, rest) := by
  have ends := (endsBare_of_atBoundary boundary).endsAddress
  cases spelled with
  | address read =>
    simp [scanIp, scanAddress_append read ends, ending.no_suffix, read, suffixedRange, boundary]
  | block read front back some short decimal valid =>
    rename_i address before after digits found
    have digitsBare : ∀ c ∈ digits, isBare c = true := fun c inside =>
      isBare_of_isColonsChar (Or.inl (isHexDigit_of_isDigit (decimal c inside)))
    have scanned : scanAddress (address ++ (before ++ '/' :: (after ++ (digits ++ rest)))) =
        .some (address, before ++ '/' :: (after ++ (digits ++ rest))) :=
      scanAddress_append read (.of_blanks front (forall_head_cons.2 (by decide)))
    have suffix : scanSuffix (before ++ '/' :: (after ++ (digits ++ rest))) =
        .some (.bits digits, rest) := by
      have counted := scanDigits_append some short decimal ends.not_digit
      rw [scanSuffix, dropBlanks_append front, dropBlanks_cons_of_not_blank (by decide)]
      simp only
      rw [dropBlanks_append back, dropBlanks_visible (visible_append some digitsBare), counted]
      rfl
    simp only [List.append_assoc, List.cons_append]
    simp [scanIp, scanned, suffix, read, suffixedRange, valid, boundary, Except.toOption]
  | ends read front back readOther valid =>
    rename_i first before after other one last
    obtain ⟨some, otherBare⟩ := bare_of_read? readOther
    have scanned : scanAddress (first ++ (before ++ '-' :: (after ++ (other ++ rest)))) =
        .some (first, before ++ '-' :: (after ++ (other ++ rest))) :=
      scanAddress_append read (.of_blanks front (forall_head_cons.2 (by decide)))
    have suffix : scanSuffix (before ++ '-' :: (after ++ (other ++ rest))) = .some (.last other, rest) := by
      rw [scanSuffix, dropBlanks_append front, dropBlanks_cons_of_not_blank (by decide)]
      simp only
      rw [dropBlanks_append back, dropBlanks_visible (visible_append some otherBare),
        scanAddress_append readOther ends]
      rfl
    simp only [List.append_assoc, List.cons_append]
    simp [scanIp, scanned, suffix, read, readOther, suffixedRange, valid, boundary, Except.toOption]

theorem scanDigits_suffix {most : Nat} {text : List Char} {found : List Char × List Char}
    (scanned : scanDigits most text = some found) : found.2 <:+ text := by
  unfold scanDigits at scanned
  split at scanned
  · contradiction
  · rw [← Option.some.inj scanned]
    exact List.drop_suffix _ _

theorem scanDot_suffix {text left : List Char} (scanned : scanDot text = some left) : left <:+ text := by
  unfold scanDot at scanned
  split at scanned
  · rw [← Option.some.inj scanned]
    exact List.suffix_cons _ _
  · contradiction

theorem scanDotted_suffix {text : List Char} {found : List Char × List Char}
    (scanned : scanDotted text = some found) : found.2 <:+ text := by
  simp only [scanDotted, Option.bind_eq_bind, Option.bind_eq_some_iff, Option.some.injEq] at scanned
  obtain ⟨a, first, r, dotA, b, second, s, dotB, c, third, t, dotC, d, fourth, rfl⟩ := scanned
  have afterFirst : r <:+ text := (scanDot_suffix dotA).trans (scanDigits_suffix first)
  have afterSecond : s <:+ text := ((scanDot_suffix dotB).trans (scanDigits_suffix second)).trans afterFirst
  have afterThird : t <:+ text := ((scanDot_suffix dotC).trans (scanDigits_suffix third)).trans afterSecond
  exact (scanDigits_suffix fourth).trans afterThird

theorem scanColons_suffix {text : List Char} {found : List Char × List Char}
    (scanned : scanColons text = some found) : found.2 <:+ text := by
  unfold scanColons at scanned
  split at scanned
  · split at scanned
    · rw [← Option.some.inj scanned]
      exact List.dropWhile_suffix _
    · contradiction
  · contradiction

theorem scanAddress_suffix {text : List Char} {found : List Char × List Char}
    (scanned : scanAddress text = some found) : found.2 <:+ text := by
  unfold scanAddress at scanned
  cases dotted : scanDotted text with
  | some other =>
    rw [dotted] at scanned
    rw [← Option.some.inj scanned]
    exact scanDotted_suffix dotted
  | none =>
    rw [dotted] at scanned
    exact scanColons_suffix scanned

section Bare

variable {text rest : List Char}

theorem scanSuffix_bare (bare : ∀ c ∈ text, isBare c = true) (boundary : atBoundary rest = true)
    (ending : Ending junctionWords rest) :
    scanSuffix (text ++ rest) = (scanSuffix text).map (behind rest) := by
  have ends := (endsBare_of_atBoundary boundary).endsAddress
  cases text with
  | nil => rw [List.nil_append, ending.no_suffix]; rfl
  | cons c more =>
    have visible := not_blank_of_bare (bare c List.mem_cons_self)
    have notSlash : c ≠ '/' := by
      rintro rfl
      simpa [isBare, delimiters] using bare '/' List.mem_cons_self
    unfold scanSuffix
    rw [List.cons_append, dropBlanks_cons_of_not_blank visible, dropBlanks_cons_of_not_blank visible]
    by_cases hyphen : c = '-'
    · subst hyphen
      simp only
      have scanned : scanAddress (dropBlanks (more ++ rest)) =
          (scanAddress (dropBlanks more)).map (behind rest) := by
        cases more with
        | nil => rw [List.nil_append, ending.no_address]; rfl
        | cons d others =>
          have seen := not_blank_of_bare (bare d (List.mem_cons_of_mem _ List.mem_cons_self))
          rw [List.cons_append, dropBlanks_cons_of_not_blank seen, dropBlanks_cons_of_not_blank seen,
            ← List.cons_append, scanAddress_local ends]
      rw [scanned]
      cases scanAddress (dropBlanks more) <;> rfl
    · simp [notSlash, hyphen]

theorem atBoundary_append (boundary : atBoundary rest = true) :
    atBoundary (text ++ rest) = atBoundary text := by
  cases text with
  | nil => exact boundary
  | cons c more => rfl

/-- Whether a bare token reads as a range does not depend on what follows. -/
theorem scanIp_bare (bare : ∀ c ∈ text, isBare c = true) (boundary : atBoundary rest = true)
    (ending : Ending junctionWords rest) :
    scanIp (text ++ rest) = (scanIp text).map (behind rest) := by
  have ends := (endsBare_of_atBoundary boundary).endsAddress
  unfold scanIp
  rw [scanAddress_local ends]
  cases scanned : scanAddress text with
  | none => rfl
  | some found =>
    obtain ⟨first, left⟩ := found
    have leftBare : ∀ c ∈ left, isBare c = true := fun c inside =>
      bare c ((scanAddress_suffix scanned).subset inside)
    simp only [Option.map_some, behind, Option.bind_eq_bind, Option.bind_some,
      scanSuffix_bare leftBare boundary ending]
    cases scanSuffix left with
    | none =>
      simp only [Option.map_none, atBoundary_append boundary]
      cases IpAddress.read? first with
      | none => rfl
      | some address =>
        simp only [Option.bind_some, suffixedRange]
        split <;> rfl
    | some found =>
      simp only [Option.map_some, behind, atBoundary_append boundary]
      cases IpAddress.read? first with
      | none => rfl
      | some address =>
        simp only [Option.bind_some]
        cases suffixedRange address (some found.1) with
        | none => rfl
        | some range =>
          simp only [Option.bind_some]
          split <;> rfl

end Bare

end EventRouting.RuleText
