import EventRouting.IpRange
import EventRouting.Proofs.Network.AddressShape
import Mathlib.Algebra.Group.Nat.Defs

set_option autoImplicit false

namespace EventRouting.IpAddress

open Text

theorem decimalValue_toDigits (number : Nat) : decimalValue (Nat.toDigits 10 number) = number := by
  have value := @Nat.ofDigitChars_ten_toDigits number
  rw [Nat.ofDigitChars_eq_foldl] at value
  simpa only [decimalValue, Nat.mul_comm] using value

theorem hexValue_concat (digits : List Char) (c : Char) :
    hexValue (digits ++ [c]) = hexValue digits * 16 + hexDigitValue c := by
  simp [hexValue]

theorem digitChar_hex :
    ∀ digit < 16, isHexDigit digit.digitChar = true ∧ hexDigitValue digit.digitChar = digit := by
  decide

/-- Hexadecimal digits are read as the number they were written for. -/
theorem toDigits_hex (number : Nat) : (∀ c ∈ Nat.toDigits 16 number, isHexDigit c = true) ∧
    hexValue (Nat.toDigits 16 number) = number := by
  induction number using Nat.strongRecOn with
  | ind number ih =>
    by_cases small : number < 16
    · rw [Nat.toDigits_of_lt_base small]
      obtain ⟨hex, value⟩ := digitChar_hex number small
      exact ⟨by simpa using hex, by simpa [hexValue] using value⟩
    · obtain ⟨front, value⟩ := ih (number / 16) (by omega)
      obtain ⟨hex, last⟩ := digitChar_hex (number % 16) (Nat.mod_lt _ (by decide))
      rw [Nat.toDigits_of_base_le (by decide) (by omega)]
      constructor
      · intro c inside
        rcases List.mem_append.1 inside with inside | inside
        · exact front c inside
        · rw [List.mem_singleton.1 inside]
          exact hex
      · rw [hexValue_concat, value, last]
        omega

theorem readGroup_toDigits {group : Nat} (small : group < 65536) :
    readGroup (Nat.toDigits 16 group) = some group := by
  obtain ⟨hex, value⟩ := toDigits_hex group
  have short : (Nat.toDigits 16 group).length ≤ 4 :=
    (Nat.length_toDigits_le_iff (by decide) (by decide)).2 small
  unfold readGroup
  rw [if_neg, value]
  simp only [Bool.or_eq_true, List.isEmpty_iff, decide_eq_true_eq, Bool.not_eq_true', not_or]
  refine ⟨⟨Nat.toDigits_ne_nil, by omega⟩, ?_⟩
  rw [Bool.not_eq_false, List.all_eq_true]
  exact hex

theorem digitChar_ne_zero : ∀ digit < 10, 0 < digit → digit.digitChar ≠ '0' := by
  decide

/-- Only the digits of zero start with a zero. -/
theorem head_toDigits {number : Nat} (positive : 0 < number) :
    (Nat.toDigits 10 number).head? ≠ some '0' := by
  induction number using Nat.strongRecOn with
  | ind number ih =>
    by_cases small : number < 10
    · rw [Nat.toDigits_of_lt_base small, List.head?_cons, Ne, Option.some.injEq]
      exact digitChar_ne_zero number small positive
    · rw [Nat.toDigits_of_base_le (by decide) (by omega), List.head?_append,
        Option.or_of_isSome (by simp [Nat.toDigits_ne_nil])]
      exact ih (number / 10) (by omega) (by omega)

theorem readOctet_toDigits {octet : Nat} (small : octet < 256) :
    readOctet (Nat.toDigits 10 octet) = some octet := by
  have short : (Nat.toDigits 10 octet).length ≤ 3 := by
    rw [Nat.length_toDigits_le_iff (by decide) (by decide)]
    omega
  have digits : ∀ c ∈ Nat.toDigits 10 octet, c.isDigit = true := fun c inside =>
    Nat.isDigit_of_mem_toDigits (by decide) (by decide) inside
  have lead : ¬ ((Nat.toDigits 10 octet).head? = some '0' ∧ 1 < (Nat.toDigits 10 octet).length) := by
    rintro ⟨first, long⟩
    by_cases zero : octet = 0
    · rw [zero, Nat.toDigits_zero] at long
      exact absurd long (by decide)
    · exact head_toDigits (by omega) first
  unfold readOctet
  rw [if_neg, if_neg (by simpa using lead), decimalValue_toDigits, if_pos small]
  simp only [Bool.or_eq_true, List.isEmpty_iff, decide_eq_true_eq, Bool.not_eq_true', not_or]
  refine ⟨⟨Nat.toDigits_ne_nil, by omega⟩, ?_⟩
  rw [Bool.not_eq_false, List.all_eq_true]
  exact digits

theorem not_colon_of_hex {c : Char} (hex : isHexDigit c = true) : c ≠ ':' ∧ c ≠ '.' := by
  constructor
  · rintro rfl
    exact absurd hex (by decide)
  · rintro rfl
    exact absurd hex (by decide)

theorem places_lt {base : Nat} (positive : 0 < base) (number count : Nat) :
    ∀ place ∈ places base number count, place < base := by
  induction count generalizing number with
  | zero => simp [places]
  | succ count ih =>
    intro place inside
    rw [places, List.mem_append, List.mem_singleton] at inside
    rcases inside with inside | rfl
    · exact ih _ place inside
    · exact Nat.mod_lt _ positive

@[simp] theorem length_places (base number count : Nat) : (places base number count).length = count := by
  induction count generalizing number with
  | zero => rfl
  | succ count ih => rw [places, List.length_append, ih, List.length_singleton]

/-- The places of a number make up the number again. -/
theorem foldl_places (base number count : Nat) :
    (places base number count).foldl (fun value place => value * base + place) 0 =
      number % base ^ count := by
  induction count generalizing number with
  | zero => simp [places, Nat.mod_one]
  | succ count ih =>
    rw [places, List.foldl_append, ih, List.foldl_cons, List.foldl_nil, Nat.pow_succ,
      Nat.mul_comm (base ^ count), Nat.mod_mul]
    rw [Nat.mul_comm base, Nat.add_comm]

theorem readDotted_writeDotted {number : Nat} (small : number < 2 ^ 32) :
    readDotted (writeDotted number) = some number := by
  have pieces : (places 256 number 4).map (Nat.toDigits 10) =
      [Nat.toDigits 10 (number / 256 / 256 / 256 % 256), Nat.toDigits 10 (number / 256 / 256 % 256),
        Nat.toDigits 10 (number / 256 % 256), Nat.toDigits 10 (number % 256)] := rfl
  have clean : ∀ piece ∈ (places 256 number 4).map (Nat.toDigits 10), '.' ∉ piece := by
    intro piece inside dot
    obtain ⟨place, -, rfl⟩ := List.mem_map.1 inside
    exact absurd (Nat.isDigit_of_mem_toDigits (by decide) (by decide) dot) (by decide)
  have octet (value : Nat) : readOctet (Nat.toDigits 10 (value % 256)) = some (value % 256) :=
    readOctet_toDigits (Nat.mod_lt _ (by decide))
  rw [readDotted, writeDotted, splitAt_joinWith (by rw [pieces]; simp) clean, pieces]
  simp only [List.mapM_cons, List.mapM_nil, octet, Option.pure_def, Option.bind_eq_bind, Option.bind_some]
  congr 1
  omega

theorem mem_writeDotted {number : Nat} {c : Char} (inside : c ∈ writeDotted number) :
    c.isDigit = true ∨ c = '.' := by
  rcases mem_joinWith inside with rfl | ⟨piece, member, inside⟩
  · exact Or.inr rfl
  · obtain ⟨place, -, rfl⟩ := List.mem_map.1 member
    exact Or.inl (Nat.isDigit_of_mem_toDigits (by decide) (by decide) inside)

theorem readDotted_colon {text : List Char} (colon : ':' ∈ text) : readDotted text = none := by
  rw [Option.eq_none_iff_forall_ne_some]
  intro number read
  rcases (dotted_of_readDotted read).chars ':' colon with digit | same
  · exact absurd digit (by decide)
  · exact absurd same (by decide)

/-- Numbers that four hexadecimal digits can write. -/
def AreGroups (groups : List Nat) : Prop := ∀ group ∈ groups, group < 65536

theorem clean_groups (groups : List Nat) :
    ∀ piece ∈ groups.map (Nat.toDigits 16), piece ≠ [] ∧ ':' ∉ piece := by
  intro piece inside
  obtain ⟨group, -, rfl⟩ := List.mem_map.1 inside
  exact ⟨Nat.toDigits_ne_nil, fun colon => (not_colon_of_hex ((toDigits_hex group).1 _ colon)).1 rfl⟩

theorem splitAt_writeGroups {groups : List Nat} (some : groups ≠ []) :
    splitAt ':' (writeGroups groups) = groups.map (Nat.toDigits 16) :=
  splitAt_joinWith (by simpa using some) fun piece inside => (clean_groups groups piece inside).2

theorem writeGroups_ne_nil {groups : List Nat} (some : groups ≠ []) : writeGroups groups ≠ [] := by
  match groups with
  | [group] => simp [writeGroups, joinWith]
  | group :: next :: more => simp [writeGroups, joinWith]

theorem readGroups_map {groups : List Nat} (small : AreGroups groups) :
    readGroups (groups.map (Nat.toDigits 16)) = some groups := by
  induction groups with
  | nil => rfl
  | cons group rest ih =>
    have read := readGroup_toDigits (small group List.mem_cons_self)
    have reads := ih fun other inside => small other (List.mem_cons_of_mem _ inside)
    cases rest with
    | nil => simp [readGroups, read]
    | cons next more =>
      simp only [List.map_cons] at reads ⊢
      rw [readGroups.eq_3 _ _ (by simp), read, reads]
      rfl

theorem mapM_readGroup {groups : List Nat} (small : AreGroups groups) :
    (groups.map (Nat.toDigits 16)).mapM readGroup = some groups := by
  induction groups with
  | nil => rfl
  | cons group rest ih =>
    rw [List.map_cons, List.mapM_cons, readGroup_toDigits (small group List.mem_cons_self),
      ih fun other inside => small other (List.mem_cons_of_mem _ inside)]
    rfl

theorem readSide_writeGroups {groups : List Nat} (small : AreGroups groups) :
    readSide (writeGroups groups) = some groups := by
  by_cases some : groups = []
  · rw [some]
    rfl
  · rw [readSide, if_neg (by simpa using writeGroups_ne_nil some), splitAt_writeGroups some,
      readGroups_map small]

theorem splitGap_clean {piece : List Char} (clean : ':' ∉ piece) (rest : List Char) :
    splitGap (piece ++ rest) = (splitGap rest).map fun halves => (piece ++ halves.1, halves.2) := by
  induction piece with
  | nil => simp
  | cons c more ih =>
    rw [List.mem_cons, not_or] at clean
    rw [List.cons_append, splitGap.eq_2 _ _ (fun _ same _ => clean.1 same.symm), ih clean.2, Option.map_map]
    rfl

/-- A gap does not begin among groups with single colons between them. -/
theorem splitGap_joinWith {pieces : List (List Char)}
    (clean : ∀ piece ∈ pieces, piece ≠ [] ∧ ':' ∉ piece)
    (rest : List Char) : splitGap (joinWith [':'] pieces ++ rest) =
      (splitGap rest).map fun halves => (joinWith [':'] pieces ++ halves.1, halves.2) := by
  induction pieces with
  | nil => simp [joinWith]
  | cons piece others ih =>
    obtain ⟨some, colonless⟩ := clean piece List.mem_cons_self
    have later := ih fun other inside => clean other (List.mem_cons_of_mem _ inside)
    cases others with
    | nil => exact splitGap_clean colonless rest
    | cons next more =>
      obtain ⟨d, tail, first, different⟩ : ∃ d tail, joinWith [':'] (next :: more) = d :: tail ∧
          d ≠ ':' := by
        obtain ⟨someNext, colonlessNext⟩ := clean next (by simp)
        obtain ⟨d, tail, rfl⟩ := List.exists_cons_of_ne_nil someNext
        rw [List.mem_cons, not_or] at colonlessNext
        cases more with
        | nil => exact ⟨d, tail, rfl, Ne.symm colonlessNext.1⟩
        | cons third more => exact ⟨d, _, rfl, Ne.symm colonlessNext.1⟩
      rw [joinWith.eq_3 _ _ _ (by simp), List.append_assoc, List.append_assoc, splitGap_clean colonless,
        List.singleton_append, splitGap.eq_2, later, Option.map_map, Option.map_map]
      · congr 1
        funext halves
        simp
      · intro more' _ same
        rw [first, List.cons_append] at same
        exact different (List.cons.inj same).1

theorem zeroPrefix (groups : List Nat) :
    ∃ after, groups = List.replicate (zeroPrefixLength groups) 0 ++ after := by
  induction groups with
  | nil => exact ⟨[], rfl⟩
  | cons group rest ih =>
    cases group with
    | zero =>
      obtain ⟨after, shape⟩ := ih
      exact ⟨after, by rw [zeroPrefixLength, List.replicate_succ, List.cons_append, ← shape]⟩
    | succ group => exact ⟨_, rfl⟩

/-- Where a run of zeros was found, there is one. -/
theorem longestZeros_spec (start : Nat) (groups : List Nat) :
    ∃ before after, groups = before ++ List.replicate (longestZeros start groups).2 0 ++ after ∧
      ((longestZeros start groups).2 = 0 ∨ (longestZeros start groups).1 = start + before.length) := by
  induction groups generalizing start with
  | nil => exact ⟨[], [], rfl, Or.inl rfl⟩
  | cons group rest ih =>
    rw [longestZeros]
    split
    · obtain ⟨after, shape⟩ := zeroPrefix (group :: rest)
      exact ⟨[], after, shape, Or.inr rfl⟩
    · obtain ⟨before, after, shape, place⟩ := ih (start + 1)
      refine ⟨group :: before, after, ?_, ?_⟩
      · rw [List.cons_append, List.cons_append, ← shape]
      · rcases place with none | place
        · exact Or.inl none
        · refine Or.inr (place.trans ?_)
          rw [List.length_cons]
          omega

/-- Groups on either side of a gap are read with the zeros that are missing between them. -/
theorem readColons_gap {before after : List Nat} (smallBefore : AreGroups before)
    (smallAfter : AreGroups after) (short : before.length + after.length < 8) :
    readColons (writeGroups before ++ ':' :: ':' :: writeGroups after) =
      some (before ++ List.replicate (8 - before.length - after.length) 0 ++ after) := by
  have gap : splitGap (writeGroups before ++ ':' :: ':' :: writeGroups after) =
      some (writeGroups before, writeGroups after) := by
    rw [writeGroups, splitGap_joinWith (clean_groups before), splitGap]
    simp
  rw [readColons, gap]
  simp only [readSide_writeGroups smallAfter, Option.bind_eq_bind, Option.bind_some]
  by_cases none : before = []
  · subst none
    exact if_pos short
  · rw [if_neg (by simpa using writeGroups_ne_nil none), splitAt_writeGroups none,
      mapM_readGroup smallBefore]
    exact if_pos short

theorem readColons_all {groups : List Nat} (small : AreGroups groups) (eight : groups.length = 8) :
    readColons (writeGroups groups) = some groups := by
  have some : groups ≠ [] := by
    rintro rfl
    contradiction
  have none : splitGap (writeGroups groups) = none := by
    have alone := splitGap_joinWith (clean_groups groups) []
    rw [List.append_nil] at alone
    exact alone
  rw [readColons, none]
  simp only [splitAt_writeGroups some, readGroups_map small, eight, if_true]

theorem readColons_open {after : List Char} {back : List Nat} (read : readSide after = some back)
    (short : back.length < 8) : readColons (':' :: ':' :: after) =
      some (List.replicate (8 - back.length) 0 ++ back) := by
  rw [readColons, splitGap]
  simp [read, short]

theorem readColons_dotted {number : Nat} (small : number < 2 ^ 32) :
    readColons ("::ffff:".toList ++ writeDotted number) =
      some (List.replicate 5 0 ++ [0xffff, number / 65536, number % 65536]) := by
  have colonless : ':' ∉ writeDotted number := by
    intro colon
    rcases mem_writeDotted colon with digit | same
    · exact absurd digit (by decide)
    · exact absurd same (by decide)
  have dot : '.' ∈ writeDotted number := by
    simp [writeDotted, places, joinWith]
  have notGroup : readGroup (writeDotted number) = none := by
    rw [Option.eq_none_iff_forall_ne_some]
    intro group read
    exact (not_colon_of_hex (hex_of_readGroup read _ dot)).2 rfl
  have pieces : splitAt ':' (['f', 'f', 'f', 'f'] ++ ':' :: writeDotted number) =
      [['f', 'f', 'f', 'f'], writeDotted number] := by
    rw [splitAt_append (by decide), splitAt_clean colonless]
  have back : readSide (['f', 'f', 'f', 'f'] ++ ':' :: writeDotted number) =
      some [0xffff, number / 65536, number % 65536] := by
    have first : readGroup ['f', 'f', 'f', 'f'] = some 0xffff := by decide
    rw [readSide, if_neg (by simp), pieces, readGroups.eq_3 _ _ (by simp), first, readGroups, notGroup]
    simp [readDotted_writeDotted small]
  have mark : "::ffff:".toList = [':', ':', 'f', 'f', 'f', 'f', ':'] := by simp
  rw [mark]
  exact readColons_open back (by simp)

theorem readColons_writeColons (number : Nat) :
    readColons (writeColons number) = some (places 65536 number 8) := by
  have groups : AreGroups (places 65536 number 8) := places_lt (by decide) number 8
  unfold writeColons
  simp only
  split
  · rename_i mapped
    rw [readColons_dotted]
    · simp only [places, List.nil_append, List.cons_append, List.replicate, Option.some.injEq,
        List.cons.injEq]
      refine ⟨?_, ?_, ?_, ?_, ?_, ?_, ?_, ?_, trivial⟩ <;> omega
    · omega
  · obtain ⟨before, after, shape, place⟩ := longestZeros_spec 0 (places 65536 number 8)
    split
    · rename_i several
      have eight : before.length + (longestZeros 0 (places 65536 number 8)).2 + after.length = 8 := by
        have lengths := congrArg List.length shape
        simp only [length_places, List.length_append, List.length_replicate] at lengths
        omega
      generalize (longestZeros 0 (places 65536 number 8)).1 = start at place ⊢
      generalize (longestZeros 0 (places 65536 number 8)).2 = zeros at shape place several eight ⊢
      have place : start = before.length := by omega
      have inside : AreGroups (before ++ List.replicate zeros 0 ++ after) := shape ▸ groups
      have small : AreGroups before ∧ AreGroups after := by
        constructor <;> intro group member <;> exact inside group (by simp [member])
      have front : (places 65536 number 8).take start = before := by
        rw [shape, place, List.append_assoc, List.take_left]
      have back : (places 65536 number 8).drop (start + zeros) = after := by
        rw [shape, List.drop_left' (by simp [place])]
      rw [front, back, readColons_gap small.1 small.2 (by omega), shape]
      congr
      omega
    · exact readColons_all groups (length_places _ _ _)

theorem colon_mem_writeColons (number : Nat) : ':' ∈ writeColons number := by
  unfold writeColons
  simp only
  split
  · simp
  · split
    · simp
    · simp [writeGroups, places, joinWith]

theorem ofNumber?_number (address : IpAddress) :
    ofNumber? address.family address.number = some address := by
  rw [ofNumber?, dif_pos address.fits]

/-- The text of an address reads back as the address. -/
theorem read?_write (address : IpAddress) : read? address.write = some address := by
  obtain ⟨family, number, fits⟩ := address
  cases family with
  | v4 =>
    have small : number < 2 ^ 32 := fits
    rw [write, read?, readDotted_writeDotted small]
    exact ofNumber?_number ⟨.v4, number, fits⟩
  | v6 =>
    have small : number < 2 ^ 128 := fits
    have value : groupsValue (places 65536 number 8) = number := by
      rw [groupsValue, foldl_places]
      exact Nat.mod_eq_of_lt small
    rw [write, read?, readDotted_colon (colon_mem_writeColons number)]
    simp only
    rw [readColons_writeColons, Option.bind_some, value]
    exact ofNumber?_number ⟨.v6, number, fits⟩

end EventRouting.IpAddress

namespace EventRouting.IpRange

theorem ofAddress_firstAddress {range : IpRange} (same : range.first = range.last) :
    ofAddress range.firstAddress = range :=
  ext_of_ends rfl rfl same

theorem ofEnds_addresses (range : IpRange) :
    ofEnds range.firstAddress range.lastAddress = .ok range := by
  have same : range.firstAddress.family = range.lastAddress.family := rfl
  unfold ofEnds
  exact (dif_pos same).trans (congrArg Except.ok
    (ext_of_ends rfl (Nat.min_eq_left range.ordered) (Nat.max_eq_right range.ordered)))

end EventRouting.IpRange
