import EventRouting.Proofs.RuleText.RoundTrip
import EventRouting.Structured

set_option autoImplicit false

namespace EventRouting

/-- A backslash that escapes nothing is the last character, and stays that. -/
theorem unescapeSlashes_last {c : Char} {rest : List Char}
    (notEscape : ∀ next text, c = '\\' → rest = next :: text → False) (next : Char) (text : List Char)
    (same : c = '\\') : unescapeSlashes rest ≠ next :: text := by
  cases rest with
  | nil => simp [unescapeSlashes]
  | cons head tail => exact (notEscape head tail same rfl).elim

theorem unescapeSlashes_again (source : List Char) :
    unescapeSlashes (unescapeSlashes source) = unescapeSlashes source := by
  induction source using unescapeSlashes.induct with
  | case1 rest ih =>
    rw [unescapeSlashes.eq_1, unescapeSlashes.eq_3 _ _ (by simp) (by simp), ih]
  | case2 c rest notSlash ih =>
    rw [unescapeSlashes.eq_2 _ _ notSlash, unescapeSlashes.eq_2 _ _ notSlash, ih]
  | case3 c rest notSlash notEscape ih =>
    have last := unescapeSlashes_last notEscape
    rw [unescapeSlashes.eq_3 _ _ notSlash notEscape, unescapeSlashes.eq_3 _ _ (last '/') last, ih]
  | case4 => rfl

/-- A question mark stands in front only if it did before. -/
theorem unescapeSlashes_question {source rest : List Char}
    (shape : unescapeSlashes source = '?' :: rest) : ∃ text, source = '?' :: text := by
  cases source using unescapeSlashes.fun_cases with
  | case1 => simp [unescapeSlashes] at shape
  | case2 c text notSlash => simp [unescapeSlashes.eq_2 _ _ notSlash] at shape
  | case3 c text notSlash notEscape =>
    rw [unescapeSlashes.eq_3 _ _ notSlash notEscape] at shape
    exact ⟨text, by rw [(List.cons.inj shape).1]⟩
  | case4 => contradiction

/-- Flag letters end at a slash, escaped or not. -/
theorem refusedLetter_unescapeSlashes (source : List Char) :
    refusedLetter (unescapeSlashes source) = refusedLetter source := by
  induction source using unescapeSlashes.induct with
  | case1 rest => rw [unescapeSlashes.eq_1]; rfl
  | case2 c rest notSlash => rw [unescapeSlashes.eq_2 _ _ notSlash]; rfl
  | case3 c rest notSlash notEscape ih =>
    rw [unescapeSlashes.eq_3 _ _ notSlash notEscape, refusedLetter, refusedLetter, ih]
  | case4 => rfl

/-- A character that opens and closes nothing. -/
theorem refusedInline_skip {c : Char} (plain : c ∉ ['\\', '[', ']', '(']) (inClass : Bool)
    (rest : List Char) :
    refusedInline inClass (c :: rest) = refusedInline inClass rest := by
  simp only [List.mem_cons, List.not_mem_nil, or_false, not_or] at plain
  obtain ⟨escape, opens, closes, group⟩ := plain
  exact refusedInline.eq_6 _ _ _ (fun _ _ same => absurd same escape) opens closes fun _ same =>
    absurd same group

/-- Plain slashes ask for the same modes as escaped ones. -/
theorem refusedInline_unescapeSlashes (inClass : Bool) (source : List Char) :
    refusedInline inClass (unescapeSlashes source) = refusedInline inClass source := by
  induction source using unescapeSlashes.induct generalizing inClass with
  | case1 rest ih =>
    rw [unescapeSlashes.eq_1, refusedInline.eq_2, refusedInline_skip (by decide), ih]
  | case2 c rest notSlash ih =>
    rw [unescapeSlashes.eq_2 _ _ notSlash, refusedInline.eq_2, refusedInline.eq_2, ih]
  | case3 c rest notSlash notEscape ih =>
    rw [unescapeSlashes.eq_3 _ _ notSlash notEscape]
    by_cases opens : c = '['
    · rw [opens, refusedInline.eq_3, refusedInline.eq_3, ih]
    by_cases closes : c = ']'
    · rw [closes, refusedInline.eq_4, refusedInline.eq_4, ih]
    by_cases group : c = '(' ∧ ∃ text, rest = '?' :: text
    · -- The flag group is the same, and so is what follows the question mark.
      obtain ⟨rfl, text, rfl⟩ := group
      have later : unescapeSlashes ('?' :: text) = '?' :: unescapeSlashes text :=
        unescapeSlashes.eq_3 _ _ (by simp) (by simp)
      have tails (inClass : Bool) : refusedInline inClass (unescapeSlashes text) =
          refusedInline inClass text := by
        have both := ih inClass
        rwa [later, refusedInline_skip (by decide), refusedInline_skip (by decide)] at both
      rw [later, refusedInline.eq_5, refusedInline.eq_5, refusedLetter_unescapeSlashes, tails]
    · have plain (text : List Char) (same : c = '(') : rest ≠ '?' :: text :=
        fun shape => group ⟨same, text, shape⟩
      have plainAfter (text : List Char) (same : c = '(') : unescapeSlashes rest ≠ '?' :: text := by
        intro shape
        obtain ⟨before, question⟩ := unescapeSlashes_question shape
        exact plain before same question
      rw [refusedInline.eq_6 _ _ _ (unescapeSlashes_last notEscape) opens closes plainAfter,
        refusedInline.eq_6 _ _ _ notEscape opens closes plain, ih]
  | case4 => rfl

namespace Regexp

/-- The source that an expression keeps is the one it was made from, with plain slashes. -/
theorem source_of_ofSource {source : List Char} {ignoreCase : Bool} {regexp : Regexp}
    (made : ofSource source ignoreCase = .ok regexp) : refusedInline false source = none ∧
      regexp.source.toList = unescapeSlashes source ∧ regexp.ignoreCase = ignoreCase := by
  unfold ofSource at made
  split at made
  · contradiction
  · next allowed =>
    dsimp only at made
    split at made
    · obtain rfl := Except.ok.inj made
      exact ⟨allowed, String.toList_ofList, rfl⟩
    · contradiction

theorem ofSource_eq_ok {source : List Char} {regexp : Regexp} (allowed : refusedInline false source = none)
    (same : regexp.source = String.ofList (unescapeSlashes source)) :
    ofSource source regexp.ignoreCase = .ok regexp := by
  unfold ofSource
  rw [allowed]
  dsimp only
  split
  · exact congrArg Except.ok (ext_of_source same.symm rfl)
  · next failed =>
    have compiled := regexp.compiled
    rw [same, failed] at compiled
    contradiction

/-- Reading the source of an expression again gives the expression. -/
theorem ofSource_source {source : List Char} {ignoreCase : Bool} {regexp : Regexp}
    (made : ofSource source ignoreCase = .ok regexp) :
    ofSource regexp.source.toList regexp.ignoreCase = .ok regexp := by
  obtain ⟨allowed, same, -⟩ := source_of_ofSource made
  apply ofSource_eq_ok
  · rw [same, refusedInline_unescapeSlashes, allowed]
  · rw [same, unescapeSlashes_again, ← same, String.ofList_toList]

end Regexp

namespace IpRange

open Text RuleText

theorem readAddress_of_read? {text : List Char} {address : IpAddress}
    (read : IpAddress.read? text = some address) : readAddress text = .ok address := by
  obtain ⟨-, bare⟩ := bare_of_read? read
  have trimmed : trim text = text :=
    trim_of_edges (fun c first => not_blank_of_bare (bare c (List.mem_of_mem_head? first)))
      fun c last => not_blank_of_bare (bare c (List.mem_of_mem_getLast? last))
  rw [readAddress, trimmed, read]

/-- What stands around an address does not keep it from being read. -/
theorem readAddress_congr {text other : List Char} (same : trim text = trim other) :
    readAddress text = readAddress other := by
  rw [readAddress, readAddress, same]

theorem readBits_congr {text other : List Char} (same : trim text = trim other) :
    readBits text = readBits other := by
  rw [readBits, readBits, same]

theorem mark_notMem_of_read? {text : List Char} {address : IpAddress}
    (read : IpAddress.read? text = some address) : '-' ∉ text ∧ '/' ∉ text := by
  obtain ⟨-, chars⟩ := IpAddress.chars_of_read? read
  constructor
  · intro inside
    have code := code_of_isColonsChar (chars _ inside)
    revert code
    decide
  · intro inside
    have code := code_of_isColonsChar (chars _ inside)
    revert code
    decide

/-- Digits are a count of bits if it is a small one. -/
theorem readBits_eq_ok_iff {digits : List Char} {bits : Nat} (some : digits ≠ [])
    (decimal : ∀ c ∈ digits, c.isDigit = true) : readBits digits = .ok bits ↔
      IpAddress.decimalValue digits < 0x100000000 ∧ IpAddress.decimalValue digits = bits := by
  have visible : ∀ c ∈ digits, isBlank c = false := by
    intro c inside
    have code := code_of_isDigit (decimal c inside)
    exact not_blank_of_bare (isBare_of_code (by omega))
  have trimmed : trim digits = digits :=
    trim_of_edges (fun c first => visible c (List.mem_of_mem_head? first))
      fun c last => visible c (List.mem_of_mem_getLast? last)
  have unsigned : ∀ rest, digits ≠ '+' :: rest := by
    intro rest shape
    have plus := decimal '+' (shape ▸ List.mem_cons_self)
    contradiction
  unfold readBits
  dsimp only
  rw [trimmed]
  split
  · next rest => exact absurd rfl (unsigned rest)
  · have spelled : (digits.isEmpty || !digits.all Char.isDigit) = false := by
      simp [some, List.all_eq_true.2 decimal]
    rw [spelled, Bool.false_or]
    by_cases small : IpAddress.decimalValue digits < 0x100000000
    · rw [if_neg (by simpa using small), Except.ok.injEq, and_iff_right small]
    · rw [if_pos (by simpa using small)]
      simp [small]

theorem readBits_digits {digits : List Char} (some : digits ≠ [])
    (decimal : ∀ c ∈ digits, c.isDigit = true) (small : IpAddress.decimalValue digits < 0x100000000) :
    readBits digits = .ok (IpAddress.decimalValue digits) :=
  (readBits_eq_ok_iff some decimal).2 ⟨small, rfl⟩

theorem readBits_toDigits_eq_ok_iff {count bits : Nat} :
    readBits (Nat.toDigits 10 count) = .ok bits ↔ count < 0x100000000 ∧ count = bits := by
  rw [readBits_eq_ok_iff Nat.toDigits_ne_nil fun c inside =>
    Nat.isDigit_of_mem_toDigits (by decide) (by decide) inside, IpAddress.decimalValue_toDigits]

theorem readBits_toDigits {bits : Nat} (small : bits < 0x100000000) :
    readBits (Nat.toDigits 10 bits) = .ok bits :=
  readBits_toDigits_eq_ok_iff.2 ⟨small, rfl⟩

theorem hyphen_notMem_digits {digits : List Char} (decimal : ∀ c ∈ digits, c.isDigit = true) :
    '-' ∉ digits := by
  intro inside
  have digit := decimal '-' inside
  contradiction

theorem hyphen_notMem_toDigits (count : Nat) : '-' ∉ Nat.toDigits 10 count :=
  hyphen_notMem_digits fun _ inside => Nat.isDigit_of_mem_toDigits (by decide) (by decide) inside

theorem ofBlock_eq_error {address : IpAddress} {bits : Nat} (large : 0x100000000 ≤ bits) :
    ofBlock address bits = .error (.bitsOutOfRange bits address.family.width) := by
  have width : address.family.width ≤ 128 := by cases address.family <;> decide
  exact if_neg (by omega)

theorem read_network_iff {network : Network} {range : IpRange} :
    read network.write = .ok range ↔ ofBlock network.address network.bits = .ok range := by
  obtain ⟨address, bits⟩ := network
  obtain ⟨notHyphen, notSlash⟩ := mark_notMem_of_read? (IpAddress.read?_write address)
  have noHyphen : '-' ∉ address.write ++ '/' :: Nat.toDigits 10 bits := by
    simp [notHyphen, hyphen_notMem_toDigits]
  rw [Network.write, read, if_neg noHyphen, if_pos (by simp), readBlock, splitOnce_append _ notSlash]
  dsimp only
  rw [readAddress_of_read? (IpAddress.read?_write address)]
  by_cases small : bits < 0x100000000
  · rw [readBits_toDigits small]
    exact Iff.rfl
  · cases count : readBits (Nat.toDigits 10 bits) with
    | ok found => exact absurd (readBits_toDigits_eq_ok_iff.1 count).1 small
    | error error => simp [ofBlock_eq_error (Nat.le_of_not_lt small), bind, Except.bind]

/-- The text of a range reads back as the range unless it names a single network that is another range. -/
theorem read_writeBy_iff (subnets : Subnets) (range : IpRange) :
    read (range.writeBy subnets) = .ok range ↔ range.first = range.last ∨
      ∀ network, subnets.single? range = some network →
        ofBlock network.address network.bits = .ok range := by
  obtain ⟨notHyphen, notSlash⟩ := mark_notMem_of_read? (IpAddress.read?_write range.firstAddress)
  have first := readAddress_of_read? (IpAddress.read?_write range.firstAddress)
  rw [writeBy]
  split
  · next same =>
    refine iff_of_true ?_ (.inl same)
    rw [read, if_neg notHyphen, if_neg notSlash, readSingle, first]
    exact congrArg Except.ok (ofAddress_firstAddress same)
  · next different =>
    rw [or_iff_right different]
    split
    · next network single =>
      simp only [single, Option.some.injEq, forall_eq']
      exact read_network_iff
    · next none =>
      refine iff_of_true ?_ (by simp [none])
      rw [read, if_pos (by simp), readEnds, splitOnce_append _ notHyphen]
      dsimp only
      rw [first, readAddress_of_read? (IpAddress.read?_write range.lastAddress)]
      exact ofEnds_addresses range

theorem read_writeBy {subnets : Subnets} {range : IpRange} (cuts : subnets.Cuts range) :
    read (range.writeBy subnets) = .ok range := by
  refine (read_writeBy_iff subnets range).2 (.inr fun network single => ?_)
  obtain ⟨same, block⟩ := cuts.single?_eq_some_iff.1 single
  rw [same]
  exact block.ofBlock_firstAddress

/-- The text of a range reads back as the range. -/
theorem read_written (range : IpRange) : read range.write = .ok range :=
  read_writeBy (Subnets.largest_cuts range)

end IpRange

/-- The text of a domain pattern that was read reads back as the pattern. -/
theorem DomainPattern.read_written {text : List Char} {pattern : DomainPattern}
    (made : read text = .ok pattern) : read pattern.write = .ok pattern :=
  readWith_write made

namespace Atom

/-- A value that can be come by: expressions and patterns are what their readers make of a text. -/
def Made : Atom → Prop
  | string _ | ip _ => True
  | regexp value => ∃ source ignoreCase, Regexp.ofSource source ignoreCase = .ok value
  | domainName pattern => ∃ text, DomainPattern.read text = .ok pattern

/-- The structured form of an atom is decoded as the atom. -/
theorem ofJson?_toJson {atom : Atom} (made : atom.Made) : ofJson? atom.toJson = some atom := by
  cases atom with
  | string value => rfl
  | regexp value =>
    obtain ⟨source, ignoreCase, made⟩ := made
    rw [toJson, ofJson?, Regexp.ofSource_source made]
    rfl
  | ip range =>
    rw [toJson, ofJson?, IpRange.text, String.toList_ofList, IpRange.read_written]
    rfl
  | domainName pattern =>
    obtain ⟨text, made⟩ := made
    rw [toJson, ofJson?, DomainPattern.text, String.toList_ofList, DomainPattern.read_written made]
    rfl

theorem made_of_ofJson? {value : Json} {atom : Atom} (decoded : ofJson? value = some atom) : atom.Made := by
  unfold ofJson? at decoded
  split at decoded
  · obtain rfl := Option.some.inj decoded
    trivial
  · obtain ⟨regexp, read, rfl⟩ := Option.map_eq_some_iff.1 decoded
    exact ⟨_, _, RuleText.ok_of_toOption read⟩
  · obtain ⟨range, -, rfl⟩ := Option.map_eq_some_iff.1 decoded
    trivial
  · obtain ⟨pattern, read, rfl⟩ := Option.map_eq_some_iff.1 decoded
    exact ⟨_, RuleText.ok_of_toOption read⟩
  · contradiction

end Atom

end EventRouting
