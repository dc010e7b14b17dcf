import EventRouting.Atom
import EventRouting.Proofs.Network.Blocks

set_option autoImplicit false

namespace EventRouting.IpRange

variable {range outer inner : IpRange} {address one other : IpAddress} {bits : Nat}

instance : Membership IpAddress IpRange where
  mem range address := address.family = range.family ∧ range.first ≤ address.number ∧
    address.number ≤ range.last

theorem mem_iff :
    address ∈ range ↔ address.family = range.family ∧ range.first ≤ address.number ∧
      address.number ≤ range.last :=
  Iff.rfl

theorem firstAddress_mem (range : IpRange) : range.firstAddress ∈ range :=
  ⟨rfl, Nat.le_refl _, range.ordered⟩

theorem lastAddress_mem (range : IpRange) : range.lastAddress ∈ range :=
  ⟨rfl, range.ordered, Nat.le_refl _⟩

theorem last_le (range : IpRange) : range.last ≤ 2 ^ range.family.width - 1 := by
  have fits := range.fits
  rw [IpFamily.size, Nat.one_shiftLeft] at fits
  omega

/-- The addresses have the same bits in all places but the last ones. -/
def AgreesFrom (place : Nat) (one other : IpAddress) : Prop :=
  ∀ bit, place ≤ bit → one.number.testBit bit = other.number.testBit bit

theorem agreesFrom_iff (place : Nat) :
    AgreesFrom place one other ↔ one.number >>> place = other.number >>> place := by
  constructor
  · intro agrees
    apply Nat.eq_of_testBit_eq
    intro bit
    rw [Nat.testBit_shiftRight, Nat.testBit_shiftRight]
    exact agrees _ (Nat.le_add_right _ _)
  · intro same bit above
    have shifted := congrArg (Nat.testBit · (bit - place)) same
    rw [Nat.testBit_shiftRight, Nat.testBit_shiftRight, Nat.add_sub_cancel' above] at shifted
    exact shifted

/-- Where a block begins, the places behind the leading bits are empty. -/
theorem blockStart_eq (family : IpFamily) (bits number : Nat) :
    number / blockSize family bits * blockSize family bits =
      number >>> (family.width - bits) <<< (family.width - bits) := by
  rw [blockSize_eq, Nat.shiftLeft_eq, Nat.shiftRight_eq_div_pow]

/-- The ends of a block are what is left of the address under the mask of its leading bits, and that with
the other places filled. -/
theorem ofBlock_ends (valid : ofBlock address bits = .ok range) :
    bits ≤ address.family.width ∧ range.family = address.family ∧
      range.first = address.number >>> (address.family.width - bits) <<< (address.family.width - bits) ∧
      range.last + 1 = range.first + blockSize address.family bits := by
  unfold ofBlock at valid
  split at valid
  · next wide =>
    obtain rfl := Except.ok.inj valid
    have positive := blockSize_pos address.family bits
    refine ⟨wide, rfl, blockStart_eq _ _ _, ?_⟩
    dsimp only
    omega
  · contradiction

theorem isBlock_of_ofBlock (valid : ofBlock address bits = .ok range) : range.IsBlock bits := by
  obtain ⟨wide, family, first, last⟩ := ofBlock_ends valid
  rw [isBlock_iff_ends, family]
  refine ⟨wide, ?_, last⟩
  rw [first, blockSize_eq, Nat.shiftLeft_eq, Nat.mul_mod_left]

theorem mem_ofBlock_iff (valid : ofBlock address bits = .ok range) :
    other ∈ range ↔ other.family = address.family ∧
      AgreesFrom (address.family.width - bits) other address := by
  obtain ⟨-, family, first, -⟩ := ofBlock_ends valid
  have shared := (isBlock_of_ofBlock valid).shared other.number
  rw [family, first, Nat.shiftLeft_shiftRight, ← first] at shared
  rw [mem_iff, agreesFrom_iff, family, shared]

/-- Ones in the leading places. -/
def leadingMask (family : IpFamily) (bits : Nat) : Nat := (2 ^ bits - 1) <<< (family.width - bits)

/-- Ones in all other places. -/
def trailingMask (family : IpFamily) (bits : Nat) : Nat := 2 ^ (family.width - bits) - 1

/-- The first address of a block is what the mask of the leading bits leaves of the address, and the last
one has ones in all other places. -/
theorem ofBlock_masks (valid : ofBlock address bits = .ok range) :
    range.first = address.number &&& leadingMask address.family bits ∧
      range.last = address.number ||| trailingMask address.family bits := by
  obtain ⟨wide, -, first, last⟩ := ofBlock_ends valid
  generalize places : address.family.width - bits = trailing at first
  have leading : address.number >>> trailing < 2 ^ bits := by
    have fits := address.fits
    rw [IpFamily.size, Nat.one_shiftLeft, ← Nat.sub_add_cancel wide, places, Nat.pow_add] at fits
    rw [Nat.shiftRight_eq_div_pow]
    exact Nat.div_lt_of_lt_mul fits
  constructor
  · have kept : address.number >>> trailing &&& (2 ^ bits - 1) = address.number >>> trailing := by
      rw [Nat.and_two_pow_sub_one_eq_mod, Nat.mod_eq_of_lt leading]
    rw [first, ← kept, leadingMask, places]
    apply Nat.eq_of_testBit_eq
    intro bit
    by_cases inside : trailing ≤ bit
    · simp [inside, Bool.and_comm]
    · simp [inside]
  · have lastEq : range.last = range.first + (2 ^ trailing - 1) := by
      have positive := Nat.two_pow_pos trailing
      rw [blockSize_eq, places] at last
      omega
    have small : 2 ^ trailing - 1 < 2 ^ trailing := by
      have positive := Nat.two_pow_pos trailing
      omega
    rw [lastEq, first, Nat.shiftLeft_add_eq_or_of_lt small, trailingMask, places]
    apply Nat.eq_of_testBit_eq
    intro bit
    by_cases behind : bit < trailing
    · simp [behind]
    · simp [behind, Nat.not_lt.1 behind]

theorem mem_ofEnds_iff (valid : ofEnds one other = .ok range) :
    address ∈ range ↔ address.family = one.family ∧
      (one.number ≤ address.number ∧ address.number ≤ other.number ∨
        other.number ≤ address.number ∧ address.number ≤ one.number) := by
  unfold ofEnds at valid
  split at valid
  · obtain rfl := Except.ok.inj valid
    rw [mem_iff]
    dsimp only
    refine and_congr_right fun _ => ?_
    omega
  · contradiction

/-- Which of the two ends is given first makes no difference. -/
theorem ofEnds_swap (valid : ofEnds one other = .ok range) : ofEnds other one = .ok range := by
  unfold ofEnds at valid
  split at valid
  · next same =>
    obtain rfl := Except.ok.inj valid
    rw [ofEnds, dif_pos same.symm]
    exact congrArg Except.ok (ext_of_ends same.symm (Nat.min_comm _ _) (Nat.max_comm _ _))
  · contradiction

/-- A range contains another of its family that has no address besides its own. -/
theorem contains_iff : outer.contains inner = true ↔
    outer.family = inner.family ∧ ∀ address ∈ inner, address ∈ outer := by
  have ends : outer.contains inner = true ↔
      outer.family = inner.family ∧ outer.first ≤ inner.first ∧ inner.last ≤ outer.last := by
    rw [contains]
    simp [and_assoc]
  rw [ends]
  refine and_congr_right fun family => ⟨?_, ?_⟩
  · rintro ⟨first, last⟩ address ⟨same, above, below⟩
    exact ⟨same.trans family.symm, Nat.le_trans first above, Nat.le_trans below last⟩
  · intro every
    exact ⟨(every _ inner.firstAddress_mem).2.1, (every _ inner.lastAddress_mem).2.2⟩

/-- No range is empty, so the family need not be asked for. -/
theorem contains_iff_subset : outer.contains inner = true ↔ ∀ address ∈ inner, address ∈ outer := by
  rw [contains_iff, and_iff_right_iff_imp]
  intro every
  exact (every _ inner.firstAddress_mem).1.symm

theorem isMatch_ip_iff {value : String} : (Atom.ip range).isMatch value = true ↔
    ∃ other, read value.toList = .ok other ∧ ∀ address ∈ other, address ∈ range := by
  rw [Atom.isMatch, Atom.rangeTakes]
  cases read value.toList with
  | error => simp
  | ok other => simp [contains_iff_subset]

/-- A block is refused exactly if it asks for more leading bits than there are; else it has the addresses
of the family that agree on them, and its ends are those that masks give. Two ends are refused exactly if
they are of different families; else their range, the same in either order, has the addresses between
them. The ends of any range are in order and fit its family. A range contains another exactly if they are
of one family and each address of the other is its own, and its atom matches the texts that are read as
such a range. -/
theorem ranges_are_address_sets :
    (∀ (address : IpAddress) (bits : Nat),
      (address.family.width < bits ∧
        ofBlock address bits = .error (.bitsOutOfRange bits address.family.width)) ∨
      (bits ≤ address.family.width ∧ ∃ range, ofBlock address bits = .ok range ∧
        range.first = address.number &&& leadingMask address.family bits ∧
        range.last = address.number ||| trailingMask address.family bits ∧
        ∀ other, other ∈ range ↔
          other.family = address.family ∧ AgreesFrom (address.family.width - bits) other address)) ∧
    (∀ one other : IpAddress,
      (one.family ≠ other.family ∧
        ofEnds one other = .error (.mismatchedFamilies (String.ofList one.write)
          (String.ofList other.write))) ∨
      (one.family = other.family ∧ ∃ range, ofEnds one other = .ok range ∧
        ofEnds other one = .ok range ∧
        ∀ address, address ∈ range ↔ address.family = one.family ∧
          (one.number ≤ address.number ∧ address.number ≤ other.number ∨
            other.number ≤ address.number ∧ address.number ≤ one.number))) ∧
    (∀ range : IpRange, range.first ≤ range.last ∧ range.last ≤ 2 ^ range.family.width - 1) ∧
    (∀ outer inner : IpRange, outer.contains inner = true ↔
      outer.family = inner.family ∧ ∀ address ∈ inner, address ∈ outer) ∧
    ∀ (range : IpRange) (value : String), (Atom.ip range).isMatch value = true ↔
      ∃ other, read value.toList = .ok other ∧ ∀ address ∈ other, address ∈ range := by
  refine ⟨?_, ?_, fun range => ⟨range.ordered, range.last_le⟩, fun _ _ => contains_iff,
    fun _ _ => isMatch_ip_iff⟩
  · intro address bits
    by_cases wide : bits ≤ address.family.width
    · have valid : ∃ range, ofBlock address bits = .ok range := by
        rw [ofBlock, if_pos wide]
        exact ⟨_, rfl⟩
      obtain ⟨range, valid⟩ := valid
      obtain ⟨first, last⟩ := ofBlock_masks valid
      exact Or.inr ⟨wide, range, valid, first, last, fun _ => mem_ofBlock_iff valid⟩
    · refine Or.inl ⟨Nat.lt_of_not_le wide, ?_⟩
      rw [ofBlock, if_neg wide]
  · intro one other
    by_cases same : one.family = other.family
    · have valid : ∃ range, ofEnds one other = .ok range := by
        rw [ofEnds, dif_pos same]
        exact ⟨_, rfl⟩
      obtain ⟨range, valid⟩ := valid
      exact Or.inr ⟨same, range, valid, ofEnds_swap valid, fun _ => mem_ofEnds_iff valid⟩
    · refine Or.inl ⟨same, ?_⟩
      rw [ofEnds, dif_neg same]

end EventRouting.IpRange
