import EventRouting.IpRange
import Mathlib.Algebra.Group.Nat.Defs

set_option autoImplicit false

namespace EventRouting

namespace IpRange

variable {range : IpRange} {bits : Nat}

/-- The addresses of the range are those that have the leading `bits` bits of its first address. -/
structure IsBlock (range : IpRange) (bits : Nat) : Prop where
  bits_le : bits ≤ range.family.width
  shared : ∀ number, range.first ≤ number ∧ number ≤ range.last ↔
    number >>> (range.family.width - bits) = range.first >>> (range.family.width - bits)

theorem blockSize_eq (family : IpFamily) (bits : Nat) :
    blockSize family bits = 2 ^ (family.width - bits) := by
  rw [blockSize, Nat.one_shiftLeft]

/-- A block begins at a multiple of its size and ends before the next one. -/
theorem isBlock_iff_ends : range.IsBlock bits ↔ bits ≤ range.family.width ∧
    range.first % blockSize range.family bits = 0 ∧
      range.last + 1 = range.first + blockSize range.family bits := by
  have ordered := range.ordered
  have positive := blockSize_pos range.family bits
  have split := Nat.div_add_mod range.first (blockSize range.family bits)
  rw [Nat.mul_comm] at split
  have leading (number : Nat) :
      number >>> (range.family.width - bits) = number / blockSize range.family bits := by
    rw [Nat.shiftRight_eq_div_pow, blockSize_eq]
  have shape : range.IsBlock bits ↔ bits ≤ range.family.width ∧ ∀ number,
      range.first ≤ number ∧ number ≤ range.last ↔
        range.first >>> (range.family.width - bits) * blockSize range.family bits ≤ number ∧
        number ≤ range.first >>> (range.family.width - bits) * blockSize range.family bits +
          blockSize range.family bits - 1 := by
    simp only [← Nat.div_eq_iff positive, ← leading]
    exact ⟨fun block => ⟨block.bits_le, block.shared⟩, fun block => ⟨block.1, block.2⟩⟩
  rw [shape, leading]
  generalize range.first / blockSize range.family bits * blockSize range.family bits = start at split ⊢
  refine and_congr_right fun _ => ⟨fun shared => ?_, fun ends number => by omega⟩
  -- Each of the two intervals has its ends in the other.
  have inFirst := (shared range.first).1 (by omega)
  have inLast := (shared range.last).1 (by omega)
  have first := (shared start).2 (by omega)
  have last := (shared (start + blockSize range.family bits - 1)).2 (by omega)
  omega

/-- A range that is a block is the block of its first address. -/
theorem IsBlock.ofBlock_firstAddress (block : range.IsBlock bits) :
    ofBlock range.firstAddress bits = .ok range := by
  obtain ⟨wide, aligned, last⟩ := isBlock_iff_ends.1 block
  have positive := blockSize_pos range.family bits
  have start : range.first / blockSize range.family bits * blockSize range.family bits = range.first :=
    Nat.div_mul_cancel (Nat.dvd_of_mod_eq_zero aligned)
  unfold ofBlock
  refine (if_pos wide).trans (congrArg Except.ok (ext_of_ends rfl start ?_))
  change range.first / blockSize range.family bits * blockSize range.family bits +
    (blockSize range.family bits - 1) = range.last
  rw [start]
  omega

/-- The range has room for a block between its first address and its end. -/
structure Fits (range : IpRange) (bits : Nat) : Prop where
  bits_le : bits ≤ range.family.width
  aligned : range.first % blockSize range.family bits = 0
  room : range.first + blockSize range.family bits ≤ range.last + 1

theorem isBlock_iff_fits : range.IsBlock bits ↔
    range.Fits bits ∧ range.behind? (blockSize range.family bits) = none := by
  rw [isBlock_iff_ends, behind?]
  constructor
  · rintro ⟨wide, aligned, ends⟩
    exact ⟨⟨wide, aligned, Nat.le_of_eq ends.symm⟩, dif_neg (by omega)⟩
  · rintro ⟨⟨wide, aligned, room⟩, none⟩
    refine ⟨wide, aligned, ?_⟩
    split at none
    · contradiction
    · omega

/-- Networks one after the other up to the end, each the largest that fits. -/
inductive Cut : Option IpRange → List Network → Prop where
  | done : Cut none []
  | network {range : IpRange} {bits : Nat} {networks : List Network} (fits : range.Fits bits)
    (largest : ∀ fewer < bits, ¬range.Fits fewer)
    (later : Cut (range.behind? (blockSize range.family bits)) networks) :
    Cut (some range) (⟨range.firstAddress, bits⟩ :: networks)

theorem Cut.eq_nil_iff {left : Option IpRange} {networks : List Network} (cut : Cut left networks) :
    networks = [] ↔ left = none := by
  cases cut <;> simp

/-- With fewer leading bits a block is larger. -/
theorem Fits.le_of_ends {more : Nat} (fits : range.Fits bits) (wider : more ≤ range.family.width)
    (ends : range.last + 1 = range.first + blockSize range.family more) : more ≤ bits := by
  have room := fits.room
  rw [ends, Nat.add_le_add_iff_left, blockSize_eq, blockSize_eq,
    Nat.pow_le_pow_iff_right (by decide)] at room
  have wide := fits.bits_le
  omega

/-- A range is cut into a single network exactly if it is a block, and this is the network. -/
theorem Cut.eq_single_iff {networks : List Network} {network : Network}
    (cut : Cut (some range) networks) :
    networks = [network] ↔ network.address = range.firstAddress ∧ range.IsBlock network.bits := by
  obtain ⟨address, bits⟩ := network
  cases cut with
  | @network _ found networks fits largest later =>
    rw [List.cons.injEq, later.eq_nil_iff, Network.mk.injEq]
    constructor
    · rintro ⟨⟨rfl, rfl⟩, none⟩
      exact ⟨rfl, isBlock_iff_fits.2 ⟨fits, none⟩⟩
    · rintro ⟨rfl, block⟩
      have most : found ≤ bits :=
        Nat.not_lt.1 fun fewer => largest bits fewer (isBlock_iff_fits.1 block).1
      have least : bits ≤ found := fits.le_of_ends block.bits_le (isBlock_iff_ends.1 block).2.2
      obtain rfl := Nat.le_antisymm most least
      exact ⟨⟨rfl, rfl⟩, (isBlock_iff_fits.1 block).2⟩

theorem le_trailingZeros_iff {places number power : Nat} :
    power ≤ trailingZeros places number ↔ power ≤ places ∧ number % 2 ^ power = 0 := by
  induction places generalizing number power with
  | zero =>
    rw [trailingZeros, Nat.le_zero]
    refine ⟨fun none => ⟨none, by rw [none, Nat.pow_zero, Nat.mod_one]⟩, And.left⟩
  | succ places ih =>
    cases power with
    | zero => simp [Nat.mod_one]
    | succ power =>
      rw [trailingZeros, Nat.pow_succ', Nat.mod_mul]
      split
      · next even => rw [Nat.add_le_add_iff_right, ih]; omega
      · next odd => omega

theorem firstNetwork_fits (range : IpRange) : range.Fits range.firstNetwork.bits ∧
    ∀ fewer < range.firstNetwork.bits, ¬range.Fits fewer := by
  have ordered := range.ordered
  have zeros := (@le_trailingZeros_iff range.family.width range.first _).1 (Nat.le_refl _)
  have size : blockSize range.family range.firstNetwork.bits =
      2 ^ min (Nat.log2 (range.last - range.first + 1)) (trailingZeros range.family.width range.first) := by
    rw [blockSize_eq, firstNetwork]
    congr 1
    dsimp only
    omega
  constructor
  · refine ⟨Nat.sub_le _ _, ?_, ?_⟩
    · rw [size]
      exact (le_trailingZeros_iff.1 (Nat.min_le_right _ _)).2
    · have room : 2 ^ Nat.log2 (range.last - range.first + 1) ≤ range.last - range.first + 1 :=
        Nat.log2_self_le (by omega)
      have power := Nat.pow_le_pow_right (show 0 < 2 by decide)
        (Nat.min_le_left (Nat.log2 (range.last - range.first + 1))
          (trailingZeros range.family.width range.first))
      omega
  · intro fewer less fits
    have aligned := fits.aligned
    have room := fits.room
    rw [blockSize_eq] at aligned room
    have inZeros : range.family.width - fewer ≤ trailingZeros range.family.width range.first :=
      le_trailingZeros_iff.2 ⟨Nat.sub_le _ _, aligned⟩
    have inSize : range.family.width - fewer ≤ Nat.log2 (range.last - range.first + 1) :=
      (Nat.le_log2 (by omega)).2 (by omega)
    have bits : range.firstNetwork.bits = range.family.width -
      min (Nat.log2 (range.last - range.first + 1)) (trailingZeros range.family.width range.first) := rfl
    have wide := fits.bits_le
    omega

end IpRange

namespace Subnets

variable {subnets : Subnets} {range : IpRange} {network : Network}

/-- What the iterator gives from this state on until it gives nothing. -/
inductive Yields (subnets : Subnets) : subnets.State → List Network → Prop where
  | done {state : subnets.State} (none : subnets.next state = none) : Yields subnets state []
  | next {state left : subnets.State} {network : Network} {networks : List Network}
    (first : subnets.next state = some (network, left)) (later : Yields subnets left networks) :
    Yields subnets state (network :: networks)

/-- The iterator cuts this range as it should: into the largest networks that fit, up to its end. -/
def Cuts (subnets : Subnets) (range : IpRange) : Prop :=
  ∃ networks, subnets.Yields (subnets.start range) networks ∧ IpRange.Cut (some range) networks

theorem Yields.single?_eq_some_iff {networks : List Network}
    (yields : subnets.Yields (subnets.start range) networks) :
    subnets.single? range = some network ↔ networks = [network] := by
  rw [single?]
  cases yields with
  | done none => simp [none]
  | next first later =>
    simp only [first]
    cases later with
    | done none => simp [none]
    | next second later => simp [second]

theorem Cuts.single?_eq_some_iff (cuts : subnets.Cuts range) :
    subnets.single? range = some network ↔
      network.address = range.firstAddress ∧ range.IsBlock network.bits := by
  obtain ⟨networks, yields, cut⟩ := cuts
  exact yields.single?_eq_some_iff.trans cut.eq_single_iff

/-- One address, a block of several, or neither. -/
theorem Cuts.writeBy_cases (cuts : subnets.Cuts range) :
    (range.first = range.last ∧ range.writeBy subnets = range.firstAddress.write) ∨
    (range.first < range.last ∧ ∃ bits, range.IsBlock bits ∧
      range.writeBy subnets = range.firstAddress.write ++ '/' :: Nat.toDigits 10 bits) ∨
    (range.first < range.last ∧ (∀ bits, ¬range.IsBlock bits) ∧
      range.writeBy subnets = range.firstAddress.write ++ '-' :: range.lastAddress.write) := by
  rw [IpRange.writeBy]
  split
  · next same => exact .inl ⟨same, rfl⟩
  · next different =>
    have lower := Nat.lt_of_le_of_ne range.ordered different
    split
    · next network single =>
      obtain ⟨address, bits⟩ := network
      obtain ⟨rfl, block⟩ := cuts.single?_eq_some_iff.1 single
      exact .inr (.inl ⟨lower, bits, block, rfl⟩)
    · next none =>
      refine .inr (.inr ⟨lower, fun bits block => ?_, rfl⟩)
      have single := (@Cuts.single?_eq_some_iff _ _ ⟨range.firstAddress, bits⟩ cuts).2 ⟨rfl, block⟩
      rw [none] at single
      contradiction

theorem largest_yields (left : Option IpRange) :
    ∃ networks, largest.Yields left networks ∧ IpRange.Cut left networks := by
  induction size : left.elim 0 (fun range => range.last + 1 - range.first) using Nat.strongRecOn
    generalizing left with
  | ind count ih =>
    cases left with
    | none => exact ⟨[], .done rfl, .done⟩
    | some range =>
      have shorter : (range.behind? (IpRange.blockSize range.family range.firstNetwork.bits)).elim 0
          (fun range => range.last + 1 - range.first) < count := by
        have ordered := range.ordered
        have positive := IpRange.blockSize_pos range.family range.firstNetwork.bits
        rw [← size, Option.elim_some, IpRange.behind?]
        split
        · simp only [Option.elim_some]
          omega
        · simp only [Option.elim_none]
          omega
      obtain ⟨networks, yields, cut⟩ := ih _ shorter _ rfl
      exact ⟨range.firstNetwork :: networks, .next rfl yields,
        .network range.firstNetwork_fits.1 range.firstNetwork_fits.2 cut⟩

theorem largest_cuts (range : IpRange) : largest.Cuts range := largest_yields (some range)

end Subnets

end EventRouting
