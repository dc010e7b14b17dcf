import EventRouting.IpAddress
import EventRouting.Text.Blank
import EventRouting.Text.Quoted

set_option autoImplicit false

namespace EventRouting

inductive IpRangeError where
  | invalidAddress (text : String)
  | invalidBitmask (text : String)
  | bitsOutOfRange (bits width : Nat)
  | mismatchedFamilies (first last : String)
  | unexpectedArgument (text : String)
deriving DecidableEq, Repr

def IpRangeError.message : IpRangeError → String
  | .invalidAddress text => "invalid IP address " ++ Text.quoted text
  | .invalidBitmask text => "invalid bitmask " ++ Text.quoted text
  | .bitsOutOfRange bits width =>
    "bitmask " ++ toString bits ++ " outside of range 0-" ++ toString width
  | .mismatchedFamilies first last =>
    "mismatching IP addresses (" ++ Text.quoted first ++ " and " ++ Text.quoted last ++ ")"
  | .unexpectedArgument text => "unexpected second argument for " ++ Text.quoted text

/-- A block of addresses: one of them, and how many leading bits it has in common with the others. -/
structure Network where
  address : IpAddress
  bits : Nat
deriving DecidableEq

def Network.write (network : Network) : List Char :=
  network.address.write ++ '/' :: Nat.toDigits 10 network.bits

structure IpRange where
  family : IpFamily
  first : Nat
  last : Nat
  ordered : first ≤ last
  fits : last < family.size

/-- A range is known by its family and its ends. -/
theorem IpRange.ext_of_ends {left right : IpRange} (family : left.family = right.family)
    (first : left.first = right.first) (last : left.last = right.last) : left = right := by
  cases left
  cases right
  simp only at family first last
  subst family first last
  rfl

instance : DecidableEq IpRange := fun left right =>
  if same : left.family = right.family ∧ left.first = right.first ∧ left.last = right.last then
    .isTrue (IpRange.ext_of_ends same.1 same.2.1 same.2.2)
  else .isFalse fun equal => same ⟨congrArg _ equal, congrArg _ equal, congrArg _ equal⟩

instance : Hashable IpRange where
  hash range := mixHash (hash range.family) (mixHash (hash range.first) (hash range.last))

namespace IpRange

def ofAddress (address : IpAddress) : IpRange :=
  ⟨address.family, address.number, address.number, Nat.le_refl _, address.fits⟩

/-- The size of a block that fixes the leading `bits` bits. -/
def blockSize (family : IpFamily) (bits : Nat) : Nat := 1 <<< (family.width - bits)

theorem blockSize_pos (family : IpFamily) (bits : Nat) : 0 < blockSize family bits := by
  rw [blockSize, Nat.one_shiftLeft]
  exact Nat.two_pow_pos _

/-- The last address of the block of `number` still fits the family. -/
theorem blockEnd_lt (family : IpFamily) (bits number : Nat) (fits : number < family.size) :
    number / blockSize family bits * blockSize family bits + (blockSize family bits - 1)
      < family.size := by
  have divides : blockSize family bits ∣ family.size := by
    rw [blockSize, IpFamily.size, Nat.one_shiftLeft, Nat.one_shiftLeft]
    exact Nat.pow_dvd_pow 2 (Nat.sub_le _ _)
  obtain ⟨count, whole⟩ := divides
  have positive := blockSize_pos family bits
  have below : number / blockSize family bits < count := by
    apply Nat.div_lt_of_lt_mul
    omega
  have bound : (number / blockSize family bits + 1) * blockSize family bits ≤
      count * blockSize family bits := Nat.mul_le_mul_right _ below
  rw [Nat.add_mul, Nat.one_mul] at bound
  rw [whole, Nat.mul_comm (blockSize family bits) count]
  omega

/-- The block of addresses that share the leading `bits` bits with `address`. -/
def ofBlock (address : IpAddress) (bits : Nat) : Except IpRangeError IpRange :=
  if bits ≤ address.family.width then
    let size := blockSize address.family bits
    let start := address.number / size * size
    .ok ⟨address.family, start, start + (size - 1), Nat.le_add_right _ _,
      blockEnd_lt address.family bits address.number address.fits⟩
  else .error (.bitsOutOfRange bits address.family.width)

/-- The addresses from one end to the other, whichever is the lower one. -/
def ofEnds (one other : IpAddress) : Except IpRangeError IpRange :=
  if same : one.family = other.family then
    .ok ⟨one.family, min one.number other.number, max one.number other.number, by omega, by
      have fitsOne := one.fits
      have fitsOther := other.fits
      rw [← same] at fitsOther
      omega⟩
  else .error (.mismatchedFamilies (String.ofList one.write) (String.ofList other.write))

def readAddress (text : List Char) : Except IpRangeError IpAddress :=
  match IpAddress.read? (Text.trim text) with
  | some address => .ok address
  | none => .error (.invalidAddress (String.ofList (Text.trim text)))

/-- A count of bits: decimal digits, maybe after a plus sign, in 32 bits. -/
def readBits (text : List Char) : Except IpRangeError Nat :=
  let trimmed := Text.trim text
  let digits := match trimmed with
    | '+' :: rest => rest
    | _ => trimmed
  if digits.isEmpty || !digits.all Char.isDigit || 0x100000000 ≤ IpAddress.decimalValue digits then
    .error (.invalidBitmask (String.ofList trimmed))
  else .ok (IpAddress.decimalValue digits)

def readSingle (text : List Char) : Except IpRangeError IpRange :=
  (readAddress text).map ofAddress

/-- An address and a count of bits around a slash. The count is read first. -/
def readBlock (text : List Char) : Except IpRangeError IpRange :=
  match Text.splitOnce '/' text with
  | none => .error (.invalidAddress (String.ofList (Text.trim text)))
  | some (address, bits) => do
    let bits ← readBits bits
    let address ← readAddress address
    ofBlock address bits

/-- Two addresses around a hyphen. -/
def readEnds (text : List Char) : Except IpRangeError IpRange :=
  match Text.splitOnce '-' text with
  | none => .error (.invalidAddress (String.ofList (Text.trim text)))
  | some (one, other) => do
    let one ← readAddress one
    let other ← readAddress other
    ofEnds one other

/-- Reads whichever of the three forms the text has. -/
def read (text : List Char) : Except IpRangeError IpRange :=
  if '-' ∈ text then readEnds text
  else if '/' ∈ text then readBlock text
  else readSingle text

theorem first_lt (range : IpRange) : range.first < range.family.size :=
  Nat.lt_of_le_of_lt range.ordered range.fits

def firstAddress (range : IpRange) : IpAddress := ⟨range.family, range.first, range.first_lt⟩

def lastAddress (range : IpRange) : IpAddress := ⟨range.family, range.last, range.fits⟩

/-- Every address of `inner` is one of `outer`. -/
def contains (outer inner : IpRange) : Bool :=
  outer.family == inner.family && outer.first ≤ inner.first && inner.last ≤ outer.last

/-- How many zeros a number of at most so many binary places ends with. -/
def trailingZeros : Nat → Nat → Nat
  | 0, _ => 0
  | places + 1, number => if number % 2 = 0 then trailingZeros places (number / 2) + 1 else 0

/-- The largest network that begins with the range and ends within it. -/
def firstNetwork (range : IpRange) : Network where
  address := range.firstAddress
  bits := range.family.width -
    min (Nat.log2 (range.last - range.first + 1)) (trailingZeros range.family.width range.first)

/-- What is left of the range behind its first addresses. -/
def behind? (range : IpRange) (count : Nat) : Option IpRange :=
  if left : range.first + count ≤ range.last then
    some ⟨range.family, range.first + count, range.last, left, range.fits⟩
  else none

end IpRange

/-- An iterator over the networks that a range is cut into. -/
structure Subnets where
  State : Type
  start : IpRange → State
  next : State → Option (Network × State)

namespace Subnets

/-- Always the largest network that fits, from the first address on. -/
def largest : Subnets where
  State := Option IpRange
  start := some
  next left := left.map fun range =>
    (range.firstNetwork, range.behind? (IpRange.blockSize range.family range.firstNetwork.bits))

/-- The first network, if no second one comes. -/
def single? (subnets : Subnets) (range : IpRange) : Option Network :=
  match subnets.next (subnets.start range) with
  | some (network, left) => if (subnets.next left).isNone then some network else none
  | none => none

end Subnets

namespace IpRange

/-- One address, the only network that the range is cut into, or two ends. -/
def writeBy (subnets : Subnets) (range : IpRange) : List Char :=
  if range.first = range.last then range.firstAddress.write
  else
    match subnets.single? range with
    | some network => network.write
    | none => range.firstAddress.write ++ '-' :: range.lastAddress.write

def write (range : IpRange) : List Char := range.writeBy .largest

def text (range : IpRange) : String := String.ofList range.write

end IpRange

end EventRouting
