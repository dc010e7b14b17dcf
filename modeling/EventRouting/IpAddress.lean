import EventRouting.Text.Split

set_option autoImplicit false

namespace EventRouting

inductive IpFamily where
  | v4
  | v6
deriving DecidableEq, Hashable, Repr

/-- The number of bits in an address. -/
def IpFamily.width : IpFamily → Nat
  | .v4 => 32
  | .v6 => 128

/-- The number of addresses. -/
def IpFamily.size (family : IpFamily) : Nat := 1 <<< family.width

structure IpAddress where
  family : IpFamily
  number : Nat
  fits : number < family.size
deriving DecidableEq

namespace IpAddress

def isHexDigit (c : Char) : Bool :=
  c.isDigit || ('a' ≤ c && c ≤ 'f') || ('A' ≤ c && c ≤ 'F')

def hexDigitValue (c : Char) : Nat :=
  if c.isDigit then c.toNat - '0'.toNat
  else if 'a' ≤ c then c.toNat - 'a'.toNat + 10
  else c.toNat - 'A'.toNat + 10

def decimalValue (digits : List Char) : Nat :=
  digits.foldl (fun value c => value * 10 + (c.toNat - '0'.toNat)) 0

def hexValue (digits : List Char) : Nat :=
  digits.foldl (fun value c => value * 16 + hexDigitValue c) 0

/-- One of the four decimal numbers: at most three digits, none of them a leading zero. -/
def readOctet (text : List Char) : Option Nat :=
  if text.isEmpty || 3 < text.length || !text.all Char.isDigit then none
  else if text.head? = some '0' && 1 < text.length then none
  else if decimalValue text < 256 then some (decimalValue text)
  else none

def readDotted (text : List Char) : Option Nat :=
  match (Text.splitAt '.' text).mapM readOctet with
  | some [a, b, c, d] => some (((a * 256 + b) * 256 + c) * 256 + d)
  | _ => none

/-- One group of at most four hexadecimal digits. -/
def readGroup (text : List Char) : Option Nat :=
  if text.isEmpty || 4 < text.length || !text.all isHexDigit then none
  else some (hexValue text)

/-- Groups joined by colons; the last piece may be four decimal numbers and makes two groups. -/
def readGroups : List (List Char) → Option (List Nat)
  | [] => some []
  | [piece] =>
    match readGroup piece with
    | some group => some [group]
    | none => (readDotted piece).map fun number => [number / 65536, number % 65536]
  | piece :: rest => do
    let group ← readGroup piece
    let groups ← readGroups rest
    some (group :: groups)

/-- What stands before and after the first pair of colons. -/
def splitGap : List Char → Option (List Char × List Char)
  | ':' :: ':' :: rest => some ([], rest)
  | c :: rest => (splitGap rest).map fun halves => (c :: halves.1, halves.2)
  | [] => none

def groupsValue (groups : List Nat) : Nat :=
  groups.foldl (fun value group => value * 65536 + group) 0

def readSide (text : List Char) : Option (List Nat) :=
  if text.isEmpty then some [] else readGroups (Text.splitAt ':' text)

/-- The groups of an address: eight of them, or fewer around a gap. -/
def readColons (text : List Char) : Option (List Nat) :=
  match splitGap text with
  | some (before, after) => do
    let front ← if before.isEmpty then some [] else (Text.splitAt ':' before).mapM readGroup
    let back ← readSide after
    if front.length + back.length < 8 then
      some (front ++ List.replicate (8 - front.length - back.length) 0 ++ back)
    else none
  | none =>
    match readGroups (Text.splitAt ':' text) with
    | some groups => if groups.length = 8 then some groups else none
    | none => none

/-- The address of a number, if it is small enough for the family. -/
def ofNumber? (family : IpFamily) (number : Nat) : Option IpAddress :=
  if fits : number < family.size then some ⟨family, number, fits⟩ else none

def read? (text : List Char) : Option IpAddress :=
  match readDotted text with
  | some number => ofNumber? .v4 number
  | none => (readColons text).bind fun groups => ofNumber? .v6 (groupsValue groups)

/-- The lowest `count` digits of a number in a base, the highest one first. -/
def places (base number : Nat) : Nat → List Nat
  | 0 => []
  | count + 1 => places base (number / base) count ++ [number % base]

def writeDotted (number : Nat) : List Char :=
  Text.joinWith ['.'] ((places 256 number 4).map (Nat.toDigits 10))

def writeGroups (groups : List Nat) : List Char :=
  Text.joinWith [':'] (groups.map (Nat.toDigits 16))

def zeroPrefixLength : List Nat → Nat
  | 0 :: rest => zeroPrefixLength rest + 1
  | _ => 0

/-- Start and length of the first longest sequence of zeros. -/
def longestZeros : Nat → List Nat → Nat × Nat
  | _, [] => (0, 0)
  | start, groups@(_ :: rest) =>
    let here := zeroPrefixLength groups
    let later := longestZeros (start + 1) rest
    if later.2 ≤ here then (start, here) else later

/-- Two or more zero groups shrink to a gap; an embedded address of the other family is dotted. -/
def writeColons (number : Nat) : List Char :=
  let groups := places 65536 number 8
  if number / 0x100000000 = 0xffff then "::ffff:".toList ++ writeDotted (number % 0x100000000)
  else
    let (start, length) := longestZeros 0 groups
    if 1 < length then
      writeGroups (groups.take start) ++ ':' :: ':' :: writeGroups (groups.drop (start + length))
    else writeGroups groups

def write (address : IpAddress) : List Char :=
  match address.family with
  | .v4 => writeDotted address.number
  | .v6 => writeColons address.number

end IpAddress

end EventRouting
