set_option autoImplicit false

/- The ASCII characters come first. The others follow as one number each: how far to count on through
pairs of a code point and a place in the text until the next insertion. Numbers are written with the least
digit first in base 36, and a threshold for each digit says where a number ends. -/
namespace EventRouting.Idna.Punycode

def base : Nat := 36
def lowest : Nat := 1
def highest : Nat := 26
def firstBias : Nat := 72
def firstPoint : Nat := 128

def digitChar (digit : Nat) : Char :=
  if digit < 26 then Char.ofNat ('a'.toNat + digit) else Char.ofNat ('0'.toNat + (digit - 26))

def digitValue? (c : Char) : Option Nat :=
  if 'a' ≤ c && c ≤ 'z' then some (c.toNat - 'a'.toNat)
  else if '0' ≤ c && c ≤ '9' then some (c.toNat - '0'.toNat + 26)
  else none

/-- The digit at `weight`, a multiple of the base, is the last of its number below this value. -/
def threshold (weight bias : Nat) : Nat := min highest (max lowest (weight - bias))

theorem threshold_pos (weight bias : Nat) : 0 < threshold weight bias := by
  unfold threshold highest lowest; omega

def shrink (weight delta : Nat) : Nat :=
  if (base - lowest) * highest / 2 < delta then shrink (weight + base) (delta / (base - lowest))
  else weight + base * delta / (delta + 38)
termination_by delta
decreasing_by
  have positive : 0 < delta := by omega
  exact Nat.div_lt_self positive (by decide)

/-- The bias that suits the next number, after `delta` was written for a text of `count` characters. -/
def adapt (delta count : Nat) (isFirst : Bool) : Nat :=
  let damped := if isFirst then delta / 700 else delta / 2
  shrink 0 (damped + damped / count)

def encodeNumber (bias weight value : Nat) : List Char :=
  let limit := threshold weight bias
  if value < limit then [digitChar value]
  else
    digitChar (limit + (value - limit) % (base - limit)) ::
      encodeNumber bias (weight + base) ((value - limit) / (base - limit))
termination_by value
decreasing_by
  have positive := threshold_pos weight bias
  calc (value - threshold weight bias) / (base - threshold weight bias)
      ≤ value - threshold weight bias := Nat.div_le_self _ _
    _ < value := by omega

structure Encoder where
  written : List Char
  delta : Nat
  bias : Nat
  handled : Nat

/-- One pass over the text for one code point: smaller ones count on, equal ones are written. -/
def encodePoint (basicCount point : Nat) (text : List Char) (start : Encoder) : Encoder :=
  text.foldl (fun now c =>
    if c.toNat < point then { now with delta := now.delta + 1 }
    else if c.toNat = point then
      { written := now.written ++ encodeNumber now.bias base now.delta
        delta := 0
        bias := adapt now.delta (now.handled + 1) (now.handled == basicCount)
        handled := now.handled + 1 }
    else now) start

/-- Handles the code points of the text in ascending order. -/
def encodePoints (basicCount : Nat) (text : List Char) (floor : Nat) (start : Encoder) :
    List Nat → Encoder
  | [] => start
  | point :: others =>
    let counted := { start with delta := start.delta + (point - floor) * (start.handled + 1) }
    let passed := encodePoint basicCount point text counted
    encodePoints basicCount text (point + 1) { passed with delta := passed.delta + 1 } others

def encode (text : List Char) : List Char :=
  let basic := text.filter (·.toNat < firstPoint)
  let points := ((text.map Char.toNat).filter (firstPoint ≤ ·)).mergeSort.eraseDups
  let final := encodePoints basic.length text firstPoint ⟨[], 0, firstBias, basic.length⟩ points
  (if basic.isEmpty then [] else basic ++ ['-']) ++ final.written

/-- Reads one number, of which `value` is known so far and the next digit counts `factor`. -/
def decodeNumber (bias : Nat) : Nat → Nat → Nat → List Char → Option (Nat × List Char)
  | _, _, _, [] => none
  | weight, factor, value, c :: rest =>
    match digitValue? c with
    | none => none
    | some digit =>
      let limit := threshold weight bias
      let value := value + digit * factor
      if digit < limit then some (value, rest)
      else decodeNumber bias (weight + base) (factor * (base - limit)) value rest

/-- Reads insertions until the digits end; every number takes at least one digit of `budget`. -/
def decodeInsertions : Nat → Nat → Nat → Nat → List Char → List Char → Option (List Char)
  | 0, _, _, _, text, digits => if digits.isEmpty then some text else none
  | budget + 1, point, place, bias, text, digits =>
    if digits.isEmpty then some text
    else
      match decodeNumber bias base 1 0 digits with
      | none => none
      | some (delta, rest) =>
        let count := text.length + 1
        let total := place + delta
        let point := point + total / count
        let place := total % count
        if point.isValidChar then
          decodeInsertions budget point (place + 1)
            (adapt delta count (text.all (·.toNat < firstPoint)))
            (text.take place ++ Char.ofNat point :: text.drop place) rest
        else none

/-- Splits at the last hyphen; without one, or with one in front only, all is digits. -/
def splitBasic (text : List Char) : List Char × List Char :=
  let digits := (text.reverse.takeWhile (· ≠ '-')).reverse
  let before := text.take (text.length - digits.length)
  if before.length ≤ 1 then ([], text) else (before.dropLast, digits)

def decode (text : List Char) : Option (List Char) :=
  let (basic, digits) := splitBasic text
  decodeInsertions digits.length firstPoint 0 firstBias basic digits

end EventRouting.Idna.Punycode
