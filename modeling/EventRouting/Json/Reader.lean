import EventRouting.Json.Value

set_option autoImplicit false

namespace EventRouting.Json

def isSpace (c : Char) : Bool := c == ' ' || c == '\n' || c == '\t' || c == '\r'

def skipSpace (text : List Char) : List Char := text.dropWhile isSpace

def hexValue? (c : Char) : Option Nat :=
  if '0' ≤ c && c ≤ '9' then some (c.toNat - '0'.toNat)
  else if 'a' ≤ c && c ≤ 'f' then some (c.toNat - 'a'.toNat + 10)
  else if 'A' ≤ c && c ≤ 'F' then some (c.toNat - 'A'.toNat + 10)
  else none

/-- The number that four hexadecimal digits write. -/
def unit? (a b c d : Char) : Option Nat := do
  let a ← hexValue? a
  let b ← hexValue? b
  let c ← hexValue? c
  let d ← hexValue? d
  some (((a * 16 + b) * 16 + c) * 16 + d)

def escape? : Char → Option Char
  | '"' => some '"'
  | '\\' => some '\\'
  | '/' => some '/'
  | 'b' => some '\x08'
  | 'f' => some '\x0c'
  | 'n' => some '\n'
  | 'r' => some '\r'
  | 't' => some '\t'
  | _ => none

def isHighSurrogate (unit : Nat) : Bool := 0xd800 ≤ unit && unit < 0xdc00
def isLowSurrogate (unit : Nat) : Bool := 0xdc00 ≤ unit && unit < 0xe000

/-- Reads up to the closing quote. `done` holds what was read so far, last character first. -/
def readString (done : List Char) : List Char → Option (List Char × List Char)
  | [] => none
  | '"' :: rest => some (done.reverse, rest)
  | '\\' :: 'u' :: a :: b :: c :: d :: rest =>
    match unit? a b c d with
    | none => none
    | some unit =>
      if isHighSurrogate unit then
        match rest with
        | '\\' :: 'u' :: e :: f :: g :: h :: rest =>
          match unit? e f g h with
          | none => none
          | some low =>
            if isLowSurrogate low then
              readString
                (Char.ofNat (0x10000 + (unit - 0xd800) * 0x400 + (low - 0xdc00)) :: done) rest
            else none
        | _ => none
      else if isLowSurrogate unit then none
      else readString (Char.ofNat unit :: done) rest
  | '\\' :: c :: rest =>
    match escape? c with
    | some meant => readString (meant :: done) rest
    | none => none
  | c :: rest => if c.toNat < 0x20 || c == '\\' then none else readString (c :: done) rest

def digitsValue (digits : List Char) : Nat :=
  digits.foldl (fun value c => value * 10 + (c.toNat - '0'.toNat)) 0

/-- The parts of a number: its digits before and after the point, and its exponent. -/
structure Numeral where
  whole : List Char
  fraction : List Char
  exponent : Int

/-- The least magnitude that rounds beyond double precision. -/
def overflowBound : Nat := 1 <<< 1024 - 1 <<< 970

/-- Whether the number rounds to a finite double. -/
def Numeral.isFinite (numeral : Numeral) : Bool :=
  let mantissa := digitsValue (numeral.whole ++ numeral.fraction)
  let scale := numeral.exponent - numeral.fraction.length
  let digits := ((Nat.toDigits 10 mantissa).length : Int)
  if mantissa = 0 then true
  else if digits + scale > 310 then false
  else if digits + scale < 300 then true
  else if 0 ≤ scale then mantissa * Nat.pow 10 scale.toNat < overflowBound
  else mantissa < overflowBound * Nat.pow 10 (-scale).toNat

def spanDigits (text : List Char) : List Char × List Char := text.span Char.isDigit

/-- The integer part: a lone zero, or digits that open with another one. -/
def readWhole (text : List Char) : Option (List Char × List Char) :=
  match spanDigits text with
  | ([], _) => none
  | ('0' :: _ :: _, _) => none
  | found => some found

def readFraction (text : List Char) : Option (List Char × List Char) :=
  match text with
  | '.' :: rest =>
    match spanDigits rest with
    | ([], _) => none
    | found => some found
  | rest => some ([], rest)

def readExponent (text : List Char) : Option (Int × List Char) :=
  match text with
  | c :: rest =>
    if c = 'e' || c = 'E' then
      let (sign, digits) :=
        match rest with
        | '-' :: digits => ((-1 : Int), digits)
        | '+' :: digits => (1, digits)
        | digits => (1, digits)
      match spanDigits digits with
      | ([], _) => none
      | (found, after) => some (sign * digitsValue found, after)
    else some (0, text)
  | [] => some (0, [])

/-- Reads a number and gives back its literal text. -/
def readNumber (text : List Char) : Option (String × List Char) := do
  let unsigned := match text with
    | '-' :: rest => rest
    | _ => text
  let (whole, afterWhole) ← readWhole unsigned
  let (fraction, afterFraction) ← readFraction afterWhole
  let (exponent, rest) ← readExponent afterFraction
  if Numeral.isFinite ⟨whole, fraction, exponent⟩ then
    some (String.ofList (text.take (text.length - rest.length)), rest)
  else none

/-- Takes `word` off the front of `text`. -/
def dropWord : List Char → List Char → Option (List Char)
  | [], rest => some rest
  | _ :: _, [] => none
  | w :: word, c :: rest => if w = c then dropWord word rest else none

mutual

/-- Reads one document; every step takes at least one character, so `fuel` may be the length. -/
def readValue : Nat → List Char → Option (Json × List Char)
  | 0, _ => none
  | fuel + 1, text =>
    match skipSpace text with
    | [] => none
    | '"' :: rest => (readString [] rest).map fun (value, rest) => (.string (String.ofList value), rest)
    | '[' :: rest =>
      match skipSpace rest with
      | ']' :: rest => some (.array [], rest)
      | rest => (readItems fuel rest).map fun (items, rest) => (.array items, rest)
    | '\x7b' :: rest =>
      match skipSpace rest with
      | '\x7d' :: rest => some (.object [], rest)
      | rest => (readFields fuel rest).map fun (fields, rest) => (.object fields, rest)
    | c :: rest =>
      if c = 'n' then (dropWord "ull".toList rest).map fun rest => (.null, rest)
      else if c = 't' then (dropWord "rue".toList rest).map fun rest => (.bool true, rest)
      else if c = 'f' then (dropWord "alse".toList rest).map fun rest => (.bool false, rest)
      else (readNumber (c :: rest)).map fun (literal, rest) => (.number literal, rest)

/-- Reads the items of an array that has at least one. -/
def readItems : Nat → List Char → Option (List Json × List Char)
  | 0, _ => none
  | fuel + 1, text =>
    match readValue fuel text with
    | none => none
    | some (item, rest) =>
      match skipSpace rest with
      | ',' :: rest => (readItems fuel rest).map fun (items, rest) => (item :: items, rest)
      | ']' :: rest => some ([item], rest)
      | _ => none

/-- Reads the fields of an object that has at least one. -/
def readFields : Nat → List Char → Option (List (String × Json) × List Char)
  | 0, _ => none
  | fuel + 1, text =>
    match skipSpace text with
    | '"' :: rest =>
      match readString [] rest with
      | none => none
      | some (name, rest) =>
        match skipSpace rest with
        | ':' :: rest =>
          match readValue fuel rest with
          | none => none
          | some (value, rest) =>
            let field := (String.ofList name, value)
            match skipSpace rest with
            | ',' :: rest => (readFields fuel rest).map fun (fields, rest) => (field :: fields, rest)
            | '\x7d' :: rest => some ([field], rest)
            | _ => none
        | _ => none
    | _ => none

end

/-- The document that a text holds. -/
def read? (text : List Char) : Option Json :=
  match readValue (text.length + 1) text with
  | some (value, rest) => if (skipSpace rest).isEmpty then some value else none
  | none => none

end EventRouting.Json
