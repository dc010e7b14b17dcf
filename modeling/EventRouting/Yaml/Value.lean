import EventRouting.Document
import EventRouting.Json.Reader
import EventRouting.Yaml.Node

set_option autoImplicit false

namespace EventRouting.Yaml

def dropSign (text : List Char) : List Char :=
  match text with
  | '+' :: rest | '-' :: rest => rest
  | _ => text

/-- Digits with a zero too many in front. -/
def hasLeadingZero (text : List Char) : Bool :=
  match dropSign text with
  | '0' :: rest => !rest.isEmpty && rest.all Char.isDigit
  | _ => false

/-- The number that `digits` spell in a base up to sixteen. -/
def digitsIn? (base : Nat) (digits : List Char) : Option Nat :=
  if digits.isEmpty then none
  else digits.foldlM (fun value c => do
    let digit ← hexValue? c
    if digit < base then some (base * value + digit) else none) 0

/-- The magnitude of a whole number without its sign. -/
def magnitude? (text : List Char) : Option Nat :=
  match text with
  | '0' :: 'x' :: digits => digitsIn? 16 digits
  | '0' :: 'o' :: digits => digitsIn? 8 digits
  | '0' :: 'b' :: digits => digitsIn? 2 digits
  | digits => if hasLeadingZero digits then none else digitsIn? 10 digits

def whole? (text : List Char) : Option Int :=
  match text with
  | '-' :: rest => (magnitude? rest).map fun value => -value
  | '+' :: rest => (magnitude? rest).map fun value => value
  | _ => (magnitude? text).map fun value => value

/-- A whole number is represented in 64 bits; up to 128 bits it is refused. -/
inductive WholeSize where
  | fits
  | refused
  | tooLarge
deriving DecidableEq

def wholeSize (value : Int) : WholeSize :=
  if -(1 <<< 63) ≤ value && value < 1 <<< 64 then .fits
  else if -(1 <<< 127) ≤ value && value < 1 <<< 128 then .refused
  else .tooLarge

/-- Digits, maybe with a point among or around them, and maybe an exponent. -/
def isFraction (text : List Char) : Bool :=
  let unsigned := dropSign text
  let whole := unsigned.takeWhile Char.isDigit
  let (fraction, rest) := match unsigned.drop whole.length with
    | '.' :: rest => (rest.takeWhile Char.isDigit, rest.dropWhile Char.isDigit)
    | rest => ([], rest)
  match Json.readExponent rest with
  | some (exponent, []) =>
    !(whole ++ fraction).isEmpty && Json.Numeral.isFinite ⟨whole, fraction, exponent⟩
  | _ => false

def isSpecialNumber (text : String) : Bool :=
  ([".inf", ".Inf", ".INF", "+.inf", "+.Inf", "+.INF", "-.inf", "-.Inf", "-.INF", ".nan", ".NaN",
    ".NAN"]).contains text

def isNumber (text : List Char) : Bool :=
  !hasLeadingZero text && (isSpecialNumber (String.ofList text) || isFraction text)

/-- The value of a plain scalar, or nothing for a whole number that is refused. -/
def plainValue (text : String) : Option Json :=
  if ["", "~", "null", "Null", "NULL"].contains text then some .null
  else if ["true", "True", "TRUE"].contains text then some (.bool true)
  else if ["false", "False", "FALSE"].contains text then some (.bool false)
  else
    match (whole? text.toList).map wholeSize with
    | some .fits => some (.number text)
    | some .refused => none
    | _ => if isNumber text.toList then some (.number text) else some (.string text)

/-- The value of a scalar. Of the tags, those for other kinds of values demand such a value, private ones
are refused, and all others make a string. -/
def scalarValue (text : String) (plain : Bool) (tag : Option String) : Option Json :=
  match tag with
  | none => if plain then plainValue text else some (.string text)
  | some "tag:yaml.org,2002:null" =>
    (plainValue text).filter fun
      | .null => !text.isEmpty
      | _ => false
  | some "tag:yaml.org,2002:bool" =>
    (plainValue text).filter fun
      | .bool _ => true
      | _ => false
  | some "tag:yaml.org,2002:int" | some "tag:yaml.org,2002:float" =>
    (plainValue text).filter fun
      | .number _ => true
      | _ => false
  | some tag => if tag.startsWith "!" then none else some (.string text)

def Node.toDocument : Node → Document
  | scalar text plain tag => .scalar (some text) (scalarValue text plain tag)
  | sequence items => .list (itemsToDocuments items)
  | mapping fields => .record (fieldsToDocuments fields)
where
  itemsToDocuments : List Node → List Document
    | [] => []
    | item :: rest => item.toDocument :: itemsToDocuments rest
  fieldsToDocuments : List (Node × Node) → List (Document × Document)
    | [] => []
    | (name, value) :: rest => (name.toDocument, value.toDocument) :: fieldsToDocuments rest

/-- Levels of sequences and mappings. -/
def Node.depth : Node → Nat
  | scalar _ _ _ => 0
  | sequence items => itemsDepth items + 1
  | mapping fields => fieldsDepth fields + 1
where
  itemsDepth : List Node → Nat
    | [] => 0
    | item :: rest => max item.depth (itemsDepth rest)
  fieldsDepth : List (Node × Node) → Nat
    | [] => 0
    | (name, value) :: rest => max (max name.depth value.depth) (fieldsDepth rest)

def depthLimit : Nat := 128

/-- Reads a YAML text; a text without a document is an empty field. -/
def document? (text : List Char) : Option Document := do
  match ← tree? text with
  | none => some Node.blank.toDocument
  | some root => if root.depth ≤ depthLimit then some root.toDocument else none

end EventRouting.Yaml
