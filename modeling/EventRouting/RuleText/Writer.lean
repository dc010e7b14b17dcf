import EventRouting.Json.Writer
import EventRouting.Rule
import EventRouting.RuleText.Token

set_option autoImplicit false

namespace EventRouting.RuleText

def keywords : List (List Char) := ["and", "or", "no", "not", "in"].map String.toList

def isKeyword (text : List Char) : Bool := keywords.contains (text.map Char.toLower)

def writeString (text : List Char) : List Char :=
  if text.isEmpty || !text.all isBare || isKeyword text then Json.writeString text else text

/-- Alone, a string that looks like an address or a domain is quoted too. -/
def writeAlone (text : List Char) : List Char :=
  if (scanIp text).isSome || (scanDomain text).isSome then Json.writeString text
  else writeString text

/-- A source with a backslash before each slash that has none. -/
def escapeSlashes : List Char → List Char
  | '\\' :: c :: rest => '\\' :: c :: escapeSlashes rest
  | '/' :: rest => '\\' :: '/' :: escapeSlashes rest
  | c :: rest => c :: escapeSlashes rest
  | [] => []

def writeRegexp (regexp : Regexp) : List Char :=
  '/' :: escapeSlashes regexp.source.toList ++ (if regexp.ignoreCase then ['/', 'i'] else ['/'])

def writeAtom : Atom → List Char
  | .string value => writeString value.toList
  | .regexp value => writeRegexp value
  | .ip range => range.write
  | .domainName pattern => pattern.write

def writeFuzzy : Atom → List Char
  | .string value => writeAlone value.toList
  | atom => writeAtom atom

def writeKey : Option String → List Char
  | some key => writeString key.toList
  | none => ['*']

/-- The operator between a key and an atom. -/
def operator (sense : Sense) (atom : Option Atom) : List Char :=
  match atom, sense with
  | some (.ip _), .matching | some (.domainName _), .matching => " in ".toList
  | some (.ip _), .nonMatching | some (.domainName _), .nonMatching => " not in ".toList
  | _, .matching => "=".toList
  | _, .nonMatching => "!=".toList

def writeTest (sense : Sense) (key : Option String) (atom : Option Atom) : List Char :=
  writeKey key ++ operator sense atom ++ (match atom with
    | some atom => writeAtom atom
    | none => ['*'])

def junctionWord : Junction → List Char
  | .and => " and ".toList
  | .or => " or ".toList

/-- The text of a rule, with `rest` after it. -/
def writeBefore (rest : List Char) : Rule → List Char
  | .anything _ => '*' :: rest
  | .test _ sense key atom => writeTest sense key (atom.map SharedAtom.atom) ++ rest
  | .fuzzy _ atom => writeFuzzy atom.atom ++ rest
  | .no _ operand =>
    'n' :: 'o' :: ' ' ::
      if operand.precedence < 2 then '(' :: writeBefore (')' :: rest) operand
      else writeBefore rest operand
  | .junction id kind operands =>
    writeOperands kind (Rule.junction id kind operands).precedence rest operands
where
  writeOperands (kind : Junction) (precedence : Nat) (rest : List Char) : List Rule → List Char
    | [] => rest
    | operand :: others =>
      let after := match others with
        | [] => rest
        | _ => junctionWord kind ++ writeOperands kind precedence rest others
      if operand.precedence < precedence then '(' :: writeBefore (')' :: after) operand
      else writeBefore after operand

def write (rule : Rule) : String := String.ofList (writeBefore [] rule)

/-- The text of a rule as it stands in messages. -/
def describe (rule : Rule) : String := "Rule(" ++ Text.quoted (write rule) ++ ")"

end EventRouting.RuleText
