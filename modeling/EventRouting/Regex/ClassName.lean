import EventRouting.Regex.CharSet
import EventRouting.Unicode.Script
import EventRouting.Unicode.ScriptExtension

set_option autoImplicit false

namespace EventRouting.Regex

open EventRouting.Unicode

/-- The form in which names are compared. -/
def looseName (name : List Char) : List Char :=
  let (marked, body) := match name with
    | i :: s :: rest =>
      if (i = 'i' || i = 'I') && (s = 's' || s = 'S') then (true, rest) else (false, name)
    | _ => (false, name)
  let kept := (body.filter fun c => c.toNat < 128 && c ≠ ' ' && c ≠ '_' && c ≠ '-').map Char.toLower
  if marked && kept = ['c'] then ['i', 's', 'c'] else kept

def sameName (name : List Char) (known : String) : Bool := name == looseName known.toList

def categorySet : Category → CharSet
  | .unassigned => .complement (.unions (categoryTables.map fun entry => .table entry.2))
  | kind =>
    match categoryTables.find? (·.1 = kind) with
    | some entry => .table entry.2
    | none => .nothing

/-- Further names of single categories and of groups of them. -/
def categoryAliases : List (String × String) :=
  [("cntrl", "Cc"), ("digit", "Nd"), ("punct", "P"), ("Combining_Mark", "M")]

def categoryNamed (name : List Char) : Option CharSet :=
  let name := match categoryAliases.find? (sameName name ·.1) with
    | some known => looseName known.2.toList
    | none => name
  if sameName name "any" then some .anything
  else if sameName name "ascii" then some (.range '\x00' '\x7f')
  else if sameName name "assigned" then some (.complement (categorySet .unassigned))
  else
    match categoryNames.find? fun known => sameName name known.2.1 || sameName name known.2.2 with
    | some known => some (categorySet known.1)
    | none =>
      (categoryGroups.find? fun known => sameName name known.1 || sameName name known.2.1).map
        fun known => .unions (known.2.2.map categorySet)

/-- The long name of a script. -/
def scriptName? (name : List Char) : Option String :=
  match scripts.find? fun known => sameName name known.1 || sameName name known.2.1 with
  | some known => some known.1
  | none => (scriptAliases.find? (sameName name ·.1)).map (·.2)

def scriptNamed (name : List Char) : Option CharSet := do
  let long ← scriptName? name
  let known ← scripts.find? (·.1 = long)
  some (.table known.2.2)

def scriptExtensionNamed (name : List Char) : Option CharSet := do
  let long ← scriptName? name
  let members ← scriptNamed name
  match scriptExtensions.find? (·.1 = long) with
  | some (_, gained, lost) => some (.difference (.union members (.table gained)) (.table lost))
  | none => some members

def propertyNamed (name : List Char) : Option CharSet :=
  (properties.find? fun known => sameName name known.name || sameName name known.shortName).map
    .property

/-- Short names that a category keeps although a property goes by them too. -/
def categoryFirst : List String := ["cf", "sc", "lc"]

/-- The set that a bare name stands for. -/
def setNamed (name : List Char) : Option CharSet :=
  let name := looseName name
  let ofProperty := if categoryFirst.any (sameName name) then none else propertyNamed name
  ofProperty <|> categoryNamed name <|> scriptNamed name

/-- The set of the characters for which a property has a value. -/
def setValued (property value : List Char) : Option CharSet :=
  let property := looseName property
  let value := looseName value
  if sameName property "gc" || sameName property "General_Category" then categoryNamed value
  else if sameName property "sc" || sameName property "Script" then scriptNamed value
  else if sameName property "scx" || sameName property "Script_Extensions" then
    scriptExtensionNamed value
  else none

/-- Letters, marks, digits, connectors and invisible joiners. -/
def wordSet : CharSet :=
  .unions [.property .alphabetic, .table nonspacingMarkTable, .table spacingMarkTable,
    .table enclosingMarkTable, .table decimalNumberTable, .table connectorPunctuationTable,
    .property .joinControl]

def digitSet : CharSet := .table decimalNumberTable

def spaceSet : CharSet := .property .whiteSpace

def asciiWordSet : CharSet :=
  .unions [.range 'a' 'z', .range 'A' 'Z', .range '0' '9', .single '_']

def asciiSpaceSet : CharSet := .union (.range '\t' '\r') (.single ' ')

/-- The classes that are written between colons. -/
def asciiClass (name : List Char) : Option CharSet :=
  match String.ofList name with
  | "alnum" => some (.unions [.range '0' '9', .range 'A' 'Z', .range 'a' 'z'])
  | "alpha" => some (.union (.range 'A' 'Z') (.range 'a' 'z'))
  | "ascii" => some (.range '\x00' '\x7f')
  | "blank" => some (.union (.single '\t') (.single ' '))
  | "cntrl" => some (.union (.range '\x00' '\x1f') (.single '\x7f'))
  | "digit" => some (.range '0' '9')
  | "graph" => some (.range '!' '~')
  | "lower" => some (.range 'a' 'z')
  | "print" => some (.range ' ' '~')
  | "punct" =>
    some (.unions [.range '!' '/', .range ':' '@', .range '[' '\x60', .range '\x7b' '~'])
  | "space" => some asciiSpaceSet
  | "upper" => some (.range 'A' 'Z')
  | "word" => some asciiWordSet
  | "xdigit" => some (.unions [.range '0' '9', .range 'A' 'F', .range 'a' 'f'])
  | _ => none

end EventRouting.Regex
