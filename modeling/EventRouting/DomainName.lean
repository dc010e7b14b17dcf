import EventRouting.Idna.ToAscii
import EventRouting.Text.Blank
import EventRouting.Text.Quoted
import EventRouting.Text.Split

set_option autoImplicit false

namespace EventRouting

inductive DomainNameError where
  | empty
  | tooFewLabels (pattern : String)
  | invalidLabel (label : String)
  | labelLength (label : String)
  | hyphen (label : String)
  | numericTop (name : String)
  | tooLong (name : String)
deriving DecidableEq, Repr

def DomainNameError.message : DomainNameError → String
  | .empty => "empty domain name pattern"
  | .tooFewLabels pattern =>
    "domain name pattern needs at least two labels: " ++ Text.quoted pattern
  | .invalidLabel label => "invalid domain name label " ++ Text.quoted label
  | .labelLength label => "domain name label length must be 1-63: " ++ Text.quoted label
  | .hyphen label =>
    "domain name label can not start or end with a hyphen: " ++ Text.quoted label
  | .numericTop name => "top-level label can not be all-numeric: " ++ Text.quoted name
  | .tooLong name => "domain name pattern longer than 253 characters: " ++ Text.quoted name

namespace DomainName

def maxLength : Nat := 253
def maxLabelLength : Nat := 63

def isLabelChar (c : Char) : Bool := c.isLower || c.isDigit || c == '_' || c == '-'

/-- The spelling of a label before its characters are checked. -/
def spelling? (label : List Char) : Option (List Char) :=
  if Idna.isAscii label then some (label.map Char.toLower) else Idna.toAscii label

/-- The length is checked before the characters, and the characters before the hyphens. -/
def normalLabel (label : List Char) : Except DomainNameError (List Char) :=
  match spelling? label with
  | none => .error (.invalidLabel (String.ofList label))
  | some spelled =>
    if spelled.isEmpty || maxLabelLength < spelled.length then
      .error (.labelLength (String.ofList label))
    else if !spelled.all isLabelChar then .error (.invalidLabel (String.ofList label))
    else if spelled.head? = some '-' || spelled.getLast? = some '-' then
      .error (.hyphen (String.ofList label))
    else .ok spelled

/-- The length of the labels with dots between them. -/
def dottedLength (labels : List (List Char)) : Nat :=
  labels.flatten.length + (labels.length - 1)

/-- The labels of a dotted name; the first bad label is the one reported. -/
def readLabels (name : List Char) : Except DomainNameError (List (List Char)) :=
  if name.isEmpty then .error .empty
  else do
    let labels ← (Text.splitAt '.' name).mapM normalLabel
    if maxLength < dottedLength labels then .error (.tooLong (String.ofList name))
    else if (labels.getLast?.getD []).all Char.isDigit then
      .error (.numericTop (String.ofList name))
    else .ok labels

def dropFinalDot (name : List Char) : List Char :=
  if name.getLast? = some '.' then name.dropLast else name

/-- The labels of a name, which may stand between blanks and end with a dot. -/
def read (text : List Char) : Except DomainNameError (List String) :=
  (readLabels (dropFinalDot (Text.trim text))).map (·.map String.ofList)

end DomainName

/-- Names that end with `labels` and have `free` labels in front of them. -/
structure DomainPattern where
  free : Nat
  labels : List String
deriving DecidableEq, Hashable, Repr

namespace DomainPattern

/-- The number of wildcard labels in front, and what follows them. -/
def dropWildcards : List Char → Nat × List Char
  | '*' :: '.' :: rest => ((dropWildcards rest).1 + 1, (dropWildcards rest).2)
  | rest => (0, rest)

def read (text : List Char) : Except DomainNameError DomainPattern :=
  let trimmed := Text.trim text
  if trimmed.isEmpty then .error .empty
  else do
    let (free, rest) := dropWildcards trimmed
    let labels ← DomainName.readLabels rest
    if free + labels.length < 2 then .error (.tooFewLabels (String.ofList trimmed))
    else .ok ⟨free, labels.map String.ofList⟩

/-- The name has no fewer labels than the pattern and ends with the fixed ones. -/
def contains (pattern : DomainPattern) (name : List String) : Bool :=
  pattern.free + pattern.labels.length ≤ name.length && pattern.labels.isSuffixOf name

/-- The name has as many labels as the pattern and ends with the fixed ones. -/
def isMatch (pattern : DomainPattern) (name : List String) : Bool :=
  name.length == pattern.free + pattern.labels.length && pattern.labels.isSuffixOf name

def write (pattern : DomainPattern) : List Char :=
  (List.replicate pattern.free ['*', '.']).flatten ++
    Text.joinWith ['.'] (pattern.labels.map String.toList)

def text (pattern : DomainPattern) : String := String.ofList pattern.write

end DomainPattern

end EventRouting
