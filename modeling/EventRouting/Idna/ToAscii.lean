import EventRouting.Idna.MappingTable
import EventRouting.Idna.Punycode
import EventRouting.Text.Split
import EventRouting.Unicode.BidiClass
import EventRouting.Unicode.Category
import EventRouting.Unicode.Composition
import EventRouting.Unicode.JoiningType
import EventRouting.Unicode.LetterCase

set_option autoImplicit false

namespace EventRouting.Idna

open EventRouting.Unicode

/-- What a character turns into; `none` for one that no name may hold. -/
def mapChar (c : Char) : Option (List Char) :=
  if c.toNat < 128 then some [c.toLower]
  else if ignoredTable.contains c then some []
  else if disallowedTable.contains c || privateUseTable.contains c then none
  else
    match mappingTable.find? c with
    | some target => some target
    | none => if category c = .unassigned then none else some (lowercase c)

/-- The composed text of the mapped characters. -/
def mapText (text : List Char) : Option (List Char) :=
  (text.mapM mapChar).map fun parts => compose parts.flatten

def isAscii (text : List Char) : Bool := text.all (·.toNat < 128)

def acePrefix : List Char := ['x', 'n', '-', '-']

/-- The label that `label` spells: itself, or what stands behind the prefix. -/
def decodedLabel? (label : List Char) : Option (List Char) :=
  if acePrefix.isPrefixOf label then
    match Punycode.decode (label.drop 4) with
    | some text => if isAscii text || mapText text ≠ some text then none else some text
    | none => none
  else some label

def isVirama (c : Char) : Bool := combiningClass c = 9

def nextJoining (text : List Char) : JoiningType :=
  match text.dropWhile (joiningType · = .transparent) with
  | c :: _ => joiningType c
  | [] => .none

/-- Whether the joiner `c` may stand between `before`, last character first, and `after`. -/
def joinerAllowed (c : Char) (before after : List Char) : Bool :=
  let afterVirama := (before.head?.map isVirama).getD false
  if c = '\u200d' then afterVirama
  else if c = '\u200c' then
    afterVirama ||
      ((nextJoining before = .left || nextJoining before = .dual) &&
        (nextJoining after = .right || nextJoining after = .dual))
  else true

def joinersAllowed : List Char → List Char → Bool
  | _, [] => true
  | before, c :: rest => joinerAllowed c before rest && joinersAllowed (c :: before) rest

def labelAllowed (label : List Char) : Bool :=
  !(label.head?.map isMark).getD false && joinersAllowed [] label

def rightward : BidiClass → Bool
  | .rightToLeft | .arabicLetter | .arabicNumber => true
  | _ => false

/-- Classes that may stand in a label of either direction. -/
def neutral : BidiClass → Bool
  | .europeanNumber | .europeanSeparator | .commonSeparator | .europeanTerminator
  | .otherNeutral | .boundaryNeutral | .nonspacing => true
  | _ => false

/-- A label keeps to the direction of its first character. -/
def directionAllowed (label : List Char) : Bool :=
  let classes := label.map bidiClass
  let last := (classes.reverse.dropWhile (· = .nonspacing)).head?
  match classes.head? with
  | none => true
  | some .leftToRight =>
    classes.all (fun kind => neutral kind || kind = .leftToRight) &&
      (last.map fun kind => kind = .leftToRight || kind = .europeanNumber).getD true
  | some first =>
    (first = .rightToLeft || first = .arabicLetter) &&
      classes.all (fun kind => neutral kind || rightward kind) &&
      (last.map fun kind => rightward kind || kind = .europeanNumber).getD true &&
      !(classes.contains .europeanNumber && classes.contains .arabicNumber)

def encodeLabel (label : List Char) : List Char :=
  if isAscii label then label else acePrefix ++ Punycode.encode label

/-- The ASCII spelling of a name, or `none` if it has none. -/
def toAscii (name : List Char) : Option (List Char) := do
  let mapped ← mapText name
  let labels ← (Text.splitAt '.' mapped).mapM decodedLabel?
  let mixed := labels.any (·.any (rightward ∘ bidiClass))
  if labels.all labelAllowed && (!mixed || labels.all directionAllowed) then
    some (Text.joinWith ['.'] (labels.map encodeLabel))
  else none

end EventRouting.Idna
