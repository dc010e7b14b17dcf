import EventRouting.Json.Writer
import EventRouting.Rule

set_option autoImplicit false

namespace EventRouting

namespace Atom

def toJson : Atom → Json
  | string value => .object [("rs", .string value)]
  | regexp value => .object [("rr", .array [.string value.source, .bool value.ignoreCase])]
  | ip range => .object [("ri", .string range.text)]
  | domainName pattern => .object [("rd", .string pattern.text)]

def ofJson? : Json → Option Atom
  | .object [("rs", .string value)] => some (string value)
  | .object [("rr", .array [.string source, .bool ignoreCase])] =>
    (Regexp.ofSource source.toList ignoreCase).toOption.map regexp
  | .object [("ri", .string text)] => (IpRange.read text.toList).toOption.map ip
  | .object [("rd", .string text)] => (DomainPattern.read text.toList).toOption.map domainName
  | _ => none

end Atom

def Sense.tag : Sense → String
  | matching => "rm"
  | nonMatching => "rnm"

def Junction.tag : Junction → String
  | and => "ra"
  | or => "ro"

/-- The key of a test, or null for any key. -/
def keyToJson (key : Option String) : Json := (key.map Json.string).getD .null

def keyOfJson? : Json → Option (Option String)
  | .null => some none
  | .string key => some (some key)
  | _ => none

def operandToJson (atom : Option Atom) : Json := (atom.map Atom.toJson).getD .null

def operandOfJson? : Json → Option (Option Atom)
  | .null => some none
  | atom => (Atom.ofJson? atom).map some

namespace Expression

def testOfJson? (sense : Sense) : Json → Option Expression
  | .array [key, atom] => do return test sense (← keyOfJson? key) (← operandOfJson? atom)
  | _ => none

def ofJson? : Json → Option Expression
  | .string "r*" | .object [("r*", .null)] => some anything
  | .object [("rm", contents)] => testOfJson? .matching contents
  | .object [("rnm", contents)] => testOfJson? .nonMatching contents
  | .object [("rf", contents)] => (Atom.ofJson? contents).map fuzzy
  | .object [("rn", contents)] => (ofJson? contents).map no
  | .object [("ra", .array operands)] => (listOfJson? operands).bind (junction? .and)
  | .object [("ro", .array operands)] => (listOfJson? operands).bind (junction? .or)
  | _ => none
where
  listOfJson? : List Json → Option (List Expression)
    | [] => some []
    | item :: rest => do return (← ofJson? item) :: (← listOfJson? rest)

end Expression

namespace Rule

def toJson : Rule → Json
  | anything _ => .string "r*"
  | test _ sense key atom =>
    .object [(sense.tag, .array [keyToJson key, operandToJson (atom.map SharedAtom.atom)])]
  | fuzzy _ atom => .object [("rf", atom.atom.toJson)]
  | no _ operand => .object [("rn", operand.toJson)]
  | junction _ kind operands => .object [(kind.tag, .array (listToJson operands))]
where
  listToJson : List Rule → List Json
    | [] => []
    | operand :: rest => operand.toJson :: listToJson rest

end Rule

end EventRouting
