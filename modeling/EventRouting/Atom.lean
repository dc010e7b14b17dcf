import EventRouting.DomainName
import EventRouting.IpRange
import EventRouting.Regexp
import EventRouting.Text.Caseless

set_option autoImplicit false

namespace EventRouting

inductive Atom where
  | string (value : String)
  | regexp (value : Regexp)
  | ip (range : IpRange)
  | domainName (pattern : DomainPattern)
deriving DecidableEq, Hashable

namespace Atom

/-- `value` names a range that lies within `range`. -/
def rangeTakes (range : IpRange) (value : String) : Bool :=
  match IpRange.read value.toList with
  | .ok other => range.contains other
  | .error _ => false

/-- `value` is a name that passes `test`. -/
def nameTakes (test : List String → Bool) (value : String) : Bool :=
  match DomainName.read value.toList with
  | .ok name => test name
  | .error _ => false

def isMatch : Atom → String → Bool
  | string expected, value => Text.sameIgnoringCase expected value
  | regexp expected, value => expected.occursIn value
  | ip range, value => rangeTakes range value
  | domainName pattern, value => nameTakes pattern.isMatch value

def contains : Atom → String → Bool
  | domainName pattern, value => nameTakes pattern.contains value
  | atom, value => atom.isMatch value

def isString : Atom → Bool
  | string _ => true
  | _ => false

def kindName : Atom → String
  | string _ => "String"
  | regexp _ => "RegExp"
  | ip _ => "Ip"
  | domainName _ => "DomainName"

/-- The kind of an atom and what it was made from. -/
def describe (atom : Atom) : String :=
  atom.kindName ++ "(" ++ (match atom with
    | string value => Text.quoted value
    | regexp value => Text.quoted value.source ++ if value.ignoreCase then ", i" else ""
    | ip range => range.text
    | domainName pattern => pattern.text) ++ ")"

end Atom

end EventRouting
