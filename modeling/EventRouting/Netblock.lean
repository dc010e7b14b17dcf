import EventRouting.Rule.Build

set_option autoImplicit false

namespace EventRouting.Netblock

/-- What makes a block of a single address. -/
inductive Extent where
  | bits (count : Nat)
  | last (address : String)
deriving DecidableEq, Repr

/-- A text that is a block or a range already takes no extent. -/
def range (text : String) (extent : Option Extent) : Except IpRangeError IpRange :=
  match extent with
  | none => IpRange.read text.toList
  | some extent =>
    if '/' ∈ text.toList || '-' ∈ text.toList then
      .error (.unexpectedArgument (Text.trimString text))
    else do
      let first ← IpRange.readAddress text.toList
      match extent with
      | .bits count => IpRange.ofBlock first count
      | .last address => do
        let last ← IpRange.readAddress address.toList
        IpRange.ofEnds first last

def ofRange (range : IpRange) (keys : List String) : Expression :=
  let test (key : Option String) : Expression := .test .matching key (some (.ip range))
  match keys with
  | [] => test none
  | first :: rest => .junction .or (test (some first)) (rest.map fun key => test (some key))

def expression (text : String) (extent : Option Extent) (keys : List String) :
    Except IpRangeError Expression :=
  (range text extent).map (ofRange · keys)

/-- A handle on the rule. Nothing is built unless there is a block to look for. -/
def build (text : String) (extent : Option Extent) (keys : List String) :
    Build (Except IpRangeError Rule) :=
  match expression text extent keys with
  | .ok rule => return .ok (← rule.build)
  | .error cause => return .error cause

end EventRouting.Netblock
