import EventRouting.Atom
import EventRouting.Event

set_option autoImplicit false

namespace EventRouting

/-- Whether a test asks for a value that an atom contains, or for one that it does not. -/
inductive Sense where
  | matching
  | nonMatching
deriving DecidableEq, Hashable, Repr

def Sense.accepts : Sense → Bool → Bool
  | .matching, contained => contained
  | .nonMatching, contained => !contained

inductive Junction where
  | and
  | or
deriving DecidableEq, Hashable, Repr

namespace Junction

def name : Junction → String
  | and => "And"
  | or => "Or"

/-- The verdict that settles a junction, whatever its other operands say. -/
def settling : Junction → Bool
  | and => false
  | or => true

/-- The verdict on all operands. -/
def combine (kind : Junction) (verdicts : List Bool) : Bool :=
  match kind with
  | and => verdicts.all id
  | or => verdicts.any id

end Junction

namespace Event

/-- Some value under `key`, or under any key, is accepted; without an atom any value is. -/
def passes (event : Event) (sense : Sense) (key : Option String) (atom : Option Atom) : Bool :=
  match atom with
  | some atom => event.containsWhere key fun value => sense.accepts (atom.contains value)
  | none =>
    match key with
    | some key => event.containsKey key
    | none => !event.isEmpty

/-- Some value matches `atom`; a string may also match a key. -/
def mentions (event : Event) (atom : Atom) : Bool :=
  atom.isString && event.keys.any atom.isMatch || event.containsWhere none atom.isMatch

end Event

/-- A junction has a first operand, so it is never empty. -/
inductive Expression where
  | anything
  | test (sense : Sense) (key : Option String) (atom : Option Atom)
  | fuzzy (atom : Atom)
  | no (operand : Expression)
  | junction (kind : Junction) (first : Expression) (rest : List Expression)

namespace Expression

def both (left right : Expression) : Expression := junction .and left [right]

def either (left right : Expression) : Expression := junction .or left [right]

/-- The junction of a list, unless it is empty. -/
def junction? (kind : Junction) : List Expression → Option Expression
  | [] => none
  | first :: rest => some (junction kind first rest)

def holds (event : Event) : Expression → Bool
  | anything => true
  | test sense key atom => event.passes sense key atom
  | fuzzy atom => event.mentions atom
  | no operand => !operand.holds event
  | junction kind first rest => kind.combine (first.holds event :: verdicts event rest)
where
  verdicts (event : Event) : List Expression → List Bool
    | [] => []
    | operand :: rest => operand.holds event :: verdicts event rest

end Expression

end EventRouting
