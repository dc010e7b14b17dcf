import EventRouting.Grammar
import EventRouting.Text.Caseless

set_option autoImplicit false

namespace EventRouting.Grammar

variable {Name Value : Type}

/-- A fixed text. -/
def literal (text : List Char) (value : Value) : Grammar Name Value :=
  scan fun cursor => if text.isPrefixOf cursor.ahead then some (value, text.length) else none

/-- The start of `text` that spells `word`, letter case aside. -/
def spelled? : List Char → List Char → Option (List Char)
  | [], _ => some []
  | _ :: _, [] => none
  | expected :: word, c :: text =>
    if Text.sameLetter c expected then (spelled? word text).map (c :: ·) else none

/-- A fixed text in any letter case; its value comes from how it was written. -/
def word (text : List Char) (value : List Char → Value) : Grammar Name Value :=
  scan fun cursor => (spelled? text cursor.ahead).map fun written => (value written, written.length)

/-- Reads nothing and always succeeds. -/
def epsilon (value : Value) : Grammar Name Value := scan fun _ => some (value, 0)

def map (change : Value → Value) (inner : Grammar Name Value) : Grammar Name Value :=
  transform inner fun value => some (change value)

/-- The inner grammar or, failing that, nothing. -/
def maybe (present : Value → Value) (absent : Value) (inner : Grammar Name Value) :
    Grammar Name Value :=
  union [inner.map present, epsilon absent]

variable [Inhabited Value]

/-- Two grammars one after the other, for the value of the second. -/
def andThen (first second : Grammar Name Value) : Grammar Name Value :=
  sequence [first, second] fun
    | [_, value] => value
    | _ => default

/-- Two grammars one after the other, for the value of the first. -/
def andSkip (first second : Grammar Name Value) : Grammar Name Value :=
  sequence [first, second] fun
    | [value, _] => value
    | _ => default

end EventRouting.Grammar
