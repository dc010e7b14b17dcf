import EventRouting.Ascending
import EventRouting.Json.Writer
import EventRouting.Text.Quoted

set_option autoImplicit false

namespace EventRouting

abbrev Attribute := String × String

structure Event where
  entries : List (String × List String)
  ascending : (entries.map Prod.fst).Pairwise (· < ·)
  sorted : ∀ entry ∈ entries, entry.2.Pairwise (· < ·)
deriving DecidableEq

namespace Event

def empty : Event := ⟨[], .nil, by simp⟩

/-- Changes the values under a key, which are none if the key is missing. -/
def adjust (event : Event) (key : String) (change : List String → List String)
    (kept : ∀ values : List String, values.Pairwise (· < ·) → (change values).Pairwise (· < ·)) :
    Event where
  entries := Ascending.adjust key [] change event.entries
  ascending := Ascending.ascending_adjust event.ascending
  sorted := Ascending.forall_adjust event.sorted (kept [] .nil) kept

def remove (event : Event) (key : String) : Event where
  entries := event.entries.filter (·.1 ≠ key)
  ascending := event.ascending.sublist (List.filter_sublist.map _)
  sorted := fun entry inside => event.sorted entry (List.mem_filter.1 inside).1

/-- The values under a key, none if the key is missing. -/
def values (event : Event) (key : String) : List String := (event.entries.lookup key).getD []

/-- Adds a pair and says whether it was missing. An empty key is never added. -/
def add (event : Event) (key value : String) : Bool × Event :=
  if key = "" then (false, event)
  else (!(event.values key).contains value,
    event.adjust key (Ascending.insert value) fun _ => Ascending.ascending_insert)

/-- Removes a pair and says whether it was there. A key goes with its last value. -/
def discard (event : Event) (key value : String) : Bool × Event :=
  match event.entries.lookup key with
  | none => (false, event)
  | some values =>
    (values.contains value,
      if (values.filter (· ≠ value)).isEmpty then event.remove key
      else event.adjust key (·.filter (· ≠ value)) fun _ sorted => sorted.filter _)

/-- Removes a key with all its values and says whether it was there. -/
def clear (event : Event) (key : String) : Bool × Event :=
  ((event.entries.lookup key).isSome, event.remove key)

def contains (event : Event) (key value : String) : Bool :=
  (event.entries.lookup key).any (·.contains value)

def containsKey (event : Event) (key : String) : Bool := (event.entries.lookup key).isSome

def keys (event : Event) : List String := event.entries.map Prod.fst

def items (event : Event) : List Attribute :=
  event.entries.flatMap fun entry => entry.2.map (entry.1, ·)

/-- The number of keys. -/
def size (event : Event) : Nat := event.entries.length

def isEmpty (event : Event) : Bool := event.entries.isEmpty

def addAll (event : Event) (pairs : List Attribute) : Event :=
  pairs.foldl (fun event pair => (event.add pair.1 pair.2).2) event

def ofList (pairs : List Attribute) : Event := empty.addAll pairs

def union (event other : Event) : Event := event.addAll other.items

def difference (event other : Event) : Event :=
  ofList (event.items.filter fun pair => !other.contains pair.1 pair.2)

/-- Some value passes `test`, under `key` if one is given. -/
def containsWhere (event : Event) (key : Option String) (test : String → Bool) : Bool :=
  match key with
  | some key => (event.values key).any test
  | none => event.entries.any fun entry => entry.2.any test

def text? : Json → Option String
  | .string value => some value
  | _ => none

/-- The values that a field of a structured event lists. -/
def fieldValues? : Json → Option (List String)
  | .string value => some [value]
  | .array items => items.mapM text?
  | _ => none

/-- An event from an object whose fields are strings or lists of strings; keys may repeat. -/
def ofJson? : Json → Option Event
  | .object fields => do
    let groups ← fields.mapM fun field => (fieldValues? field.2).map (field.1, ·)
    return ofList (groups.flatMap fun group => group.2.map (group.1, ·))
  | _ => none

def toJson (event : Event) : Json :=
  .object (event.entries.map fun entry => (entry.1, .array (entry.2.map .string)))

def describe (event : Event) : String :=
  let group (key : String) (values : List String) : String :=
    Text.quoted key ++ ": [" ++ ", ".intercalate (values.map Text.quoted) ++ "]"
  "\x7b" ++ ", ".intercalate (event.entries.map fun entry => group entry.1 entry.2) ++ "\x7d"

end Event

end EventRouting
