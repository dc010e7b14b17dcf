import EventRouting.Json.Value

set_option autoImplicit false

namespace EventRouting

/-- A scalar has a text if it can be read as one, and a value unless it is out of bounds. -/
inductive Document where
  | scalar (text : Option String) (value : Option Json)
  | list (items : List Document)
  | record (fields : List (Document × Document))

namespace Document

def ofJson : Json → Document
  | .string value => scalar (some value) (some (.string value))
  | .array items => list (ofItems items)
  | .object fields => record (ofFields fields)
  | value => scalar none (some value)
where
  ofItems : List Json → List Document
    | [] => []
    | item :: rest => ofJson item :: ofItems rest
  ofFields : List (String × Json) → List (Document × Document)
    | [] => []
    | (name, value) :: rest =>
      (scalar (some name) (some (.string name)), ofJson value) :: ofFields rest

/-- A field that was left empty. -/
def isBlank : Document → Bool
  | scalar (some text) (some .null) => text.isEmpty
  | _ => false

def text? : Document → Option String
  | scalar text _ => text
  | list _ | record _ => none

def bool? : Document → Option Bool
  | scalar _ (some (.bool value)) => some value
  | _ => none

def isNull : Document → Bool
  | scalar _ (some .null) => true
  | _ => false

/-- The items of a list; an empty field is an empty list. -/
def items? : Document → Option (List Document)
  | list items => some items
  | document => if document.isBlank then some [] else none

/-- The plain value of a document whose records have strings for names. -/
def value? : Document → Option Json
  | scalar _ value => value
  | list items => (values? items).map .array
  | record fields => (fieldValues? fields).map .object
where
  values? : List Document → Option (List Json)
    | [] => some []
    | item :: rest => do return (← item.value?) :: (← values? rest)
  fieldValues? : List (Document × Document) → Option (List (String × Json))
    | [] => some []
    | (name, value) :: rest => do
      match ← name.value? with
      | .string name => return (name, ← value.value?) :: (← fieldValues? rest)
      | _ => none

/-- The documents under the given names, in that order; none of the names may stand twice. -/
def named? (names : List String) (fields : List (Document × Document)) :
    Option (List (Option Document)) := do
  let fields ← fields.mapM fun field => field.1.text?.map (·, field.2)
  names.mapM fun name =>
    match fields.filter (·.1 = name) with
    | [] => some none
    | [field] => some (some field.2)
    | _ => none

/-- The fields of a record, or of a list that gives them in order and has no more of them. -/
def fields? (names : List String) : Document → Option (List (Option Document))
  | record fields => named? names fields
  | list items =>
    if items.length ≤ names.length then
      some (items.map some ++ List.replicate (names.length - items.length) none)
    else none
  | document => if document.isBlank then named? names [] else none

end Document

end EventRouting
