set_option autoImplicit false

namespace EventRouting

inductive Json where
  | null
  | bool (value : Bool)
  | number (literal : String)
  | string (value : String)
  | array (items : List Json)
  | object (fields : List (String × Json))
deriving Repr

namespace Json

/-- Puts a field at the place of the first one with its name, or at the end. -/
def setField (name : String) (value : Json) : List (String × Json) → List (String × Json)
  | [] => [(name, value)]
  | field :: rest =>
    if field.1 = name then (name, value) :: rest else field :: setField name value rest

/-- In every object the last of the fields with one name stands for all of them. -/
def lastWins : Json → Json
  | .array items => .array (items.attach.map fun item => lastWins item.1)
  | .object fields =>
    .object ((fields.attach.map fun field => (field.1.1, lastWins field.1.2)).foldl
      (fun done field => setField field.1 field.2 done) [])
  | other => other
termination_by value => sizeOf value
decreasing_by
  · have := List.sizeOf_lt_of_mem item.2
    simp only [Json.array.sizeOf_spec]
    omega
  · have inside := List.sizeOf_lt_of_mem field.2
    have smaller : sizeOf field.1.2 < sizeOf field.1 := by
      cases field.1 with
      | mk name value => simp only [Prod.mk.sizeOf_spec]; omega
    simp only [Json.object.sizeOf_spec]
    omega

end Json

end EventRouting
