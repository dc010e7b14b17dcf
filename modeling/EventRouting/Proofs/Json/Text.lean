import EventRouting.Json.Writer
import EventRouting.Proofs.RuleText.RoundTrip

set_option autoImplicit false

namespace EventRouting.Json

open RuleText (readString_append quoted_flatMap)

/-- A document in which no number occurs. -/
inductive Numberless : Json → Prop where
  | null : Numberless .null
  | bool (value : Bool) : Numberless (.bool value)
  | string (value : String) : Numberless (.string value)
  | array {items : List Json} (inside : ∀ item ∈ items, Numberless item) : Numberless (.array items)
  | object {fields : List (String × Json)} (inside : ∀ field ∈ fields, Numberless field.2) :
    Numberless (.object fields)

theorem skipSpace_of_first {c : Char} (visible : isSpace c = false) (rest : List Char) :
    skipSpace (c :: rest) = c :: rest :=
  List.dropWhile_cons_of_neg (by simp [visible])

/-- A document begins with a character of its own, which is no closing bracket. -/
theorem Numberless.first {value : Json} (numberless : value.Numberless) (rest : List Char) :
    ∃ c text, write value ++ rest = c :: text ∧ isSpace c = false ∧ c ≠ ']' := by
  cases numberless with
  | null => exact ⟨_, _, rfl, by decide, by decide⟩
  | bool value => cases value <;> exact ⟨_, _, rfl, by decide, by decide⟩
  | string value => exact ⟨_, _, rfl, by decide, by decide⟩
  | array inside => exact ⟨_, _, rfl, by decide, by decide⟩
  | object inside => exact ⟨_, _, rfl, by decide, by decide⟩

theorem Numberless.writeItems_first {item : Json} (numberless : item.Numberless) (items : List Json)
    (rest : List Char) :
    ∃ c text, writeItems (item :: items) ++ rest = c :: text ∧ isSpace c = false ∧ c ≠ ']' := by
  cases items with
  | nil => exact numberless.first rest
  | cons next items =>
    rw [writeItems, List.append_assoc]
    exact numberless.first _

theorem writeFields_first (field : String × Json) (fields : List (String × Json)) (rest : List Char) :
    ∃ text, writeFields (field :: fields) ++ rest = '"' :: text := by
  cases fields <;> exact ⟨_, rfl⟩

theorem readString_writeString (value rest : List Char) :
    writeString value ++ rest = '"' :: (value.flatMap escapedChar ++ '"' :: rest) ∧
      readString [] (value.flatMap escapedChar ++ '"' :: rest) = some (value, rest) := by
  refine ⟨by simp [writeString], ?_⟩
  simpa using readString_append (quoted_flatMap value) [] rest

section

variable {fuel : Nat} {text rest more : List Char} {value : Json}

theorem readValue_string {letters : List Char} (read : readString [] text = some (letters, rest)) :
    readValue (fuel + 1) ('"' :: text) = some (.string (String.ofList letters), rest) := by
  rw [readValue]
  change (readString [] text).map _ = _
  rw [read]
  rfl

theorem readValue_array {items : List Json} {c : Char} (visible : isSpace c = false) (opens : c ≠ ']')
    (read : readItems fuel (c :: text) = some (items, rest)) :
    readValue (fuel + 1) ('[' :: c :: text) = some (.array items, rest) := by
  have bracket : skipSpace ('[' :: c :: text) = '[' :: c :: text := rfl
  simp only [readValue, bracket, skipSpace_of_first visible]
  split
  · next shape => exact absurd (List.cons.inj shape).1 opens
  · rw [read]
    rfl

theorem readValue_object {fields : List (String × Json)}
    (read : readFields fuel ('"' :: text) = some (fields, rest)) :
    readValue (fuel + 1) ('\x7b' :: '"' :: text) = some (.object fields, rest) := by
  rw [readValue]
  change (readFields fuel ('"' :: text)).map _ = _
  rw [read]
  rfl

theorem readItems_last (read : readValue fuel text = some (value, ']' :: rest)) :
    readItems (fuel + 1) text = some ([value], rest) := by
  rw [readItems, read]
  rfl

theorem readItems_next {items : List Json} (read : readValue fuel text = some (value, ',' :: rest))
    (others : readItems fuel rest = some (items, more)) :
    readItems (fuel + 1) text = some (value :: items, more) := by
  rw [readItems, read]
  change (readItems fuel rest).map _ = _
  rw [others]
  rfl

theorem readFields_last {letters after : List Char}
    (named : readString [] text = some (letters, ':' :: after))
    (read : readValue fuel after = some (value, '\x7d' :: rest)) :
    readFields (fuel + 1) ('"' :: text) = some ([(String.ofList letters, value)], rest) := by
  have quote : skipSpace ('"' :: text) = '"' :: text := rfl
  have colon : skipSpace (':' :: after) = ':' :: after := rfl
  simp only [readFields, quote, named, colon, read]
  rfl

theorem readFields_next {letters after : List Char} {fields : List (String × Json)}
    (named : readString [] text = some (letters, ':' :: after))
    (read : readValue fuel after = some (value, ',' :: rest))
    (others : readFields fuel rest = some (fields, more)) :
    readFields (fuel + 1) ('"' :: text) = some ((String.ofList letters, value) :: fields, more) := by
  have quote : skipSpace ('"' :: text) = '"' :: text := rfl
  have colon : skipSpace (':' :: after) = ':' :: after := rfl
  have comma : skipSpace (',' :: rest) = ',' :: rest := rfl
  simp only [readFields, quote, named, colon, read, comma, others, Option.map_some]

end

/-- The text of the document, with enough fuel for it, is read as the document. -/
def ReadsBack (value : Json) : Prop :=
  ∀ fuel rest, (write value).length ≤ fuel → readValue fuel (write value ++ rest) = some (value, rest)

/-- Each item takes a unit of fuel, which its comma or the closing bracket pays for. -/
theorem readItems_writeItems {items : List Json} (some : items ≠ [])
    (back : ∀ item ∈ items, item.ReadsBack) {fuel : Nat} (enough : (writeItems items).length < fuel)
    (rest : List Char) : readItems fuel (writeItems items ++ ']' :: rest) = .some (items, rest) := by
  induction items generalizing fuel with
  | nil => exact absurd rfl some
  | cons item items ih =>
    rw [List.forall_mem_cons] at back
    obtain ⟨fuel, rfl⟩ : ∃ less, fuel = less + 1 := ⟨fuel - 1, by omega⟩
    cases items with
    | nil =>
      rw [writeItems] at enough ⊢
      exact readItems_last (back.1 fuel _ (by omega))
    | cons next items =>
      rw [writeItems, List.length_append, List.length_cons] at enough
      rw [writeItems, List.append_assoc]
      exact readItems_next (back.1 fuel _ (by omega)) (ih (by simp) back.2 (by omega))

theorem readFields_writeFields {fields : List (String × Json)} (some : fields ≠ [])
    (back : ∀ field ∈ fields, field.2.ReadsBack) {fuel : Nat}
    (enough : (writeFields fields).length < fuel) (rest : List Char) :
    readFields fuel (writeFields fields ++ '\x7d' :: rest) = .some (fields, rest) := by
  induction fields generalizing fuel with
  | nil => exact absurd rfl some
  | cons field fields ih =>
    obtain ⟨name, value⟩ := field
    obtain ⟨here, others⟩ : value.ReadsBack ∧ ∀ field ∈ fields, field.2.ReadsBack :=
      List.forall_mem_cons.1 back
    obtain ⟨fuel, rfl⟩ : ∃ less, fuel = less + 1 := ⟨fuel - 1, by omega⟩
    cases fields with
    | nil =>
      rw [writeFields, List.length_append, List.length_cons] at enough
      obtain ⟨opened, named⟩ :=
        readString_writeString name.toList (':' :: (write value ++ '\x7d' :: rest))
      have last := readFields_last named (here fuel _ (by omega))
      rw [writeFields, List.append_assoc, List.cons_append, opened, last, String.ofList_toList]
    | cons next fields =>
      rw [writeFields, List.length_append, List.length_cons, List.length_append, List.length_cons] at enough
      obtain ⟨opened, named⟩ := readString_writeString name.toList
        (':' :: (write value ++ ',' :: (writeFields (next :: fields) ++ '\x7d' :: rest)))
      have later := ih (by simp) others (show _ < fuel by omega)
      have whole := readFields_next named (here fuel _ (by omega)) later
      rw [writeFields, List.append_assoc, List.cons_append, List.append_assoc, List.cons_append,
        opened, whole, String.ofList_toList]

theorem Numberless.readsBack {value : Json} (numberless : value.Numberless) : value.ReadsBack := by
  induction numberless with
  | null =>
    intro fuel rest enough
    cases fuel with
    | zero => exact absurd enough (by decide)
    | succ fuel => rfl
  | bool value =>
    intro fuel rest enough
    cases fuel with
    | zero => cases value <;> exact absurd enough (by decide)
    | succ fuel => cases value <;> rfl
  | string value =>
    intro fuel rest enough
    cases fuel with
    | zero => simp [write, writeString] at enough
    | succ fuel =>
      obtain ⟨opened, read⟩ := readString_writeString value.toList rest
      rw [write, opened, readValue_string read, String.ofList_toList]
  | @array items inside ih =>
    intro fuel rest enough
    cases fuel with
    | zero => simp [write] at enough
    | succ fuel =>
      cases items with
      | nil => rfl
      | cons item items =>
        rw [write, List.length_cons, List.length_append, List.length_singleton] at enough
        have read := readItems_writeItems (by simp) ih (show _ < fuel by omega) rest
        obtain ⟨c, text, shape, visible, opens⟩ :=
          (inside item List.mem_cons_self).writeItems_first items (']' :: rest)
        rw [write, List.cons_append, List.append_assoc, List.singleton_append]
        rw [shape] at read ⊢
        exact readValue_array visible opens read
  | @object fields inside ih =>
    intro fuel rest enough
    cases fuel with
    | zero => simp [write] at enough
    | succ fuel =>
      cases fields with
      | nil => rfl
      | cons field fields =>
        rw [write, List.length_cons, List.length_append, List.length_singleton] at enough
        have read := readFields_writeFields (by simp) ih (show _ < fuel by omega) rest
        obtain ⟨text, shape⟩ := writeFields_first field fields ('\x7d' :: rest)
        rw [write, List.cons_append, List.append_assoc, List.singleton_append]
        rw [shape] at read ⊢
        exact readValue_object read

theorem read?_write {value : Json} (numberless : value.Numberless) : read? (write value) = some value := by
  have read := numberless.readsBack ((write value).length + 1) [] (Nat.le_succ _)
  rw [List.append_nil] at read
  rw [read?, read]
  rfl

theorem read?_toText {value : Json} (numberless : value.Numberless) :
    read? value.toText.toList = some value := by
  rw [toText, String.toList_ofList, read?_write numberless]

end EventRouting.Json
