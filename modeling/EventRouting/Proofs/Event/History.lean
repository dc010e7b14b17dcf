import EventRouting.Proofs.Event.Pairs

set_option autoImplicit false

namespace EventRouting.Event

variable {event other : Event} {key value : String} {pairs others : Set Attribute}

/-- The values that a field of a document gives: a text stands for the list of it alone. -/
inductive Gives : Json → String → Prop where
  | one {value : String} : Gives (.string value) value
  | many {values : List String} {value : String} (inside : value ∈ values) :
    Gives (.array (values.map .string)) value

/-- What is written under the fields of a document. -/
def written (fields : List (String × Json)) : Set Attribute :=
  {pair | ∃ content, (pair.1, content) ∈ fields ∧ Gives content pair.2}

/-- A text or a list of texts. -/
def Texts (content : Json) : Prop :=
  (∃ value, content = .string value) ∨ ∃ values : List String, content = .array (values.map .string)

theorem mapM_eq_some_iff {Piece Value : Type} {read : Piece → Option Value} {pieces : List Piece}
    {values : List Value} :
    pieces.mapM read = some values ↔
      List.Forall₂ (fun piece value => read piece = some value) pieces values := by
  induction pieces generalizing values with
  | nil =>
    rw [List.forall₂_nil_left_iff, List.mapM_nil]
    exact Option.some_inj.trans eq_comm
  | cons piece rest ih =>
    rw [List.forall₂_cons_left_iff, List.mapM_cons]
    simp only [Option.bind_eq_bind, Option.bind_eq_some_iff, ih, Option.pure_def, Option.some.injEq]
    constructor
    · rintro ⟨value, first, others, reads, rfl⟩
      exact ⟨value, others, first, reads, rfl⟩
    · rintro ⟨value, others, first, reads, rfl⟩
      exact ⟨value, first, others, reads, rfl⟩

theorem exists_mapM_iff {Piece Value : Type} {read : Piece → Option Value} {pieces : List Piece} :
    (∃ values, pieces.mapM read = some values) ↔
      ∀ piece ∈ pieces, ∃ value, read piece = some value := by
  induction pieces with
  | nil => simp
  | cons piece rest ih =>
    rw [List.forall_mem_cons, ← ih]
    simp only [mapM_eq_some_iff]
    constructor
    · rintro ⟨values, all⟩
      obtain ⟨value, others, first, reads, -⟩ := List.forall₂_cons_left_iff.1 all
      exact ⟨⟨value, first⟩, others, reads⟩
    · rintro ⟨⟨value, first⟩, values, others⟩
      exact ⟨value :: values, .cons first others⟩

theorem text?_eq_some_iff {content : Json} {value : String} :
    text? content = some value ↔ content = .string value := by
  cases content <;> simp [text?]

theorem fieldValues?_eq_some_iff {content : Json} {values : List String} :
    fieldValues? content = some values ↔
      (∃ value, content = .string value ∧ values = [value]) ∨
        content = .array (values.map .string) := by
  unfold fieldValues?
  split
  · simp [eq_comm]
  · rw [mapM_eq_some_iff]
    simp only [text?_eq_some_iff, reduceCtorEq, false_and, exists_false, false_or, Json.array.injEq]
    rw [← List.forall₂_map_right_iff, List.forall₂_eq_eq_eq]
  · next notText notList =>
    constructor
    · simp
    · rintro (⟨value, rfl, -⟩ | rfl)
      · exact absurd rfl (notText value)
      · exact absurd rfl (notList _)

theorem mem_fieldValues_iff {content : Json} {values : List String}
    (read : fieldValues? content = some values) :
    value ∈ values ↔ Gives content value := by
  rcases fieldValues?_eq_some_iff.1 read with ⟨only, rfl, rfl⟩ | rfl
  · rw [List.mem_singleton]
    constructor
    · rintro rfl
      exact .one
    · rintro ⟨⟩
      rfl
  · constructor
    · exact .many
    · intro gives
      generalize shape : Json.array (values.map .string) = content at gives
      cases gives with
      | one => contradiction
      | many inside =>
        have same := List.map_injective_iff.2 (fun _ _ => Json.string.inj) (Json.array.inj shape)
        rwa [same]

theorem texts_iff {content : Json} : Texts content ↔ ∃ values, fieldValues? content = some values := by
  simp only [fieldValues?_eq_some_iff, Texts]
  constructor
  · rintro (⟨value, rfl⟩ | ⟨values, rfl⟩)
    · exact ⟨[value], Or.inl ⟨value, rfl, rfl⟩⟩
    · exact ⟨values, Or.inr rfl⟩
  · rintro ⟨values, ⟨value, rfl, -⟩ | rfl⟩
    · exact Or.inl ⟨value, rfl⟩
    · exact Or.inr ⟨values, rfl⟩

/-- The groups that are read from the fields hold what is written under them. -/
theorem mem_groups_iff {fields : List (String × Json)} {groups : List (String × List String)}
    (read : fields.mapM (fun field => (fieldValues? field.2).map (field.1, ·)) = some groups)
    (pair : Attribute) :
    pair ∈ groups.flatMap (fun group => group.2.map (group.1, ·)) ↔ pair ∈ written fields := by
  rw [mapM_eq_some_iff] at read
  induction read with
  | nil => simp [written]
  | @cons field group fields groups first others ih =>
    obtain ⟨name, content⟩ := field
    obtain ⟨values, listed, rfl⟩ := Option.map_eq_some_iff.1 first
    have here : pair ∈ values.map (name, ·) ↔ pair.1 = name ∧ Gives content pair.2 := by
      rw [List.mem_map, ← mem_fieldValues_iff listed]
      constructor
      · rintro ⟨value, inside, rfl⟩
        exact ⟨rfl, inside⟩
      · rintro ⟨rfl, inside⟩
        exact ⟨pair.2, inside, rfl⟩
    rw [List.flatMap_cons, List.mem_append, ih, here]
    simp only [written, Set.mem_ofPred_eq, List.mem_cons, Prod.mk_inj, or_and_right, exists_or]
    apply or_congr_left
    constructor
    · rintro ⟨same, gives⟩
      exact ⟨content, ⟨same, rfl⟩, gives⟩
    · rintro ⟨_, ⟨same, rfl⟩, gives⟩
      exact ⟨same, gives⟩

theorem represents_ofJson {fields : List (String × Json)}
    (decoded : ofJson? (.object fields) = some event) :
    event.Represents (withKey (written fields)) := by
  simp only [ofJson?, Option.bind_eq_bind, Option.bind_eq_some_iff] at decoded
  obtain ⟨groups, read, made⟩ := decoded
  obtain rfl := Option.some.inj made
  apply (represents_ofList _).congr
  intro pair
  simp only [withKey, Set.mem_ofPred_eq, mem_groups_iff read]

/-- A document is an event when it is an object of texts and lists of texts. -/
theorem exists_ofJson?_iff {fields : List (String × Json)} :
    (∃ event, ofJson? (.object fields) = some event) ↔ ∀ field ∈ fields, Texts field.2 := by
  have grouped : (∃ event, ofJson? (.object fields) = some event) ↔
      ∃ groups, fields.mapM (fun field => (fieldValues? field.2).map (field.1, ·)) = some groups := by
    simp only [ofJson?, Option.bind_eq_bind, Option.bind_eq_some_iff]
    constructor
    · rintro ⟨event, groups, read, -⟩
      exact ⟨groups, read⟩
    · rintro ⟨groups, read⟩
      exact ⟨_, groups, read, rfl⟩
  rw [grouped, exists_mapM_iff]
  refine forall₂_congr fun field _ => ?_
  simp only [texts_iff, Option.map_eq_some_iff]
  constructor
  · rintro ⟨_, values, listed, -⟩
    exact ⟨values, listed⟩
  · rintro ⟨values, listed⟩
    exact ⟨_, values, listed, rfl⟩

/-- What a run of operations comes to, and the pairs that it should come to. -/
inductive Reached : Event → Set Attribute → Prop where
  | new : Reached empty ∅
  | add {event : Event} {pairs : Set Attribute} (before : Reached event pairs) (key value : String) :
    Reached (event.add key value).2 (pairs ∪ withKey {(key, value)})
  | discard {event : Event} {pairs : Set Attribute} (before : Reached event pairs) (key value : String) :
    Reached (event.discard key value).2 (pairs \ {(key, value)})
  | clear {event : Event} {pairs : Set Attribute} (before : Reached event pairs) (key : String) :
    Reached (event.clear key).2 {pair ∈ pairs | pair.1 ≠ key}
  | union {event other : Event} {pairs others : Set Attribute} (before : Reached event pairs)
    (also : Reached other others) : Reached (event.union other) (pairs ∪ others)
  | difference {event other : Event} {pairs others : Set Attribute} (before : Reached event pairs)
    (also : Reached other others) : Reached (event.difference other) (pairs \ others)
  | extend {event : Event} {pairs : Set Attribute} (before : Reached event pairs) (added : List Attribute) :
    Reached (event.addAll added) (pairs ∪ withKey {pair | pair ∈ added})
  | collect (added : List Attribute) : Reached (ofList added) (withKey {pair | pair ∈ added})
  | decode {event : Event} {fields : List (String × Json)}
    (decoded : ofJson? (.object fields) = some event) :
    Reached event (withKey (written fields))

theorem Reached.represents (reached : Reached event pairs) : event.Represents pairs := by
  induction reached with
  | new => exact represents_empty
  | add before key value ih => exact ih.add key value
  | discard before key value ih => exact ih.discard key value
  | clear before key ih => exact ih.clear key
  | union before also ih ihAlso => exact ih.union ihAlso
  | difference before also ih ihAlso => exact ih.difference ihAlso
  | extend before added ih => exact ih.addAll added
  | collect added => exact represents_ofList added
  | decode decoded => exact represents_ofJson decoded

/-- All that can be asked of an event is answered from the pairs, every operation knows whether it changed
anything, and no key is empty or without values. -/
structure Shows (event : Event) (pairs : Set Attribute) : Prop where
  contains : ∀ key value, event.contains key value = true ↔ (key, value) ∈ pairs
  containsKey : ∀ key, event.containsKey key = true ↔ ∃ value, (key, value) ∈ pairs
  keys : (∀ key, key ∈ event.keys ↔ ∃ value, (key, value) ∈ pairs) ∧ event.keys.Nodup
  values : ∀ key, (∀ value, value ∈ event.values key ↔ (key, value) ∈ pairs) ∧
    (event.values key).Nodup
  items : (∀ pair, pair ∈ event.items ↔ pair ∈ pairs) ∧ event.items.Nodup
  containsUnder : ∀ key test,
    event.containsWhere (some key) test = true ↔ ∃ value, (key, value) ∈ pairs ∧ test value = true
  containsAnywhere : ∀ test, event.containsWhere none test = true ↔
    ∃ pair ∈ pairs, test pair.2 = true
  size : (event.size : ℕ∞) = (Prod.fst '' pairs).encard
  isEmpty : event.isEmpty = true ↔ pairs = ∅
  added : ∀ key value, (event.add key value).1 = true ↔ (event.add key value).2 ≠ event
  discarded : ∀ key value, (event.discard key value).1 = true ↔ (event.discard key value).2 ≠ event
  cleared : ∀ key, (event.clear key).1 = true ↔ (event.clear key).2 ≠ event
  tidy : ∀ entry ∈ event.entries, entry.1 ≠ "" ∧ entry.2 ≠ []

theorem Represents.tidy (represents : event.Represents pairs) :
    ∀ entry ∈ event.entries, entry.1 ≠ "" ∧ entry.2 ≠ [] := by
  rintro ⟨key, values⟩ inside
  have listed := mem_entries_iff.1 inside
  have filled : values ≠ [] := fun none => represents.filled key (listed.trans (congrArg some none))
  obtain ⟨value, among⟩ := List.exists_mem_of_ne_nil values filled
  have pair : (key, value) ∈ pairs := by
    rw [← represents.mem_iff, mem_values_iff]
    exact ⟨values, inside, among⟩
  exact ⟨represents.named _ pair, filled⟩

theorem Represents.shows (represents : event.Represents pairs) : event.Shows pairs where
  contains := represents.contains_iff
  containsKey := represents.containsKey_iff
  keys := ⟨represents.mem_keys_iff, event.nodup_keys⟩
  values key := ⟨represents.mem_iff key, (event.ascending_values key).nodup⟩
  items := ⟨represents.mem_items_iff, event.nodup_items⟩
  containsUnder := represents.containsWhere_some_iff
  containsAnywhere := represents.containsWhere_none_iff
  size := represents.size_eq
  isEmpty := represents.isEmpty_iff
  added := represents.add_iff
  discarded := represents.discard_iff
  cleared := represents.clear_iff
  tidy := represents.tidy

/-- After every run of operations an event shows the pairs that the same operations on sets leave, equal
events are those with the same pairs, and documents of texts and lists of texts are decoded. -/
theorem operations_are_set_operations (reached : Reached event pairs) :
    event.Shows pairs ∧ (∀ other others, Reached other others →
      (event = other ↔ pairs = others)) ∧
      ∀ fields, (∀ field ∈ fields, Texts field.2) →
        ∃ decoded, ofJson? (.object fields) = some decoded ∧
          Reached decoded (withKey (written fields)) := by
  refine ⟨reached.represents.shows, fun other others also => reached.represents.eq_iff also.represents,
    ?_⟩
  intro fields texts
  obtain ⟨decoded, made⟩ := exists_ofJson?_iff.2 texts
  exact ⟨decoded, made, .decode made⟩

/-- A key goes with its last value, and an empty key never comes. -/
theorem operations_are_set_operations_emptied :
    ((((empty.add "k" "v").2.add "" "w").2.discard "k" "v").2).isEmpty = true ∧
      ((((empty.add "k" "v").2.add "" "w").2.discard "k" "v").2).Shows
        (((∅ ∪ withKey {("k", "v")}) ∪ withKey {("", "w")}) \ {("k", "v")}) :=
  ⟨by decide, (operations_are_set_operations (.discard (.add (.add .new "k" "v") "" "w") "k" "v")).1⟩

end EventRouting.Event
