import EventRouting.Proofs.Event.History
import EventRouting.Proofs.Json.Text
import Mathlib.Data.String.Basic

set_option autoImplicit false

namespace EventRouting.Event

variable {event other : Event} {pairs others : Set Attribute} {groups : List (String × List String)}

/-- The groups hold these pairs, each once, and none of them is empty. -/
structure Lists (groups : List (String × List String)) (pairs : Set Attribute) : Prop where
  keys : (groups.map Prod.fst).Nodup
  values : ∀ group ∈ groups, group.2 ≠ [] ∧ group.2.Nodup
  mem_iff : ∀ pair, pair ∈ pairs ↔ ∃ values, (pair.1, values) ∈ groups ∧ pair.2 ∈ values

/-- The groups by key, and the values by themselves. -/
def sortGroups (groups : List (String × List String)) : List (String × List String) :=
  (groups.map fun group => (group.1, group.2.mergeSort)).mergeSort fun first second => first.1 ≤ second.1

/-- The fields of a document with these groups. -/
def fieldsOf (groups : List (String × List String)) : List (String × Json) :=
  groups.map fun group => (group.1, .array (group.2.map .string))

theorem toJson_eq (event : Event) : event.toJson = .object (fieldsOf event.entries) := rfl

theorem ascending_mergeSort {texts : List String} (once : texts.Nodup) :
    texts.mergeSort.Pairwise (· < ·) :=
  (List.sortedLE_mergeSort.sortedLT_of_nodup ((List.mergeSort_perm texts _).nodup_iff.2 once)).pairwise

theorem sortGroups_perm (groups : List (String × List String)) :
    (sortGroups groups).Perm (groups.map fun group => (group.1, group.2.mergeSort)) :=
  List.mergeSort_perm _ _

theorem mem_sortGroups {key : String} {values : List String} :
    (key, values) ∈ sortGroups groups ↔ ∃ listed, (key, listed) ∈ groups ∧
      listed.mergeSort = values := by
  rw [(sortGroups_perm groups).mem_iff, List.mem_map]
  constructor
  · rintro ⟨⟨name, listed⟩, inside, same⟩
    obtain ⟨rfl, rfl⟩ := Prod.mk_inj.1 same
    exact ⟨listed, inside, rfl⟩
  · rintro ⟨listed, inside, rfl⟩
    exact ⟨(key, listed), inside, rfl⟩

theorem Lists.ascending (lists : Lists groups pairs) :
    ((sortGroups groups).map Prod.fst).Pairwise (· < ·) := by
  have once : ((sortGroups groups).map Prod.fst).Nodup := by
    rw [((sortGroups_perm groups).map Prod.fst).nodup_iff, List.map_map]
    exact lists.keys
  have sorted : (sortGroups groups).Pairwise fun first second => first.1 ≤ second.1 :=
    List.pairwise_mergeSort' (Order.Preimage Prod.fst (· ≤ ·)) _
  exact ((List.pairwise_map.2 sorted).sortedLE.sortedLT_of_nodup once).pairwise

theorem Lists.sorted (lists : Lists groups pairs) :
    ∀ entry ∈ sortGroups groups, entry.2.Pairwise (· < ·) := by
  rintro ⟨key, values⟩ inside
  obtain ⟨listed, member, rfl⟩ := mem_sortGroups.1 inside
  exact ascending_mergeSort (lists.values _ member).2

/-- The groups once sorted are the entries of an event. -/
def Lists.toEvent (lists : Lists groups pairs) : Event :=
  ⟨sortGroups groups, lists.ascending, lists.sorted⟩

theorem Lists.represents (lists : Lists groups pairs) (named : ∀ pair ∈ pairs, pair.1 ≠ "") :
    lists.toEvent.Represents pairs where
  mem_iff key value := by
    rw [mem_values_iff, lists.mem_iff]
    constructor
    · rintro ⟨values, inside, member⟩
      obtain ⟨listed, known, rfl⟩ := mem_sortGroups.1 inside
      exact ⟨listed, known, List.mem_mergeSort.1 member⟩
    · rintro ⟨listed, known, member⟩
      exact ⟨_, mem_sortGroups.2 ⟨listed, known, rfl⟩, List.mem_mergeSort.2 member⟩
  filled key none := by
    obtain ⟨listed, known, empty⟩ := mem_sortGroups.1 (mem_entries_iff.2 none)
    refine (lists.values _ known).1 (List.eq_nil_iff_length_eq_zero.2 ?_)
    rw [← List.length_mergeSort listed, empty, List.length_nil]
  named := named

/-- Whatever order a table has the pairs in, sorting leaves the entries of the event. -/
theorem Represents.sortGroups_eq (represents : event.Represents pairs) (lists : Lists groups pairs) :
    sortGroups groups = event.entries :=
  congrArg entries (((lists.represents represents.named).eq_iff represents).2 rfl)

theorem Represents.lists (represents : event.Represents pairs) : Lists event.entries pairs where
  keys := event.nodup_keys
  values entry inside := ⟨(represents.tidy entry inside).2, (event.sorted entry inside).nodup⟩
  mem_iff pair := by rw [← represents.mem_iff, mem_values_iff]

/-- The event that a text holds. -/
def ofText? (text : String) : Option Event := (Json.read? text.toList).bind ofJson?

/-- The fields of a document give what stands in its groups. -/
theorem mem_written_fieldsOf {pair : Attribute} :
    pair ∈ written (fieldsOf groups) ↔ ∃ values, (pair.1, values) ∈ groups ∧
      pair.2 ∈ values := by
  have gives (values : List String) : Gives (.array (values.map .string)) pair.2 ↔ pair.2 ∈ values :=
    (mem_fieldValues_iff (fieldValues?_eq_some_iff.2 (.inr rfl))).symm
  constructor
  · rintro ⟨content, inside, given⟩
    obtain ⟨⟨key, values⟩, member, same⟩ := List.mem_map.1 inside
    obtain ⟨rfl, rfl⟩ := Prod.mk_inj.1 same
    exact ⟨values, member, (gives values).1 given⟩
  · rintro ⟨values, member, among⟩
    exact ⟨_, List.mem_map_of_mem member, (gives values).2 among⟩

theorem texts_fieldsOf (groups : List (String × List String)) :
    ∀ field ∈ fieldsOf groups, Texts field.2 := by
  intro field inside
  obtain ⟨group, -, rfl⟩ := List.mem_map.1 inside
  exact .inr ⟨group.2, rfl⟩

theorem Represents.ofJson?_toJson (represents : event.Represents pairs) :
    ofJson? event.toJson = some event := by
  obtain ⟨decoded, made⟩ := exists_ofJson?_iff.2 (texts_fieldsOf event.entries)
  have same : withKey (written (fieldsOf event.entries)) = pairs := by
    ext pair
    rw [withKey, Set.mem_ofPred_eq, mem_written_fieldsOf, ← represents.lists.mem_iff]
    exact and_iff_left_of_imp (represents.named pair)
  rw [toJson_eq, made, ((represents_ofJson made).eq_iff represents).2 same]

theorem numberless_of_texts {fields : List (String × Json)} (texts : ∀ field ∈ fields, Texts field.2) :
    (Json.object fields).Numberless := by
  refine .object fun field inside => ?_
  rcases texts field inside with ⟨value, text⟩ | ⟨values, list⟩
  · rw [text]
    exact .string value
  · rw [list]
    refine .array fun item member => ?_
    obtain ⟨value, -, rfl⟩ := List.mem_map.1 member
    exact .string value

/-- The text of an event holds it. -/
theorem Represents.ofText?_toText (represents : event.Represents pairs) :
    ofText? event.toJson.toText = some event := by
  rw [ofText?, toJson_eq, Json.read?_toText (numberless_of_texts (texts_fieldsOf _))]
  exact represents.ofJson?_toJson

/-- After any runs of operations two events have one text if they have the same pairs, and only then. It
lists the keys and the values under each key in ascending order, none of them in vain, as sorting makes
them of any table of the pairs, and the event is read back from it. Whatever object of texts and lists of
texts an event is read from, its text is that of the event that is read from it again. -/
theorem text_tells_the_pairs (reached : Reached event pairs) :
    (∀ other others, Reached other others →
      (event.toJson.toText = other.toJson.toText ↔ pairs = others)) ∧
    (∃ groups, event.toJson = .object (fieldsOf groups) ∧ Lists groups pairs ∧
      (groups.map Prod.fst).Pairwise (· < ·) ∧
      ∀ group ∈ groups, group.1 ≠ "" ∧ group.2 ≠ [] ∧ group.2.Pairwise (· < ·)) ∧
    (∀ groups, Lists groups pairs → .object (fieldsOf (sortGroups groups)) = event.toJson) ∧
    ofText? event.toJson.toText = some event ∧
    ∀ text fields, Json.read? text.toList = some (.object fields) →
      (∀ field ∈ fields, Texts field.2) →
      ∃ canonical, (ofText? text).map (·.toJson.toText) = some canonical ∧
        (ofText? canonical).map (·.toJson.toText) = some canonical := by
  have represents := reached.represents
  refine ⟨fun other others also => ⟨fun same => ?_, fun same => ?_⟩, ?_, fun groups lists => ?_,
    represents.ofText?_toText, fun text fields read texts => ?_⟩
  · have held := represents.ofText?_toText
    rw [same, also.represents.ofText?_toText] at held
    exact (represents.eq_iff also.represents).1 (Option.some.inj held).symm
  · rw [(represents.eq_iff also.represents).2 same]
  · exact ⟨event.entries, rfl, represents.lists, event.ascending, fun group inside =>
      ⟨(represents.tidy group inside).1, (represents.tidy group inside).2, event.sorted group inside⟩⟩
  · rw [represents.sortGroups_eq lists, toJson_eq]
  · obtain ⟨decoded, made⟩ := exists_ofJson?_iff.2 texts
    refine ⟨decoded.toJson.toText, ?_, ?_⟩
    · rw [ofText?, read, Option.bind_some, made, Option.map_some]
    · rw [(represents_ofJson made).ofText?_toText, Option.map_some]

/-- A document with repeated keys and values, an empty list and an empty key, and a table of the pairs
that come of it, in another order. -/
theorem text_tells_the_pairs_repeated :
    let event := ((empty.addAll [("b", "y"), ("b", "x"), ("a", "z"), ("", "w")]).discard "c" "x").2
    let fields := [("b", .string "y"), ("a", .array [.string "z", .string "z"]), ("", .string "w"),
      ("c", .array []), ("b", .array [.string "x"])]
    let text := "\x7b\"b\":\"y\",\"a\":[\"z\",\"z\"],\"\":\"w\",\"c\":[],\"b\":[\"x\"]\x7d"
    let canonical := "\x7b\"a\":[\"z\"],\"b\":[\"x\",\"y\"]\x7d"
    Json.read? text.toList = some (.object fields) ∧ (∀ field ∈ fields, Texts field.2) ∧
      event.toJson.toText = canonical ∧ ofText? canonical = some event ∧
      (ofText? text).map (·.toJson.toText) = some canonical ∧
      (ofText? canonical).map (·.toJson.toText) = some canonical ∧
      .object (fieldsOf (sortGroups [("b", ["y", "x"]), ("a", ["z"])])) = event.toJson := by
  intro event fields text canonical
  obtain ⟨pairs, reached⟩ : ∃ pairs, event.Reached pairs :=
    ⟨_, (Reached.new.extend [("b", "y"), ("b", "x"), ("a", "z"), ("", "w")]).discard "c" "x"⟩
  obtain ⟨-, -, sorted, held, again⟩ := text_tells_the_pairs reached
  have texts : ∀ field ∈ fields, Texts field.2 := by
    simp only [fields, List.forall_mem_cons]
    exact ⟨.inl ⟨"y", rfl⟩, .inr ⟨["z", "z"], rfl⟩, .inl ⟨"w", rfl⟩, .inr ⟨[], rfl⟩,
      .inr ⟨["x"], rfl⟩, by simp⟩
  have spelled : text = (Json.object fields).toText := by decide +kernel
  have read : Json.read? text.toList = some (.object fields) := by
    rw [spelled]
    exact Json.read?_toText (numberless_of_texts texts)
  have written : event.toJson.toText = canonical := by decide +kernel
  have decoded : (ofText? text).map (·.toJson.toText) = some canonical := by decide +kernel
  have lists : Lists [("b", ["y", "x"]), ("a", ["z"])] pairs := by
    refine ⟨by decide, by decide, fun pair => ?_⟩
    have entries : event.entries = [("a", ["z"]), ("b", ["x", "y"])] := by decide +kernel
    rw [reached.represents.lists.mem_iff, entries]
    grind
  obtain ⟨same, first, second⟩ := again text fields read texts
  obtain rfl : same = canonical := Option.some.inj (first.symm.trans decoded)
  exact ⟨read, texts, written, written ▸ held, decoded, second, sorted _ lists⟩

end EventRouting.Event
