import Mathlib.Data.List.Nodup
import Mathlib.Data.Set.Card
import EventRouting.Event

set_option autoImplicit false

namespace EventRouting.Event

variable {event other : Event} {key value : String} {pairs others : Set Attribute}

theorem lookup_adjust {change : List String → List String}
    {kept : ∀ values : List String, values.Pairwise (· < ·) → (change values).Pairwise (· < ·)}
    (wanted : String) :
    (event.adjust key change kept).entries.lookup wanted =
      if wanted = key then some (change (event.values key)) else event.entries.lookup wanted :=
  Ascending.lookup_adjust event.ascending

theorem lookup_remove (wanted : String) :
    (event.remove key).entries.lookup wanted = if wanted = key then none else event.entries.lookup wanted :=
  Ascending.lookup_filter

theorem lookup_add (named : key ≠ "") (wanted : String) :
    (event.add key value).2.entries.lookup wanted =
      if wanted = key then some (Ascending.insert value (event.values key))
      else event.entries.lookup wanted := by
  rw [add, if_neg named]
  dsimp only
  rw [lookup_adjust]

/-- The values that are left, if there are any. -/
theorem lookup_discard (wanted : String) :
    (event.discard key value).2.entries.lookup wanted =
      if wanted = key then ((event.entries.lookup key).map (·.filter (· ≠ value))).filter (!·.isEmpty)
      else event.entries.lookup wanted := by
  rw [discard]
  cases found : event.entries.lookup key with
  | none =>
    by_cases own : wanted = key
    · simp [own, found]
    · simp [own]
  | some values =>
    dsimp only
    split
    · next gone =>
      rw [lookup_remove, Option.map_some, Option.filter_some, gone]
      rfl
    · next left =>
      have some : (!(values.filter (· ≠ value)).isEmpty) = true := by
        rw [Bool.not_eq_true', ← Bool.not_eq_true]
        exact left
      rw [lookup_adjust, Option.map_some, Option.filter_some, if_pos some, Event.values, found,
        Option.getD_some]

theorem lookup_clear (wanted : String) :
    (event.clear key).2.entries.lookup wanted =
      if wanted = key then none else event.entries.lookup wanted :=
  lookup_remove wanted

theorem values_add (named : key ≠ "") (wanted : String) :
    (event.add key value).2.values wanted =
      if wanted = key then Ascending.insert value (event.values key) else event.values wanted := by
  rw [values, lookup_add named]
  split
  · rfl
  · rfl

theorem values_discard (wanted : String) :
    (event.discard key value).2.values wanted =
      if wanted = key then (event.values key).filter (· ≠ value) else event.values wanted := by
  rw [values, lookup_discard]
  split
  · rw [values]
    cases event.entries.lookup key with
    | none => rfl
    | some values =>
      rw [Option.map_some, Option.filter_some, Option.getD_some]
      split
      · rfl
      · next gone =>
        rw [Bool.not_eq_true, Bool.not_eq_false', List.isEmpty_iff] at gone
        rw [gone]
        rfl
  · rfl

theorem values_clear (wanted : String) :
    (event.clear key).2.values wanted = if wanted = key then [] else event.values wanted := by
  rw [values, lookup_clear]
  split
  · rfl
  · rfl

theorem mem_entries_iff {values : List String} :
    (key, values) ∈ event.entries ↔ event.entries.lookup key = some values := by
  constructor
  · exact Ascending.lookup_of_mem event.ascending
  · rw [List.lookup_eq_some_iff]
    rintro ⟨front, back, shape, -⟩
    simp [shape]

theorem mem_values_iff :
    value ∈ event.values key ↔ ∃ values, (key, values) ∈ event.entries ∧ value ∈ values := by
  simp only [mem_entries_iff, values]
  cases event.entries.lookup key with
  | none => simp
  | some values => simp

theorem contains_eq (event : Event) (key value : String) :
    event.contains key value = (event.values key).contains value := by
  rw [contains, values]
  cases event.entries.lookup key <;> rfl

theorem ascending_values (event : Event) (key : String) : (event.values key).Pairwise (· < ·) := by
  rw [values]
  cases found : event.entries.lookup key with
  | none => exact .nil
  | some values => exact event.sorted _ (mem_entries_iff.2 found)

/-- The event has these pairs, and no key in vain. -/
structure Represents (event : Event) (pairs : Set Attribute) : Prop where
  mem_iff : ∀ key value, value ∈ event.values key ↔ (key, value) ∈ pairs
  filled : ∀ key, event.entries.lookup key ≠ some []
  named : ∀ pair ∈ pairs, pair.1 ≠ ""

/-- The pairs with a key that is not empty. -/
def withKey (pairs : Set Attribute) : Set Attribute := {pair ∈ pairs | pair.1 ≠ ""}

theorem represents_empty : empty.Represents ∅ where
  mem_iff key value := by simp [empty, values]
  filled key := by simp [empty]
  named pair inside := absurd inside (Set.notMem_empty pair)

theorem Represents.congr (represents : event.Represents pairs)
    (same : ∀ pair, pair ∈ others ↔ pair ∈ pairs) :
    event.Represents others :=
  Set.ext same ▸ represents

theorem insert_ne_nil (value : String) (values : List String) : Ascending.insert value values ≠ [] := by
  intro none
  have inside : value ∈ Ascending.insert value values := Ascending.mem_insert.2 (Or.inl rfl)
  rw [none] at inside
  contradiction

theorem mem_withKey_singleton {pair : Attribute} (named : key ≠ "") :
    pair ∈ withKey {(key, value)} ↔ pair = (key, value) := by
  constructor
  · exact And.left
  · rintro rfl
    exact ⟨rfl, named⟩

theorem Represents.add (represents : event.Represents pairs) (key value : String) :
    (event.add key value).2.Represents (pairs ∪ withKey {(key, value)}) := by
  by_cases empty : key = ""
  · have same : pairs ∪ withKey {(key, value)} = pairs := by
      apply Set.union_eq_self_of_subset_right
      rintro pair ⟨rfl, filled⟩
      exact absurd empty filled
    rw [same, Event.add, if_pos empty]
    exact represents
  · constructor
    · intro wanted sought
      rw [values_add empty, Set.mem_union, mem_withKey_singleton empty, Prod.mk_inj, or_comm]
      by_cases own : wanted = key
      · simp only [own, if_true, Ascending.mem_insert, represents.mem_iff, true_and]
      · simp only [own, if_false, represents.mem_iff, false_and, false_or]
    · intro wanted
      rw [lookup_add empty]
      split
      · intro none
        exact insert_ne_nil value _ (Option.some.inj none)
      · exact represents.filled wanted
    · rintro pair (inside | inside)
      · exact represents.named pair inside
      · exact inside.2

theorem Represents.discard (represents : event.Represents pairs) (key value : String) :
    (event.discard key value).2.Represents (pairs \ {(key, value)}) := by
  constructor
  · intro wanted sought
    rw [values_discard, Set.mem_sdiff, Set.mem_singleton_iff, Prod.mk_inj]
    by_cases own : wanted = key
    · simp [own, represents.mem_iff]
    · simp [own, represents.mem_iff]
  · intro wanted
    rw [lookup_discard]
    split
    · intro none
      rw [Option.filter_eq_some_iff] at none
      exact absurd none.2 (by simp)
    · exact represents.filled wanted
  · exact fun pair inside => represents.named pair inside.1

theorem Represents.clear (represents : event.Represents pairs) (key : String) :
    (event.clear key).2.Represents {pair ∈ pairs | pair.1 ≠ key} := by
  constructor
  · intro wanted sought
    rw [values_clear, Set.mem_ofPred_eq]
    by_cases own : wanted = key
    · simp [own]
    · simp [own, represents.mem_iff]
  · intro wanted
    rw [lookup_clear]
    split
    · simp
    · exact represents.filled wanted
  · exact fun pair inside => represents.named pair inside.1

theorem Represents.addAll (represents : event.Represents pairs) (added : List Attribute) :
    (event.addAll added).Represents (pairs ∪ withKey {pair | pair ∈ added}) := by
  induction added generalizing event pairs with
  | nil => exact represents.congr (by simp [withKey])
  | cons pair rest ih =>
    apply (ih (represents.add pair.1 pair.2)).congr
    intro other
    simp only [withKey, Set.mem_union, Set.mem_ofPred_eq, Set.mem_singleton_iff, List.mem_cons]
    tauto

theorem represents_ofList (added : List Attribute) :
    (ofList added).Represents (withKey {pair | pair ∈ added}) :=
  (represents_empty.addAll added).congr (by simp)

theorem Represents.mem_items_iff (represents : event.Represents pairs) (pair : Attribute) :
    pair ∈ event.items ↔ pair ∈ pairs := by
  have listed := represents.mem_iff pair.1 pair.2
  rw [mem_values_iff] at listed
  rw [← listed, items, List.mem_flatMap]
  constructor
  · rintro ⟨entry, inside, member⟩
    obtain ⟨value, among, rfl⟩ := List.mem_map.1 member
    exact ⟨entry.2, inside, among⟩
  · rintro ⟨values, inside, among⟩
    exact ⟨(pair.1, values), inside, List.mem_map.2 ⟨pair.2, among, rfl⟩⟩

theorem Represents.contains_iff (represents : event.Represents pairs) (key value : String) :
    event.contains key value = true ↔ (key, value) ∈ pairs := by
  rw [contains_eq, List.contains_iff_mem, represents.mem_iff]

theorem Represents.union (represents : event.Represents pairs) (also : other.Represents others) :
    (event.union other).Represents (pairs ∪ others) := by
  apply (represents.addAll other.items).congr
  intro pair
  simp only [withKey, Set.mem_union, Set.mem_ofPred_eq, also.mem_items_iff]
  exact or_congr_right (and_iff_left_of_imp (also.named pair)).symm

theorem Represents.difference (represents : event.Represents pairs) (also : other.Represents others) :
    (event.difference other).Represents (pairs \ others) := by
  apply (represents_ofList _).congr
  intro pair
  have apart : (!other.contains pair.1 pair.2) = true ↔ pair ∉ others := by
    rw [Bool.not_eq_true', ← Bool.not_eq_true, also.contains_iff]
  simp only [withKey, Set.mem_sdiff, Set.mem_ofPred_eq, List.mem_filter, represents.mem_items_iff, apart]
  exact (and_iff_left_of_imp fun inside => represents.named pair inside.1).symm

theorem Represents.lookup_eq_none_iff (represents : event.Represents pairs) (key : String) :
    event.entries.lookup key = none ↔ ∀ value, (key, value) ∉ pairs := by
  have listed := represents.mem_iff key
  simp only [← listed, values]
  cases found : event.entries.lookup key with
  | none => simp
  | some values =>
    have some : values ≠ [] := fun none => represents.filled key (found.trans (congrArg Option.some none))
    obtain ⟨value, inside⟩ := List.exists_mem_of_ne_nil values some
    exact iff_of_false (by simp) fun none => none value inside

theorem Represents.containsKey_iff (represents : event.Represents pairs) (key : String) :
    event.containsKey key = true ↔ ∃ value, (key, value) ∈ pairs := by
  rw [containsKey, Option.isSome_iff_ne_none, ne_eq, represents.lookup_eq_none_iff]
  simp only [not_forall, not_not]

theorem Represents.mem_keys_iff (represents : event.Represents pairs) (key : String) :
    key ∈ event.keys ↔ ∃ value, (key, value) ∈ pairs := by
  rw [← represents.containsKey_iff]
  exact Ascending.mem_keys_iff

theorem Represents.containsWhere_some_iff (represents : event.Represents pairs) (key : String)
    (test : String → Bool) :
    event.containsWhere (some key) test = true ↔
      ∃ value, (key, value) ∈ pairs ∧ test value = true := by
  rw [containsWhere, List.any_eq_true]
  simp only [represents.mem_iff]

theorem Represents.containsWhere_none_iff (represents : event.Represents pairs) (test : String → Bool) :
    event.containsWhere none test = true ↔ ∃ pair ∈ pairs, test pair.2 = true := by
  simp only [containsWhere, List.any_eq_true, ← represents.mem_items_iff, items,
    List.mem_flatMap, List.mem_map]
  constructor
  · rintro ⟨entry, inside, value, among, passes⟩
    exact ⟨(entry.1, value), ⟨entry, inside, value, among, rfl⟩, passes⟩
  · rintro ⟨_, ⟨entry, inside, value, among, rfl⟩, passes⟩
    exact ⟨entry, inside, value, among, passes⟩

theorem Represents.isEmpty_iff (represents : event.Represents pairs) :
    event.isEmpty = true ↔ pairs = ∅ := by
  rw [isEmpty, List.isEmpty_iff, Set.eq_empty_iff_forall_notMem]
  constructor
  · intro none pair inside
    rw [← represents.mem_items_iff, items, none] at inside
    contradiction
  · intro none
    rw [List.eq_nil_iff_forall_not_mem]
    rintro ⟨key, values⟩ inside
    have missing := (represents.lookup_eq_none_iff key).2 fun value => none (key, value)
    rw [mem_entries_iff.1 inside] at missing
    contradiction

theorem nodup_keys (event : Event) : event.keys.Nodup := event.ascending.nodup

theorem Represents.size_eq (represents : event.Represents pairs) :
    (event.size : ℕ∞) = (Prod.fst '' pairs).encard := by
  have same : Prod.fst '' pairs = (event.keys.toFinset : Set String) := by
    ext key
    rw [Finset.mem_coe, List.mem_toFinset, represents.mem_keys_iff]
    simp
  rw [same, Set.encard_coe_eq_coe_finsetCard, List.toFinset_card_of_nodup event.nodup_keys, keys,
    List.length_map, size]

theorem nodup_items (event : Event) : event.items.Nodup := by
  rw [items, List.nodup_flatMap]
  constructor
  · intro entry inside
    exact (event.sorted entry inside).nodup.map (Prod.mk_right_injective _)
  · have apart := List.pairwise_map.1 event.ascending
    refine apart.imp fun {first second} less => ?_
    intro pair left right
    obtain ⟨_, -, rfl⟩ := List.mem_map.1 left
    obtain ⟨_, -, same⟩ := List.mem_map.1 right
    exact String.lt_irrefl _ ((Prod.mk_inj.1 same).1 ▸ less)

theorem entries_eq (event : Event) : event.entries = event.keys.map fun key => (key, event.values key) := by
  rw [keys, List.map_map]
  calc event.entries = event.entries.map id := (List.map_id _).symm
    _ = event.entries.map fun entry => (entry.1, event.values entry.1) := by
      apply List.map_congr_left
      rintro ⟨key, values⟩ inside
      rw [Event.values, mem_entries_iff.1 inside]
      rfl

/-- Events with the same pairs are equal. -/
theorem Represents.eq_iff (represents : event.Represents pairs) (also : other.Represents others) :
    event = other ↔ pairs = others := by
  constructor
  · rintro rfl
    ext pair
    rw [← represents.mem_items_iff, also.mem_items_iff]
  · rintro rfl
    have sameKeys : event.keys = other.keys := by
      apply event.ascending.eq_of_mem_iff other.ascending
      intro key
      exact (represents.mem_keys_iff key).trans (also.mem_keys_iff key).symm
    have sameValues : event.values = other.values := by
      funext key
      apply (event.ascending_values key).eq_of_mem_iff (other.ascending_values key)
      intro value
      exact (represents.mem_iff key value).trans (also.mem_iff key value).symm
    have same : event.entries = other.entries := by
      rw [event.entries_eq, other.entries_eq, sameKeys, sameValues]
    cases event
    cases other
    cases same
    rfl

theorem Represents.add_iff (represents : event.Represents pairs) (key value : String) :
    (event.add key value).1 = true ↔ (event.add key value).2 ≠ event := by
  rw [ne_eq, (represents.add key value).eq_iff represents, Set.union_eq_left]
  by_cases empty : key = ""
  · have none : withKey {(key, value)} ⊆ pairs := by
      rintro pair ⟨rfl, named⟩
      exact absurd empty named
    rw [Event.add, if_pos empty]
    exact iff_of_false (by simp) (not_not_intro none)
  · have subset : withKey {(key, value)} ⊆ pairs ↔ (key, value) ∈ pairs :=
      ⟨fun all => all ((mem_withKey_singleton empty).2 rfl), fun inside pair among =>
        (mem_withKey_singleton empty).1 among ▸ inside⟩
    rw [subset, Event.add, if_neg empty, ← represents.mem_iff, ← List.contains_iff_mem,
      Bool.not_eq_true, Bool.not_eq_true']

theorem discard_fst (event : Event) (key value : String) :
    (event.discard key value).1 = event.contains key value := by
  rw [discard, contains]
  cases event.entries.lookup key <;> rfl

theorem Represents.discard_iff (represents : event.Represents pairs) (key value : String) :
    (event.discard key value).1 = true ↔ (event.discard key value).2 ≠ event := by
  rw [ne_eq, (represents.discard key value).eq_iff represents, discard_fst, represents.contains_iff,
    sdiff_eq_left, Set.disjoint_singleton_right, not_not]

theorem Represents.clear_iff (represents : event.Represents pairs) (key : String) :
    (event.clear key).1 = true ↔ (event.clear key).2 ≠ event := by
  have cleared : (event.clear key).1 = event.containsKey key := rfl
  rw [ne_eq, (represents.clear key).eq_iff represents, cleared, represents.containsKey_iff,
    Set.sep_eq_self_iff_mem_true, not_forall]
  constructor
  · rintro ⟨value, inside⟩
    exact ⟨(key, value), fun apart => apart inside rfl⟩
  · rintro ⟨pair, same⟩
    rw [Classical.not_imp, not_not] at same
    exact ⟨pair.2, same.2 ▸ same.1⟩

end EventRouting.Event
