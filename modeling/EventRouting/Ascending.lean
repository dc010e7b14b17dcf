set_option autoImplicit false

namespace EventRouting.Ascending

/-- Puts a text in its place unless it is there already. -/
def insert (new : String) : List String → List String
  | [] => [new]
  | first :: rest =>
    if new < first then new :: first :: rest
    else if new = first then first :: rest
    else first :: insert new rest

def insertAll (texts set : List String) : List String :=
  texts.foldl (fun set text => insert text set) set

/-- Changes the value under `key`, which is `absent` if there is none yet. -/
def adjust {α : Type} (key : String) (absent : α) (change : α → α) :
    List (String × α) → List (String × α)
  | [] => [(key, change absent)]
  | entry :: rest =>
    if key < entry.1 then (key, change absent) :: entry :: rest
    else if key = entry.1 then (key, change entry.2) :: rest
    else entry :: adjust key absent change rest

theorem mem_insert {new text : String} {set : List String} :
    text ∈ insert new set ↔ text = new ∨ text ∈ set := by
  induction set with
  | nil => simp [insert]
  | cons first rest ih =>
    rw [insert]
    split
    · exact List.mem_cons
    · split
      · next same => simp [same]
      · rw [List.mem_cons, ih, List.mem_cons]
        exact or_left_comm

theorem mem_insertAll {texts set : List String} {text : String} :
    text ∈ insertAll texts set ↔ text ∈ texts ∨ text ∈ set := by
  induction texts generalizing set with
  | nil => simp [insertAll]
  | cons first rest ih =>
    rw [insertAll, List.foldl_cons, ← insertAll, ih, mem_insert, List.mem_cons, or_assoc]
    exact or_left_comm

theorem ascending_insert {new : String} {set : List String}
    (ascending : set.Pairwise (· < ·)) : (insert new set).Pairwise (· < ·) := by
  induction set with
  | nil => simp [insert]
  | cons first rest ih =>
    obtain ⟨above, tail⟩ := List.pairwise_cons.1 ascending
    rw [insert]
    split
    · next before =>
      refine List.pairwise_cons.2 ⟨fun text member => ?_, ascending⟩
      rcases List.mem_cons.1 member with rfl | later
      · exact before
      · exact String.lt_trans before (above text later)
    · split
      · exact ascending
      · next notBefore differ =>
        refine List.pairwise_cons.2 ⟨fun text member => ?_, ih tail⟩
        rcases mem_insert.1 member with rfl | later
        · exact Decidable.byContradiction fun notAfter =>
            differ (String.le_antisymm (String.not_lt.1 notAfter) (String.not_lt.1 notBefore))
        · exact above text later

theorem ascending_insertAll {texts set : List String} (ascending : set.Pairwise (· < ·)) :
    (insertAll texts set).Pairwise (· < ·) := by
  induction texts generalizing set with
  | nil => exact ascending
  | cons first rest ih => exact ih (ascending_insert ascending)

section

variable {α : Type} {key other : String} {absent : α} {change : α → α} {entries : List (String × α)}

theorem keys_adjust :
    (adjust key absent change entries).map Prod.fst = insert key (entries.map Prod.fst) := by
  induction entries with
  | nil => rfl
  | cons entry rest ih =>
    rw [adjust, List.map_cons, insert]
    split
    · rfl
    · split
      · next same => rw [List.map_cons, same]
      · rw [List.map_cons, ih]

theorem ascending_adjust (ascending : (entries.map Prod.fst).Pairwise (· < ·)) :
    ((adjust key absent change entries).map Prod.fst).Pairwise (· < ·) := by
  rw [keys_adjust]
  exact ascending_insert ascending

/-- What holds of all values is kept where the changed one has it too. -/
theorem forall_adjust {property : α → Prop} (every : ∀ entry ∈ entries, property entry.2)
    (fresh : property (change absent)) (kept : ∀ value, property value → property (change value)) :
    ∀ entry ∈ adjust key absent change entries, property entry.2 := by
  induction entries with
  | nil => exact List.forall_mem_singleton.2 fresh
  | cons first rest ih =>
    rw [List.forall_mem_cons] at every
    rw [adjust]
    split
    · exact List.forall_mem_cons.2 ⟨fresh, List.forall_mem_cons.2 every⟩
    · split
      · exact List.forall_mem_cons.2 ⟨kept _ every.1, every.2⟩
      · exact List.forall_mem_cons.2 ⟨every.1, ih every.2⟩

theorem lookup_eq_none_of_lt (below : ∀ text ∈ entries.map Prod.fst, key < text) :
    entries.lookup key = none := by
  rw [List.lookup_eq_none_iff]
  intro entry inside
  have less := below _ (List.mem_map_of_mem inside)
  exact bne_iff_ne.2 fun same => String.lt_irrefl _ (same ▸ less)

/-- Changing one value leaves every other one alone. -/
theorem lookup_adjust (ascending : (entries.map Prod.fst).Pairwise (· < ·)) :
    (adjust key absent change entries).lookup other =
      if other = key then some (change ((entries.lookup key).getD absent))
      else entries.lookup other := by
  induction entries with
  | nil =>
    by_cases own : other = key
    · simp [adjust, own]
    · simp [adjust, own]
  | cons entry rest ih =>
    obtain ⟨first, value⟩ := entry
    obtain ⟨above, tail⟩ := List.pairwise_cons.1 ascending
    rw [adjust]
    split
    · next before =>
      have none : ((first, value) :: rest).lookup key = none := by
        refine lookup_eq_none_of_lt fun text inside => ?_
        rcases List.mem_cons.1 inside with rfl | inside
        · exact before
        · exact String.lt_trans before (above text inside)
      rw [none, List.lookup_cons]
      by_cases own : other = key
      · simp [own]
      · simp [own, beq_false_of_ne own]
    · split
      · next same =>
        obtain rfl : key = first := same
        rw [List.lookup_cons, List.lookup_cons, List.lookup_cons]
        by_cases own : other = key
        · simp [own]
        · simp [own, beq_false_of_ne own]
      · next differ =>
        have apart : (key == first) = false := beq_false_of_ne differ
        rw [List.lookup_cons, List.lookup_cons, List.lookup_cons, ih tail, apart]
        by_cases own : other = key
        · simp [own, apart]
        · simp [own]

theorem lookup_filter :
    (entries.filter (·.1 ≠ key)).lookup other = if other = key then none else entries.lookup other := by
  induction entries with
  | nil => simp
  | cons entry rest ih =>
    obtain ⟨first, value⟩ := entry
    by_cases gone : first = key
    · rw [List.filter_cons_of_neg (by simp [gone]), ih, List.lookup_cons]
      by_cases own : other = key
      · rw [if_pos own, if_pos own]
      · rw [if_neg own, if_neg own, beq_false_of_ne fun same => own (same.trans gone)]
    · rw [List.filter_cons_of_pos (by simp [gone]), List.lookup_cons, List.lookup_cons, ih]
      by_cases here : other = first
      · simp [here, gone]
      · simp [beq_false_of_ne here]

theorem mem_keys_iff : key ∈ entries.map Prod.fst ↔ (entries.lookup key).isSome = true := by
  rw [List.lookup_isSome_iff, List.mem_map]
  simp only [beq_iff_eq, @eq_comm String key]

theorem lookup_of_mem {value : α} (ascending : (entries.map Prod.fst).Pairwise (· < ·))
    (inside : (key, value) ∈ entries) : entries.lookup key = some value := by
  induction entries with
  | nil => contradiction
  | cons entry rest ih =>
    obtain ⟨above, tail⟩ := List.pairwise_cons.1 ascending
    rcases List.mem_cons.1 inside with rfl | inside
    · exact List.lookup_cons_self
    · have less := above key (List.mem_map_of_mem inside)
      have apart : (key == entry.1) = false :=
        beq_false_of_ne fun same => String.lt_irrefl _ (same ▸ less)
      rw [List.lookup_cons, apart]
      exact ih tail inside

end

end EventRouting.Ascending
