import EventRouting.Classifier
import Mathlib.Data.Set.Card

set_option autoImplicit false

namespace EventRouting

variable {Destination : Type} [DecidableEq Destination]

/-- The count of a destination, which is zero if it is not there. -/
def countOf (counts : List (Destination × Nat)) (destination : Destination) : Nat :=
  (counts.lookup destination).getD 0

@[simp] theorem countOf_nil (destination : Destination) : countOf [] destination = 0 := rfl

theorem countOf_cons (entry : Destination × Nat) (rest : List (Destination × Nat))
    (destination : Destination) : countOf (entry :: rest) destination =
      if entry.1 = destination then entry.2 else countOf rest destination := by
  obtain ⟨first, count⟩ := entry
  rw [countOf, List.lookup_cons]
  by_cases same : first = destination
  · simp [same]
  · rw [if_neg same, countOf, beq_false_of_ne (Ne.symm same)]

/-- Each destination once, and none with a count of zero. -/
structure TidyCounts (counts : List (Destination × Nat)) : Prop where
  once : (counts.map Prod.fst).Nodup
  positive : ∀ entry ∈ counts, 0 < entry.2

omit [DecidableEq Destination] in
theorem tidyCounts_cons_iff {entry : Destination × Nat} {rest : List (Destination × Nat)} :
    TidyCounts (entry :: rest) ↔ entry.1 ∉ rest.map Prod.fst ∧ 0 < entry.2 ∧ TidyCounts rest := by
  constructor
  · rintro ⟨once, positive⟩
    rw [List.map_cons, List.nodup_cons] at once
    rw [List.forall_mem_cons] at positive
    exact ⟨once.1, positive.1, once.2, positive.2⟩
  · rintro ⟨new, counted, once, positive⟩
    exact ⟨List.nodup_cons.2 ⟨new, once⟩, List.forall_mem_cons.2 ⟨counted, positive⟩⟩

theorem countOf_eq_zero {counts : List (Destination × Nat)} {destination : Destination}
    (absent : destination ∉ counts.map Prod.fst) : countOf counts destination = 0 := by
  induction counts with
  | nil => rfl
  | cons entry rest ih =>
    rw [List.map_cons, List.mem_cons, not_or] at absent
    rw [countOf_cons, if_neg (Ne.symm absent.1), ih absent.2]

theorem countOf_pos_iff {counts : List (Destination × Nat)} (tidy : TidyCounts counts)
    (destination : Destination) :
    0 < countOf counts destination ↔ destination ∈ counts.map Prod.fst := by
  induction counts with
  | nil => simp
  | cons entry rest ih =>
    obtain ⟨-, counted, others⟩ := tidyCounts_cons_iff.1 tidy
    rw [countOf_cons, List.map_cons, List.mem_cons, ← ih others]
    by_cases same : entry.1 = destination
    · simp [same, counted]
    · simp [same, Ne.symm same]

namespace Classifier

theorem countOf_raiseCount (destination other : Destination) (counts : List (Destination × Nat)) :
    countOf (raiseCount destination counts) other =
      countOf counts other + if other = destination then 1 else 0 := by
  induction counts with
  | nil => simp [raiseCount, countOf_cons, eq_comm]
  | cons entry rest ih =>
    rw [raiseCount]
    by_cases same : entry.1 = destination
    · rw [if_pos same, countOf_cons, countOf_cons]
      by_cases here : entry.1 = other
      · simp [here, here.symm.trans same]
      · simp [here, show other ≠ destination from fun equal => here (same.trans equal.symm)]
    · rw [if_neg same, countOf_cons, countOf_cons, ih]
      by_cases here : entry.1 = other
      · simp [here, show other ≠ destination from fun equal => same (here.trans equal)]
      · simp [here]

theorem raiseCount_ne_nil (destination : Destination) (counts : List (Destination × Nat)) :
    raiseCount destination counts ≠ [] := by
  cases counts with
  | nil => simp [raiseCount]
  | cons entry rest =>
    rw [raiseCount]
    split <;> simp

theorem mem_raiseCount_iff {destination other : Destination} {counts : List (Destination × Nat)} :
    other ∈ (raiseCount destination counts).map Prod.fst ↔
      other = destination ∨ other ∈ counts.map Prod.fst := by
  induction counts with
  | nil => simp [raiseCount]
  | cons entry rest ih =>
    rw [raiseCount]
    split
    · next same => simp [same]
    · rw [List.map_cons, List.mem_cons, ih, List.map_cons, List.mem_cons]
      exact or_left_comm

theorem tidyCounts_raiseCount {destination : Destination} {counts : List (Destination × Nat)}
    (tidy : TidyCounts counts) : TidyCounts (raiseCount destination counts) := by
  induction counts with
  | nil => exact ⟨by simp [raiseCount], by simp [raiseCount]⟩
  | cons entry rest ih =>
    obtain ⟨new, counted, others⟩ := tidyCounts_cons_iff.1 tidy
    rw [raiseCount]
    split
    · exact tidyCounts_cons_iff.2 ⟨new, Nat.succ_pos _, others⟩
    · next differ =>
      refine tidyCounts_cons_iff.2 ⟨?_, counted, ih others⟩
      rw [mem_raiseCount_iff, not_or]
      exact ⟨differ, new⟩

theorem lowerCount_sublist (destination : Destination) (counts : List (Destination × Nat)) :
    List.Sublist ((lowerCount destination counts).map Prod.fst) (counts.map Prod.fst) := by
  induction counts with
  | nil => exact List.Sublist.refl _
  | cons entry rest ih =>
    rw [lowerCount]
    split
    · split
      · exact List.sublist_cons_self _ _
      · exact List.Sublist.refl _
    · exact ih.cons_cons _

theorem tidyCounts_lowerCount {destination : Destination} {counts : List (Destination × Nat)}
    (tidy : TidyCounts counts) : TidyCounts (lowerCount destination counts) := by
  refine ⟨(lowerCount_sublist destination counts).nodup tidy.once, ?_⟩
  induction counts with
  | nil => simp [lowerCount]
  | cons entry rest ih =>
    obtain ⟨-, counted, others⟩ := tidyCounts_cons_iff.1 tidy
    rw [lowerCount]
    split
    · split
      · exact others.positive
      · next several =>
        rw [List.forall_mem_cons]
        exact ⟨show 0 < entry.2 - 1 by omega, others.positive⟩
    · rw [List.forall_mem_cons]
      exact ⟨counted, ih others⟩

theorem countOf_lowerCount {counts : List (Destination × Nat)} (tidy : TidyCounts counts)
    (destination other : Destination) : countOf (lowerCount destination counts) other =
      countOf counts other - if other = destination then 1 else 0 := by
  induction counts with
  | nil => simp [lowerCount]
  | cons entry rest ih =>
    obtain ⟨new, counted, others⟩ := tidyCounts_cons_iff.1 tidy
    rw [lowerCount, countOf_cons]
    by_cases same : entry.1 = destination
    · rw [if_pos same]
      by_cases here : entry.1 = other
      · -- The last one goes, and there is no other entry of its destination.
        have gone : countOf rest other = 0 := countOf_eq_zero (here ▸ new)
        rw [if_pos here, if_pos (here.symm.trans same)]
        split
        · omega
        · rw [countOf_cons, if_pos here]
      · have other' : other ≠ destination := fun equal => here (same.trans equal.symm)
        rw [if_neg here, if_neg other', Nat.sub_zero]
        split
        · rfl
        · rw [countOf_cons, if_neg here]
    · rw [if_neg same, countOf_cons, ih others]
      by_cases here : entry.1 = other
      · rw [if_pos here, if_pos here, if_neg fun equal => same (here.trans equal)]
        rfl
      · rw [if_neg here, if_neg here]

variable {registrations : List (Registration Destination)}

theorem count_nil (rule : Rule) (destination : Destination) :
    (⟨[]⟩ : Classifier Destination).count rule destination = 0 := rfl

theorem count_cons (first : Registration Destination) (rest : List (Registration Destination))
    (rule : Rule) (destination : Destination) :
    (⟨first :: rest⟩ : Classifier Destination).count rule destination =
      if first.rule.id = rule.id then countOf first.counts destination
      else (⟨rest⟩ : Classifier Destination).count rule destination := by
  rw [count, count, List.find?_cons]
  by_cases same : first.rule.id = rule.id
  · simp [same, countOf]
  · simp [same]

/-- Each rule once and with a destination, and its destinations tidy. -/
structure Tidy (classifier : Classifier Destination) : Prop where
  once : (classifier.rules.map Rule.id).Nodup
  wanted : ∀ registration ∈ classifier.registrations, registration.counts ≠ []
  counts : ∀ registration ∈ classifier.registrations, TidyCounts registration.counts

omit [DecidableEq Destination] in
theorem tidy_empty : (empty : Classifier Destination).Tidy :=
  ⟨List.nodup_nil, by simp [empty], by simp [empty]⟩

omit [DecidableEq Destination] in
theorem tidy_cons_iff {first : Registration Destination} {rest : List (Registration Destination)} :
    (⟨first :: rest⟩ : Classifier Destination).Tidy ↔
      (∀ other ∈ rest, other.rule.id ≠ first.rule.id) ∧ first.counts ≠ [] ∧
        TidyCounts first.counts ∧ (⟨rest⟩ : Classifier Destination).Tidy := by
  constructor
  · rintro ⟨once, wanted, counts⟩
    simp only [rules, List.map_cons, List.nodup_cons, List.map_map] at once
    rw [List.forall_mem_cons] at wanted counts
    refine ⟨?_, wanted.1, counts.1, by simpa [rules] using once.2, wanted.2, counts.2⟩
    exact fun other inside same => once.1 (List.mem_map.2 ⟨other, inside, same⟩)
  · rintro ⟨new, wanted, counts, once, others, tidy⟩
    refine ⟨?_, List.forall_mem_cons.2 ⟨wanted, others⟩, List.forall_mem_cons.2 ⟨counts, tidy⟩⟩
    simp only [rules, List.map_cons, List.nodup_cons]
    refine ⟨?_, once⟩
    rw [List.map_map]
    intro inside
    obtain ⟨other, member, same⟩ := List.mem_map.1 inside
    exact new other member same

theorem count_eq_zero {rule : Rule} (absent : ∀ other ∈ registrations, other.rule.id ≠ rule.id)
    (destination : Destination) :
    (⟨registrations⟩ : Classifier Destination).count rule destination = 0 := by
  induction registrations with
  | nil => rfl
  | cons first rest ih =>
    rw [List.forall_mem_cons] at absent
    rw [count_cons, if_neg absent.1, ih absent.2]

theorem count_inc (classifier : Classifier Destination) (rule other : Rule)
    (destination wanted : Destination) : (classifier.inc rule destination).count other wanted =
      classifier.count other wanted + if other.id = rule.id ∧ wanted = destination then 1 else 0 := by
  obtain ⟨registrations⟩ := classifier
  rw [inc]
  induction registrations with
  | nil =>
    rw [raise, count_cons, count_nil, countOf_cons]
    by_cases same : rule.id = other.id
    · simp [same, eq_comm]
    · simp [same, Ne.symm same]
  | cons first rest ih =>
    rw [raise]
    by_cases same : first.rule.id = rule.id
    · rw [if_pos same, count_cons, count_cons, countOf_raiseCount]
      by_cases here : first.rule.id = other.id
      · simp [here, here.symm.trans same]
      · simp [here, show other.id ≠ rule.id from fun equal => here (same.trans equal.symm)]
    · rw [if_neg same, count_cons, count_cons, ih]
      by_cases here : first.rule.id = other.id
      · simp [here, show other.id ≠ rule.id from fun equal => same (here.trans equal)]
      · simp [here]

theorem mem_raise {rule : Rule} {destination : Destination} {registration : Registration Destination}
    (inside : registration ∈ raise rule destination registrations) :
    registration.rule = rule ∨ ∃ other ∈ registrations, other.rule = registration.rule := by
  induction registrations with
  | nil =>
    rw [raise, List.mem_singleton] at inside
    exact Or.inl (congrArg Registration.rule inside)
  | cons first rest ih =>
    rw [raise] at inside
    split at inside
    · rcases List.mem_cons.1 inside with rfl | inside
      · exact Or.inr ⟨first, List.mem_cons_self, rfl⟩
      · exact Or.inr ⟨registration, List.mem_cons_of_mem _ inside, rfl⟩
    · rcases List.mem_cons.1 inside with rfl | inside
      · exact Or.inr ⟨registration, List.mem_cons_self, rfl⟩
      · refine (ih inside).imp_right ?_
        rintro ⟨other, member, same⟩
        exact ⟨other, List.mem_cons_of_mem _ member, same⟩

theorem Tidy.inc {classifier : Classifier Destination} (tidy : classifier.Tidy) (rule : Rule)
    (destination : Destination) : (classifier.inc rule destination).Tidy := by
  obtain ⟨registrations⟩ := classifier
  rw [Classifier.inc]
  induction registrations with
  | nil =>
    refine tidy_cons_iff.2 ⟨by simp, by simp, ?_, tidy_empty⟩
    exact ⟨by simp, by simp⟩
  | cons first rest ih =>
    obtain ⟨new, wanted, counts, others⟩ := tidy_cons_iff.1 tidy
    rw [raise]
    split
    · refine tidy_cons_iff.2 ⟨new, ?_, tidyCounts_raiseCount counts, others⟩
      exact raiseCount_ne_nil destination first.counts
    · next differ =>
      refine tidy_cons_iff.2 ⟨?_, wanted, counts, ih others⟩
      intro other inside
      rcases mem_raise inside with same | ⟨old, member, same⟩
      · exact same ▸ Ne.symm differ
      · exact same ▸ new old member

/-- Where the rule stands, what its lowered counts make of its registration; elsewhere nothing changes. -/
theorem lower_cons (rule : Rule) (destination : Destination) (first : Registration Destination)
    (rest : List (Registration Destination)) : lower rule destination (first :: rest) =
      if first.rule.id = rule.id then
        if lowerCount destination first.counts = [] then rest
        else { first with counts := lowerCount destination first.counts } :: rest
      else first :: lower rule destination rest := by
  rw [lower]
  split
  · cases lowerCount destination first.counts <;> simp
  · rfl

theorem mem_lower {rule : Rule} {destination : Destination} {registration : Registration Destination}
    (inside : registration ∈ lower rule destination registrations) :
    ∃ other ∈ registrations, other.rule = registration.rule := by
  induction registrations with
  | nil => simp [lower] at inside
  | cons first rest ih =>
    rw [lower_cons] at inside
    split at inside
    · split at inside
      · exact ⟨registration, List.mem_cons_of_mem _ inside, rfl⟩
      · rcases List.mem_cons.1 inside with rfl | inside
        · exact ⟨first, List.mem_cons_self, rfl⟩
        · exact ⟨registration, List.mem_cons_of_mem _ inside, rfl⟩
    · rcases List.mem_cons.1 inside with rfl | inside
      · exact ⟨registration, List.mem_cons_self, rfl⟩
      · obtain ⟨other, member, same⟩ := ih inside
        exact ⟨other, List.mem_cons_of_mem _ member, same⟩

theorem Tidy.dec {classifier : Classifier Destination} (tidy : classifier.Tidy) (rule : Rule)
    (destination : Destination) : (classifier.dec rule destination).Tidy := by
  obtain ⟨registrations⟩ := classifier
  rw [Classifier.dec]
  induction registrations with
  | nil => exact tidy
  | cons first rest ih =>
    obtain ⟨new, wanted, counts, others⟩ := tidy_cons_iff.1 tidy
    dsimp only
    rw [lower_cons]
    split
    · split
      · exact others
      · next left => exact tidy_cons_iff.2 ⟨new, left, tidyCounts_lowerCount counts, others⟩
    · refine tidy_cons_iff.2 ⟨?_, wanted, counts, ih others⟩
      intro other inside
      obtain ⟨old, member, same⟩ := mem_lower inside
      rw [← same]
      exact new old member

theorem Tidy.count_dec {classifier : Classifier Destination} (tidy : classifier.Tidy) (rule other : Rule)
    (destination wanted : Destination) : (classifier.dec rule destination).count other wanted =
      classifier.count other wanted - if other.id = rule.id ∧ wanted = destination then 1 else 0 := by
  obtain ⟨registrations⟩ := classifier
  rw [Classifier.dec]
  induction registrations with
  | nil => simp [lower, count_nil]
  | cons first rest ih =>
    obtain ⟨new, -, counts, others⟩ := tidy_cons_iff.1 tidy
    have lowered := countOf_lowerCount counts destination wanted
    dsimp only
    rw [lower_cons, count_cons]
    by_cases same : first.rule.id = rule.id
    · rw [if_pos same]
      by_cases here : first.rule.id = other.id
      · have own : other.id = rule.id := here.symm.trans same
        rw [if_pos here]
        simp only [own, true_and]
        rw [← lowered]
        split
        · next none =>
          rw [none, countOf_nil]
          exact count_eq_zero (here ▸ new) wanted
        · rw [count_cons, if_pos here]
      · have apart : other.id ≠ rule.id := fun equal => here (same.trans equal.symm)
        simp only [if_neg here, apart, false_and, if_false, Nat.sub_zero]
        split
        · rfl
        · rw [count_cons, if_neg here]
    · rw [if_neg same, count_cons, ih others]
      by_cases here : first.rule.id = other.id
      · have apart : other.id ≠ rule.id := fun equal => same (here.trans equal)
        simp [here, apart]
      · simp [here]

theorem Tidy.count_pos_iff {classifier : Classifier Destination} (tidy : classifier.Tidy) (rule : Rule)
    (destination : Destination) : 0 < classifier.count rule destination ↔
      ∃ registration ∈ classifier.registrations,
        registration.rule.id = rule.id ∧ destination ∈ registration.destinations := by
  obtain ⟨registrations⟩ := classifier
  induction registrations with
  | nil => simp [count_nil]
  | cons first rest ih =>
    obtain ⟨new, -, counts, others⟩ := tidy_cons_iff.1 tidy
    rw [count_cons, List.exists_mem_cons_iff]
    by_cases here : first.rule.id = rule.id
    · rw [if_pos here, countOf_pos_iff counts]
      constructor
      · exact fun inside => Or.inl ⟨here, inside⟩
      · rintro (⟨-, inside⟩ | ⟨other, member, same, -⟩)
        · exact inside
        · exact absurd (same.trans here.symm) (new other member)
    · rw [if_neg here, ih others]
      simp [here]

/-- A rule is registered exactly if some destination counts for it. -/
theorem Tidy.registered_iff {classifier : Classifier Destination} (tidy : classifier.Tidy) (rule : Rule) :
    rule.id ∈ classifier.rules.map Rule.id ↔
      ∃ destination, 0 < classifier.count rule destination := by
  rw [rules, List.map_map, List.mem_map]
  constructor
  · rintro ⟨registration, inside, same⟩
    obtain ⟨entry, member⟩ := List.exists_mem_of_ne_nil _ (tidy.wanted registration inside)
    refine ⟨entry.1, (tidy.count_pos_iff rule entry.1).2 ⟨registration, inside, same, ?_⟩⟩
    exact List.mem_map_of_mem member
  · rintro ⟨destination, counted⟩
    obtain ⟨registration, inside, same, -⟩ := (tidy.count_pos_iff rule destination).1 counted
    exact ⟨registration, inside, same⟩

end Classifier

end EventRouting
