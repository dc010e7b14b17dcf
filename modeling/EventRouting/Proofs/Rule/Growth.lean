import EventRouting.Proofs.Event.Pairs
import EventRouting.Proofs.Rule.Judging

set_option autoImplicit false

namespace EventRouting

namespace Event

variable {event other later : Event} {key value : String}

/-- The other event has the keys of this one, and under each of them its values. -/
def Within (event other : Event) : Prop :=
  ∀ key values, event.entries.lookup key = some values →
    ∃ more, other.entries.lookup key = some more ∧ values ⊆ more

theorem Within.refl (event : Event) : event.Within event :=
  fun _ values found => ⟨values, found, List.Subset.refl _⟩

theorem Within.trans (first : event.Within other) (second : other.Within later) : event.Within later := by
  intro key values found
  obtain ⟨more, foundMore, subset⟩ := first key values found
  obtain ⟨most, foundMost, also⟩ := second key more foundMore
  exact ⟨most, foundMost, List.Subset.trans subset also⟩

theorem within_add (event : Event) (key value : String) : event.Within (event.add key value).2 := by
  by_cases empty : key = ""
  · rw [add, if_pos empty]
    exact .refl event
  · intro wanted values found
    rw [lookup_add empty]
    by_cases own : wanted = key
    · rw [if_pos own]
      refine ⟨_, rfl, fun other inside => Ascending.mem_insert.2 (Or.inr ?_)⟩
      rwa [Event.values, ← own, found, Option.getD_some]
    · rw [if_neg own]
      exact ⟨values, found, List.Subset.refl _⟩

theorem within_addAll (event : Event) (pairs : List Attribute) : event.Within (event.addAll pairs) := by
  induction pairs generalizing event with
  | nil => exact .refl event
  | cons pair rest ih => exact (within_add event pair.1 pair.2).trans (ih _)

theorem within_union (event other : Event) : event.Within (event.union other) := within_addAll event _

/-- What calls make of an event that add one pair, or several at a time. -/
inductive Grown (event : Event) : Event → Prop where
  | same : Grown event event
  | add {later : Event} (before : Grown event later) (key value : String) :
    Grown event (later.add key value).2
  | extend {later : Event} (before : Grown event later) (pairs : List Attribute) :
    Grown event (later.addAll pairs)

theorem Grown.within (grown : event.Grown later) : event.Within later := by
  induction grown with
  | same => exact .refl event
  | add _ key value ih => exact ih.trans (within_add _ key value)
  | extend _ pairs ih => exact ih.trans (within_addAll _ pairs)

theorem Within.containsKey (within : event.Within other) (present : event.containsKey key = true) :
    other.containsKey key = true := by
  obtain ⟨values, found⟩ := Option.isSome_iff_exists.1 present
  obtain ⟨more, foundMore, -⟩ := within key values found
  exact Option.isSome_iff_exists.2 ⟨more, foundMore⟩

theorem Within.mem_entries (within : event.Within other) {values : List String}
    (inside : (key, values) ∈ event.entries) :
    ∃ more, (key, more) ∈ other.entries ∧ values ⊆ more := by
  obtain ⟨more, found, subset⟩ := within key values (mem_entries_iff.1 inside)
  exact ⟨more, mem_entries_iff.2 found, subset⟩

theorem Within.mem_keys (within : event.Within other) (inside : key ∈ event.keys) :
    key ∈ other.keys := by
  obtain ⟨⟨_, values⟩, entry, rfl⟩ := List.mem_map.1 inside
  obtain ⟨more, among, -⟩ := within.mem_entries entry
  exact List.mem_map.2 ⟨_, among, rfl⟩

theorem Within.not_isEmpty (within : event.Within other) (filled : event.isEmpty = false) :
    other.isEmpty = false := by
  rw [isEmpty, List.isEmpty_eq_false_iff] at filled ⊢
  obtain ⟨⟨key, values⟩, inside⟩ := List.exists_mem_of_ne_nil _ filled
  obtain ⟨more, among, -⟩ := within.mem_entries inside
  exact List.ne_nil_of_mem among

theorem Within.containsWhere (within : event.Within other) {key : Option String} {test : String → Bool}
    (passed : event.containsWhere key test = true) : other.containsWhere key test = true := by
  cases key with
  | none =>
    obtain ⟨⟨key, values⟩, inside, passed⟩ := List.any_eq_true.1 passed
    obtain ⟨value, among, passes⟩ := List.any_eq_true.1 passed
    obtain ⟨more, listed, subset⟩ := within.mem_entries inside
    exact List.any_eq_true.2 ⟨_, listed, List.any_eq_true.2 ⟨value, subset among, passes⟩⟩
  | some key =>
    obtain ⟨value, among, passes⟩ := List.any_eq_true.1 passed
    obtain ⟨values, inside, member⟩ := mem_values_iff.1 among
    obtain ⟨more, listed, subset⟩ := within.mem_entries inside
    exact List.any_eq_true.2 ⟨value, mem_values_iff.2 ⟨more, listed, subset member⟩, passes⟩

/-- A test asks for some value that passes, in either sense, and that value is still there. -/
theorem Within.passes (within : event.Within other) {sense : Sense} {key : Option String}
    {atom : Option Atom}
    (passed : event.passes sense key atom = true) : other.passes sense key atom = true := by
  cases atom with
  | some atom => exact within.containsWhere passed
  | none =>
    cases key with
    | some key => exact within.containsKey passed
    | none =>
      have filled : event.isEmpty = false := by simpa [Event.passes] using passed
      simp [Event.passes, within.not_isEmpty filled]

theorem Within.mentions (within : event.Within other) {atom : Atom}
    (mentioned : event.mentions atom = true) :
    other.mentions atom = true := by
  rw [Event.mentions, Bool.or_eq_true, Bool.and_eq_true] at mentioned ⊢
  refine mentioned.imp ?_ within.containsWhere
  rintro ⟨isString, matching⟩
  obtain ⟨key, inside, matched⟩ := List.any_eq_true.1 matching
  exact ⟨isString, List.any_eq_true.2 ⟨key, within.mem_keys inside, matched⟩⟩

end Event

namespace Junction

/-- A verdict that holds is kept when those it is made of are. -/
theorem combine_mono (kind : Junction) {left right : List Bool}
    (kept : List.Forall₂ (fun first second => first = true → second = true) left right)
    (holds : kind.combine left = true) : kind.combine right = true := by
  induction kept with
  | nil => exact holds
  | cons first _ ih =>
    cases kind with
    | and =>
      simp only [combine, List.all_cons, Bool.and_eq_true, id] at holds ih ⊢
      exact ⟨first holds.1, ih holds.2⟩
    | or =>
      simp only [combine, List.any_cons, Bool.or_eq_true, id] at holds ih ⊢
      exact holds.imp first ih

end Junction

namespace Rule

/-- No denial occurs in the rule. -/
inductive Affirmative : Rule → Prop where
  | anything (id : Nat) : Affirmative (.anything id)
  | test (id : Nat) (sense : Sense) (key : Option String) (atom : Option SharedAtom) :
    Affirmative (.test id sense key atom)
  | fuzzy (id : Nat) (atom : SharedAtom) : Affirmative (.fuzzy id atom)
  | junction {operands : List Rule} (id : Nat) (kind : Junction)
    (all : ∀ operand ∈ operands, Affirmative operand) : Affirmative (.junction id kind operands)

theorem Affirmative.holds_mono {rule : Rule} (affirmative : rule.Affirmative) {event other : Event}
    (within : event.Within other) (holds : rule.holds event = true) : rule.holds other = true := by
  induction affirmative with
  | anything => rfl
  | test => exact within.passes holds
  | fuzzy => exact within.mentions holds
  | @junction operands id kind all ih =>
    rw [holds_junction] at holds ⊢
    refine kind.combine_mono ?_ holds
    rw [List.forall₂_map_left_iff, List.forall₂_map_right_iff, List.forall₂_same]
    exact ih

end Rule

namespace Workspace

variable {work : Workspace} {event other : Event} {verdicts more : Verdicts}

/-- Whatever else was judged on either event before, a rule without denials that takes an event takes
those that hold more. -/
theorem Judged.matchWith_mono (judged : Judged event work verdicts) (also : Judged other work more)
    (within : event.Within other) {rule : Rule} (live : work.Live (.rule rule))
    (affirmative : rule.Affirmative)
    (matched : (rule.matchWith event verdicts).1 = true) : (rule.matchWith other more).1 = true := by
  rw [judged.matchWith_live live] at matched
  rw [also.matchWith_live live]
  exact affirmative.holds_mono within matched

theorem isMatch_mono (run : Run start work) (within : event.Within other) {rule : Rule}
    (live : work.Live (.rule rule)) (affirmative : rule.Affirmative) (matched : rule.isMatch event = true) :
    rule.isMatch other = true :=
  (Judged.fresh run).matchWith_mono (.fresh run) within live affirmative matched

/-- What is asked for as a test is a test. -/
theorem Sound.build_test_eq (sound : work.Sound) (sense : Sense) (key : Option String) (atom : Atom) :
    ∃ id shared, ((Expression.test sense key (some atom)).build work.store).1 =
      .test id sense key (some shared) := by
  have balanced : (Store.atom atom work.store).2.Balanced
      ((Rule.test (Store.atom atom work.store).2.next sense key
        (some (Store.atom atom work.store).1)).parts ++
        work.roots) := by
    simpa using sound.balanced.atom atom
  obtain ⟨id, made⟩ := Store.intern_renumber _ balanced
  rw [Expression.build_test, Store.test, made]
  exact ⟨id, _, rfl⟩

/-- A rule without denials that takes an event takes its union with any other and all that calls make of
it that add pairs; so a test for a value that an atom does not contain is never lost by another value. -/
theorem affirmative_rules_keep_matching (run : Run start work) :
    (∀ rule, work.Live (.rule rule) → rule.Affirmative → ∀ event, rule.isMatch event = true →
      (∀ other, rule.isMatch (event.union other) = true) ∧
        ∀ later, event.Grown later → rule.isMatch later = true) ∧
    ∀ id key atom, work.Live (.rule (.test id .nonMatching key atom)) → ∀ event name value,
      (Rule.test id .nonMatching key atom).isMatch event = true →
        (Rule.test id .nonMatching key atom).isMatch (event.add name value).2 = true := by
  refine ⟨fun rule live affirmative event matched => ⟨fun other => ?_, fun later grown => ?_⟩, ?_⟩
  · exact isMatch_mono run (Event.within_union event other) live affirmative matched
  · exact isMatch_mono run grown.within live affirmative matched
  · intro id key atom live event name value matched
    exact isMatch_mono run (Event.within_add event name value) live (.test id .nonMatching key atom) matched

/-- A value other than `a` is still there when `a` comes. -/
theorem affirmative_rules_keep_matching_other_value :
    let rule := ((Expression.test .nonMatching (some "k") (some (.string "a"))).build start.store).1
    let event := (Event.empty.add "k" "b").2
    rule.Affirmative ∧ rule.isMatch event = true ∧
      rule.isMatch (event.union (Event.empty.add "k" "a").2) = true ∧
      rule.isMatch (event.add "k" "a").2 = true := by
  intro rule event
  obtain ⟨kept, run⟩ := start_sound.build_runs (.test .nonMatching (some "k") (some (.string "a")))
  have matched : rule.isMatch event = true := by
    rw [isMatch_build .refl]
    decide +kernel
  obtain ⟨id, shared, made⟩ := start_sound.build_test_eq .nonMatching (some "k") (.string "a")
  have affirmative : rule.Affirmative := by
    rw [show rule = .test id .nonMatching (some "k") (some shared) from made]
    exact .test ..
  have stays := (affirmative_rules_keep_matching run).1 rule
    (live_of_held List.mem_cons_self) affirmative event matched
  exact ⟨affirmative, matched, stays.1 _, stays.2 _ (.add .same "k" "a")⟩

end Workspace

end EventRouting
