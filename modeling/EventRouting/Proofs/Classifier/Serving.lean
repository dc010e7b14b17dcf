import EventRouting.Proofs.Classifier.Counting
import EventRouting.Proofs.Rule.Judging

set_option autoImplicit false

namespace EventRouting

namespace Classifier

variable {Destination : Type} [DecidableEq Destination]

/-- What a classifier is asked to do. -/
inductive Request (Destination : Type) where
  | inc (rule : Rule) (destination : Destination)
  | dec (rule : Rule) (destination : Destination)

namespace Request

def rule : Request Destination → Rule
  | inc rule _ | dec rule _ => rule

def serve (classifier : Classifier Destination) : Request Destination → Classifier Destination
  | inc rule destination => classifier.inc rule destination
  | dec rule destination => classifier.dec rule destination

/-- What a request does to the counter of a pair. -/
def change (id : Nat) (destination : Destination) (counter : Nat) : Request Destination → Nat
  | inc rule other => if id = rule.id ∧ destination = other then counter + 1 else counter
  | dec rule other => if id = rule.id ∧ destination = other then counter - 1 else counter

end Request

/-- The classifier after some requests, the latest of them last. -/
def after (requests : List (Request Destination)) : Classifier Destination :=
  requests.foldl Request.serve empty

/-- The counter of a pair after some requests. -/
def tally (requests : List (Request Destination)) (id : Nat) (destination : Destination) : Nat :=
  requests.foldl (Request.change id destination) 0

theorem Tidy.serve {classifier : Classifier Destination} (tidy : classifier.Tidy)
    (request : Request Destination) : (request.serve classifier).Tidy := by
  cases request with
  | inc rule destination => exact tidy.inc rule destination
  | dec rule destination => exact tidy.dec rule destination

theorem Tidy.count_serve {classifier : Classifier Destination} (tidy : classifier.Tidy)
    (request : Request Destination) (rule : Rule) (destination : Destination) :
    (request.serve classifier).count rule destination =
      request.change rule.id destination (classifier.count rule destination) := by
  cases request with
  | inc asked other =>
    rw [Request.serve, Request.change, count_inc]
    split <;> rfl
  | dec asked other =>
    rw [Request.serve, Request.change, tidy.count_dec]
    split <;> rfl

theorem after_append (requests : List (Request Destination)) (request : Request Destination) :
    after (requests ++ [request]) = request.serve (after requests) := by
  rw [after, List.foldl_append]
  rfl

theorem tidy_after (requests : List (Request Destination)) : (after requests).Tidy := by
  induction requests using List.reverseRecOn with
  | nil => exact tidy_empty
  | append_singleton requests request ih =>
    rw [after_append]
    exact ih.serve request

theorem count_after (requests : List (Request Destination)) (rule : Rule) (destination : Destination) :
    (after requests).count rule destination = tally requests rule.id destination := by
  induction requests using List.reverseRecOn with
  | nil => rfl
  | append_singleton requests request ih =>
    rw [after_append, (tidy_after requests).count_serve, ih, tally, tally, List.foldl_append]
    rfl

/-- Only rules that were asked about stand in the classifier. -/
theorem mem_rules_after {requests : List (Request Destination)} {rule : Rule}
    (inside : rule ∈ (after requests).rules) : ∃ request ∈ requests, request.rule = rule := by
  induction requests using List.reverseRecOn generalizing rule with
  | nil => simp [after, empty, rules] at inside
  | append_singleton requests request ih =>
    obtain ⟨registration, member, rfl⟩ := List.mem_map.1 inside
    rw [after_append] at member
    have old (other : Registration Destination) (known : other ∈ (after requests).registrations)
        (same : other.rule = registration.rule) :
        ∃ asked ∈ requests ++ [request], asked.rule = registration.rule := by
      obtain ⟨asked, earlier, equal⟩ := ih (List.mem_map_of_mem known)
      exact ⟨asked, List.mem_append_left _ earlier, equal.trans same⟩
    cases request with
    | inc asked destination =>
      rcases mem_raise member with same | ⟨other, known, same⟩
      · exact ⟨.inc asked destination, by simp, same.symm⟩
      · exact old other known same
    | dec asked destination =>
      obtain ⟨other, known, same⟩ := mem_lower member
      exact old other known same

theorem registered_after_iff (requests : List (Request Destination)) (id : Nat) :
    id ∈ (after requests).rules.map Rule.id ↔ ∃ destination, 0 < tally requests id destination := by
  have registered := (tidy_after requests).registered_iff (.anything id)
  simpa only [count_after, Rule.id] using registered

theorem size_after (requests : List (Request Destination)) :
    (after requests).size = {id | ∃ destination, 0 < tally requests id destination}.ncard := by
  have same : {id | ∃ destination, 0 < tally requests id destination} =
      (((after requests).rules.map Rule.id).toFinset : Set Nat) := by
    ext id
    rw [List.coe_toFinset]
    exact (registered_after_iff requests id).symm
  rw [same, Set.ncard_coe_finset, List.toFinset_card_of_nodup (tidy_after requests).once, List.length_map,
    rules, List.length_map, size]

theorem isEmpty_after_iff (requests : List (Request Destination)) :
    (after requests).isEmpty = true ↔ ∀ id destination, tally requests id destination = 0 := by
  have none : (after requests).isEmpty = true ↔ (after requests).rules.map Rule.id = [] := by
    rw [isEmpty, List.isEmpty_iff, rules, List.map_eq_nil_iff, List.map_eq_nil_iff]
  rw [none, List.eq_nil_iff_forall_not_mem]
  simp only [registered_after_iff, not_exists, Nat.not_lt, Nat.le_zero]

theorem mem_foldr_insert {destination : Destination} {destinations selected : List Destination} :
    destination ∈ destinations.foldr List.insert selected ↔
      destination ∈ destinations ∨ destination ∈ selected := by
  induction destinations with
  | nil => simp
  | cons first rest ih => rw [List.foldr_cons, List.mem_insert_iff, ih, List.mem_cons, or_assoc]

/-- A rule whose destinations are all selected may be passed over, and the memory of verdicts stays
truthful. -/
theorem mem_select_iff {event : Event} {known : Rule → Prop} (family : Rule.Family known)
    {registrations : List (Registration Destination)}
    (rules : ∀ registration ∈ registrations, known registration.rule) {verdicts : Verdicts}
    (truthful : Rule.Truthful event known verdicts) (selected : List Destination)
    (destination : Destination) : destination ∈ select event registrations verdicts selected ↔
      destination ∈ selected ∨ ∃ registration ∈ registrations,
        registration.rule.holds event = true ∧ destination ∈ registration.destinations := by
  induction registrations generalizing verdicts selected with
  | nil => simp [select]
  | cons first rest ih =>
    rw [List.forall_mem_cons] at rules
    rw [select, List.exists_mem_cons_iff]
    split
    · next passed =>
      have there : destination ∈ first.destinations → destination ∈ selected := by
        rw [List.all_eq_true] at passed
        exact fun inside => List.contains_iff_mem.1 (passed destination inside)
      rw [ih rules.2 truthful]
      tauto
    · obtain ⟨judged, after⟩ := family.judgedTruly rules.1 verdicts truthful
      rw [← Rule.matchWith_eq_judge] at judged after
      dsimp only
      rw [ih rules.2 after, judged]
      cases first.rule.holds event with
      | true =>
        rw [if_pos rfl, mem_foldr_insert]
        tauto
      | false => simp

theorem nodup_select (event : Event) (registrations : List (Registration Destination))
    (verdicts : Verdicts) {selected : List Destination} (once : selected.Nodup) :
    (select event registrations verdicts selected).Nodup := by
  induction registrations generalizing verdicts selected with
  | nil => exact once
  | cons first rest ih =>
    rw [select]
    split
    · exact ih verdicts once
    · dsimp only
      apply ih
      split
      · exact List.foldrRecOn first.destinations List.insert once fun done earlier _ _ => earlier.insert
      · exact once

end Classifier

namespace Workspace

open Classifier (Request tally)

variable {Destination : Type} [DecidableEq Destination] {work : Workspace}
  {requests : List (Request Destination)}

/-- A program that makes requests to a classifier, about rules in use at the time, while it works. -/
inductive Requests : Workspace → List (Request Destination) → Prop where
  | fresh {work : Workspace} (run : Run start work) : Requests work []
  | step {before after : Workspace} {requests : List (Request Destination)}
    (made : Requests before requests) (step : Step before after) : Requests after requests
  | ask {work : Workspace} {requests : List (Request Destination)} {request : Request Destination}
    (made : Requests work requests) (live : work.Live (.rule request.rule)) :
    Requests work (requests ++ [request])

omit [DecidableEq Destination] in
theorem Requests.run (made : Requests work requests) : Run start work := by
  induction made with
  | fresh run => exact run
  | step _ step ih => exact .tail ih step
  | ask _ _ ih => exact ih

omit [DecidableEq Destination] in
/-- The rules that were asked about are told apart by number, also those that are gone. -/
theorem Requests.chronicle (made : Requests work requests) :
    ∃ known, work.Chronicle known ∧ ∀ request ∈ requests, known request.rule := by
  induction made with
  | fresh run => exact ⟨_, (run.sound start_sound).chronicle, by simp⟩
  | step made step ih =>
    obtain ⟨known, chronicle, asked⟩ := ih
    exact ⟨_, chronicle.step (made.run.sound start_sound) step,
      fun request inside => Or.inl (asked request inside)⟩
  | ask made live ih =>
    obtain ⟨known, chronicle, asked⟩ := ih
    refine ⟨known, chronicle, fun request inside => ?_⟩
    rcases List.mem_append.1 inside with inside | inside
    · exact asked request inside
    · exact List.mem_singleton.1 inside ▸ chronicle.live _ live

omit [DecidableEq Destination] in
theorem Requests.all {more : List (Request Destination)} (made : Requests work requests)
    (live : ∀ request ∈ more, work.Live (.rule request.rule)) : Requests work (requests ++ more) := by
  induction more generalizing requests with
  | nil => rwa [List.append_nil]
  | cons first rest ih =>
    rw [List.forall_mem_cons] at live
    rw [List.append_cons]
    exact ih (made.ask live.1) live.2

/-- After any history a classifier counts as counters of the pairs would, keeps what is counted and nothing
else, and selects the destinations of the rules that match, whatever order the rules are gone through in. -/
theorem classifier_counts_and_selects (made : Requests work requests) (event : Event) :
    (∀ rule destination,
      (Classifier.after requests).count rule destination = tally requests rule.id destination) ∧
    (Classifier.after requests).size = {id | ∃ destination, 0 < tally requests id destination}.ncard ∧
    ((Classifier.after requests).isEmpty = true ↔
      ∀ id destination, tally requests id destination = 0) ∧
    (∀ registration ∈ (Classifier.after requests).registrations,
      registration.counts ≠ [] ∧ ∀ entry ∈ registration.counts, 0 < entry.2) ∧
    ∀ order, order.Perm (Classifier.after requests).registrations →
      ((Classifier.mk order).classify event).Nodup ∧ ∀ destination,
        destination ∈ (Classifier.mk order).classify event ↔ ∃ request ∈ requests,
          0 < (Classifier.after requests).count request.rule destination ∧
            request.rule.isMatch event = true := by
  obtain ⟨known, chronicle, asked⟩ := made.chronicle
  have tidy := Classifier.tidy_after requests
  refine ⟨Classifier.count_after requests, Classifier.size_after requests,
    Classifier.isEmpty_after_iff requests, ?_, ?_⟩
  · intro registration inside
    exact ⟨tidy.wanted registration inside, (tidy.counts registration inside).positive⟩
  · intro order same
    refine ⟨Classifier.nodup_select event order ∅ List.nodup_nil, fun destination => ?_⟩
    have earlier : ∀ registration ∈ order, ∃ request ∈ requests, request.rule = registration.rule :=
      fun registration inside =>
        Classifier.mem_rules_after (List.mem_map_of_mem (same.mem_iff.1 inside))
    have rules : ∀ registration ∈ order, known registration.rule := by
      intro registration inside
      obtain ⟨request, made, equal⟩ := earlier registration inside
      exact equal ▸ asked request made
    rw [Classifier.classify,
      Classifier.mem_select_iff chronicle.family rules (Rule.truthful_empty event known)]
    constructor
    · rintro (none | ⟨registration, inside, holds, selected⟩)
      · simp at none
      · obtain ⟨request, made, equal⟩ := earlier registration inside
        refine ⟨request, made, (tidy.count_pos_iff _ _).2
          ⟨registration, same.mem_iff.1 inside, ?_, selected⟩, ?_⟩
        · rw [equal]
        · rw [chronicle.family.isMatch_eq_holds (asked request made), equal, holds]
    · rintro ⟨request, made, counted, isMatch⟩
      obtain ⟨registration, inside, number, selected⟩ := (tidy.count_pos_iff _ _).1 counted
      have equal : registration.rule = request.rule := chronicle.family.unique _ _
        (rules registration (same.mem_iff.2 inside)) (asked request made) number
      refine Or.inr ⟨registration, same.mem_iff.2 inside, ?_, selected⟩
      rw [equal, ← chronicle.family.isMatch_eq_holds (asked request made), isMatch]

/-- Two destinations for one rule: one is registered twice and taken back once, the other is taken back. -/
theorem classifier_counts_and_selects_taken_back :
    let rule := ((Expression.no (.fuzzy (.string "a"))).build start.store).1
    let classifier := Classifier.after
      [.inc rule "x", .inc rule "y", .inc rule "y", .dec rule "y", .dec rule "x"]
    classifier.count rule "x" = 0 ∧ classifier.count rule "y" = 1 ∧
      "x" ∉ classifier.classify .empty ∧ "y" ∈ classifier.classify .empty := by
  intro rule classifier
  obtain ⟨work, run, held⟩ : ∃ work, Run start work ∧
      .rule rule (.no (.fuzzy (.string "a"))) ∈ work.held :=
    (start_sound.build_runs _).elim fun kept run => ⟨_, run, List.mem_cons_self⟩
  have live := live_of_held held
  have made : Requests work
      [.inc rule "x", .inc rule "y", .inc rule "y", .dec rule "y", .dec rule "x"] :=
    (Requests.fresh run).all (by simpa [Request.rule] using live)
  obtain ⟨counts, -, -, -, selects⟩ := classifier_counts_and_selects made .empty
  have none : classifier.count rule "x" = 0 := (counts rule "x").trans (by simp [tally, Request.change])
  have one : classifier.count rule "y" = 1 := (counts rule "y").trans (by simp [tally, Request.change])
  have matching : rule.isMatch .empty = true :=
    (isMatch_build .refl _ .empty).trans (by decide)
  refine ⟨none, one, fun selected => ?_, ((selects _ (.refl _)).2 "y").2 ?_⟩
  · obtain ⟨request, asked, counted, -⟩ := ((selects _ (.refl _)).2 "x").1 selected
    have same : request.rule = rule := by
      simp only [List.mem_cons, List.not_mem_nil, or_false] at asked
      rcases asked with rfl | rfl | rfl | rfl | rfl <;> rfl
    rw [same] at counted
    exact absurd (counted.trans_eq none) (Nat.lt_irrefl 0)
  · exact ⟨.inc rule "y", by simp, Nat.lt_of_lt_of_eq Nat.one_pos one.symm, matching⟩

end Workspace

end EventRouting
