import EventRouting.Proofs.Configuration.Passages
import EventRouting.Proofs.Rule.Judging

set_option autoImplicit false

namespace EventRouting

namespace Configuration

/-- A passage that yields a session is enabled, and has no rules or one that can be read. -/
def Passage.Yields (passage : Passage) : Prop :=
  (∃ source destination, Enabled passage.header source destination) ∧
    (passage.rules = [] ∨ ∃ line ∈ passage.rules, (RuleText.read? (String.ofList line)).isSome)

/-- An event that a passage takes: it has no rules, or one that can be read and matches the event. -/
def Passage.Takes (store : Store) (passage : Passage) (event : Event) : Prop :=
  passage.rules = [] ∨ ∃ line ∈ passage.rules, ∃ parsed,
    RuleText.read? (String.ofList line) = some parsed ∧ (parsed.build store).1.isMatch event = true

/-- A session that does what a passage says. -/
structure Passage.Routes (store : Store) (passage : Passage) (session : Session) : Prop where
  rooms : Enabled passage.header session.source session.destination
  events : ∀ event, session.rule.isMatch event = true ↔ passage.Takes store event

/-- The plan for such a session. -/
structure Passage.Plans (passage : Passage) (plan : SessionPlan) : Prop where
  rooms : Enabled passage.header plan.source plan.destination
  events : ∀ event, (plan.rule.getD .anything).holds event = true ↔
    passage.rules = [] ∨ ∃ line ∈ passage.rules, ∃ parsed,
      RuleText.read? (String.ofList line) = some parsed ∧ parsed.holds event = true

theorem mem_read_iff {rules : List (List Char)} {parsed : Expression} :
    parsed ∈ (rules.map String.ofList).filterMap RuleText.read? ↔
      ∃ line ∈ rules, RuleText.read? (String.ofList line) = some parsed := by
  rw [List.filterMap_map, List.mem_filterMap]
  rfl

theorem plans_eq {passage : Passage} {source destination : String}
    (enabled : Enabled passage.header source destination) :
    passage.plans = plansFor source destination (passage.rules.map String.ofList) := by
  rw [Passage.plans]
  rcases readHeader_section 0 passage.header with
    ⟨source', destination', enabled', reads⟩ | ⟨none, -⟩
  · obtain ⟨rfl, rfl⟩ := enabled.unique enabled'
    rw [reads]
    rfl
  · exact absurd enabled (none _ _)

theorem plans_eq_nil {passage : Passage}
    (none : ∀ source destination, ¬ Enabled passage.header source destination) : passage.plans = [] := by
  rw [Passage.plans]
  rcases readHeader_section 0 passage.header with
    ⟨source, destination, enabled, -⟩ | ⟨-, reads | reads⟩
  · exact absurd enabled (none _ _)
  · rw [reads]; rfl
  · rw [reads]; rfl

/-- Rules yield a session for what any of them takes, if one of them can be read. -/
theorem plansFor_rules (source destination : String) {rules : List (List Char)} (some : rules ≠ []) :
    ((∃ line ∈ rules, (RuleText.read? (String.ofList line)).isSome) ∧
      ∃ rule, plansFor source destination (rules.map String.ofList) =
          [⟨source, destination, .some rule⟩] ∧
        ∀ event, rule.holds event = true ↔ ∃ line ∈ rules, ∃ parsed,
          RuleText.read? (String.ofList line) = .some parsed ∧ parsed.holds event = true) ∨
    (¬ ∃ line ∈ rules, (RuleText.read? (String.ofList line)).isSome) ∧
      plansFor source destination (rules.map String.ofList) = [] := by
  rw [plansFor_of_ne_nil _ _ (by simpa using some)]
  cases built : Expression.junction? .or ((rules.map String.ofList).filterMap RuleText.read?) with
  | none =>
    refine Or.inr ⟨?_, rfl⟩
    rintro ⟨line, inside, readable⟩
    obtain ⟨parsed, read⟩ := Option.isSome_iff_exists.1 readable
    have empty := Expression.junction?_eq_none_iff.1 built
    exact absurd (mem_read_iff.2 ⟨line, inside, read⟩) (empty ▸ List.not_mem_nil)
  | some rule =>
    have found : (rules.map String.ofList).filterMap RuleText.read? ≠ [] := by
      rw [ne_eq, ← Expression.junction?_eq_none_iff, built]
      exact Option.some_ne_none rule
    obtain ⟨parsed, inside⟩ := List.exists_mem_of_ne_nil _ found
    obtain ⟨line, inside, read⟩ := mem_read_iff.1 inside
    refine Or.inl ⟨⟨line, inside, by rw [read]; rfl⟩, rule, rfl, fun event => ?_⟩
    rw [Expression.holds_or_iff built]
    simp only [mem_read_iff]
    constructor
    · rintro ⟨parsed, ⟨line, inside, read⟩, holds⟩
      exact ⟨line, inside, parsed, read, holds⟩
    · rintro ⟨line, inside, parsed, read, holds⟩
      exact ⟨parsed, ⟨line, inside, read⟩, holds⟩

/-- A passage has one plan, or none if it yields nothing. -/
theorem Passage.plans_shape (passage : Passage) :
    (passage.Yields ∧ ∃ plan, passage.plans = [plan] ∧ passage.Plans plan) ∨
      (¬ passage.Yields ∧ passage.plans = []) := by
  by_cases enabled : ∃ source destination, Enabled passage.header source destination
  · obtain ⟨source, destination, enabled⟩ := enabled
    rw [plans_eq enabled]
    by_cases none : passage.rules = []
    · refine Or.inl ⟨⟨⟨source, destination, enabled⟩, Or.inl none⟩,
        _, by rw [none]; rfl, enabled, ?_⟩
      exact fun event => ⟨fun _ => Or.inl none, fun _ => rfl⟩
    · rcases plansFor_rules source destination none with
        ⟨readable, rule, only, events⟩ | ⟨unread, nothing⟩
      · refine Or.inl ⟨⟨⟨source, destination, enabled⟩, Or.inr readable⟩, _, only, enabled,
          fun event => ?_⟩
        rw [or_iff_right none]
        exact events event
      · exact Or.inr ⟨fun yields => unread (yields.2.resolve_left none), nothing⟩
  · refine Or.inr ⟨fun yields => enabled yields.1, plans_eq_nil fun source destination given => ?_⟩
    exact enabled ⟨source, destination, given⟩

open Classical in
theorem forall₂_plans (passages : List Passage) :
    List.Forall₂ Passage.Plans (passages.filter (·.Yields)) (passages.flatMap Passage.plans) := by
  induction passages with
  | nil => exact .nil
  | cons passage rest ih =>
    rw [List.flatMap_cons]
    rcases passage.plans_shape with ⟨yields, plan, only, plans⟩ | ⟨nothing, none⟩
    · rw [List.filter_cons_of_pos (by simpa using yields), only]
      exact .cons plans ih
    · rw [List.filter_cons_of_neg (by simpa using nothing), none]
      exact ih

end Configuration

theorem SessionPlan.buildAll_cons (plan : SessionPlan) (rest : List SessionPlan) (store : Store) :
    (buildAll (plan :: rest) store).1 =
      ⟨plan.source, plan.destination, ((plan.rule.getD .anything).build store).1⟩ ::
        (buildAll rest ((plan.rule.getD .anything).build store).2).1 :=
  rfl

namespace Workspace

open EventRouting.Configuration

variable {work : Workspace}

theorem forall₂_routes {store : Store} {passages : List Passage} {plans : List SessionPlan}
    (planned : List.Forall₂ Passage.Plans passages plans) (run : Run start work)
    (takes : ∀ (parsed : Expression) event,
      (parsed.build store).1.isMatch event = parsed.holds event) :
    List.Forall₂ (Passage.Routes store) passages (SessionPlan.buildAll plans work.store).1 := by
  induction planned generalizing work with
  | nil => exact .nil
  | @cons passage plan passages plans here _ ih =>
    obtain ⟨kept, built⟩ := (run.sound start_sound).build_runs (plan.rule.getD .anything)
    rw [SessionPlan.buildAll_cons]
    refine .cons ⟨here.rooms, fun event => ?_⟩ (ih (run.trans built))
    rw [isMatch_build run, here.events, Passage.Takes]
    simp only [takes]

open Classical in
/-- A text in sections yields, in their order, one session for each passage that is enabled and has no
rules or one that can be read; it takes the events of the rules that can be read, or all events if there
are no rules. What stands before a header and what follows it have no effect on each other. -/
theorem sections_route_passages (run : Run start work) :
    (∀ text : String, ∃ plans, (ofSections text.toUTF8).outcome = .ok plans ∧
      List.Forall₂ (Passage.Routes work.store) ((passages (sayings text)).filter (·.Yields))
        (SessionPlan.buildAll plans work.store).1) ∧
    ∀ before after : String, (∀ line ∈ (sayings after).head?, isHeader line = true) →
      ∃ plans more, (ofSections before.toUTF8).outcome = .ok plans ∧
        (ofSections after.toUTF8).outcome = .ok more ∧
        (ofSections (before ++ "\n" ++ after).toUTF8).outcome = .ok (plans ++ more) := by
  constructor
  · intro text
    refine ⟨_, ofSections_outcome text, ?_⟩
    exact forall₂_routes (forall₂_plans _) run (isMatch_build run)
  · intro before after header
    refine ⟨_, _, ofSections_outcome before, ofSections_outcome after, ?_⟩
    rw [ofSections_outcome, sayings_append, passages_append header, List.flatMap_append]

/-- A section without rules takes every event. The header before it disables its own section only, and
lines and an open header further before have no effect. -/
theorem sections_route_passages_everything :
    let text := "[src=in, dst=other, disable]\n*\n[src=in, DST = out, disable=No]\n# all\n"
    ∃ earlier plans session, (ofSections text.toUTF8).outcome = .ok plans ∧
      (ofSections ("*\n[src=in, dst=in" ++ "\n" ++ text).toUTF8).outcome = .ok (earlier ++ plans) ∧
      (SessionPlan.buildAll plans start.store).1 = [session] ∧
      session.source = "in" ∧ session.destination = "out" ∧
      ∀ event, session.rule.isMatch event = true := by
  intro text
  obtain ⟨routed, apart⟩ := sections_route_passages .refl
  obtain ⟨plans, outcome, routes⟩ := routed text
  have said : sayings text = ["[src=in, dst=other, disable]".toList, ['*'],
      "[src=in, DST = out, disable=No]".toList] := by decide
  have shape : passages (sayings text) = [⟨"src=in, dst=other, disable]".toList, [['*']]⟩,
      ⟨"src=in, DST = out, disable=No]".toList, []⟩] := by
    rw [said]
    rfl
  obtain ⟨earlier, more, -, again, joined⟩ := apart "*\n[src=in, dst=in" text (by rw [said]; decide)
  obtain rfl : plans = more := Except.ok.inj (outcome.symm.trans again)
  have disabled : ¬ Passage.Yields ⟨"src=in, dst=other, disable]".toList, [['*']]⟩ := by
    rintro ⟨⟨source, destination, enabled⟩, -⟩
    have halves : Text.splitOnce ']' "src=in, dst=other, disable]".toList =
      some ("src=in, dst=other, disable".toList, []) := by decide
    exact absurd ((enabled_iff halves).1 enabled).1 (by decide)
  have enabled : Enabled "src=in, DST = out, disable=No]".toList "in" "out" := by
    have halves : Text.splitOnce ']' "src=in, DST = out, disable=No]".toList =
      some ("src=in, DST = out, disable=No".toList, []) := by decide
    exact (enabled_iff halves).2 (by decide)
  have yields : Passage.Yields ⟨"src=in, DST = out, disable=No]".toList, []⟩ :=
    ⟨⟨_, _, enabled⟩, Or.inl rfl⟩
  simp only [shape, List.filter_cons, List.filter_nil, disabled, yields, decide_true, decide_false,
    Bool.false_eq_true, ↓reduceIte] at routes
  obtain ⟨session, others, routes, rest, same⟩ := List.forall₂_cons_left_iff.1 routes
  rw [List.forall₂_nil_left_iff.1 rest] at same
  obtain ⟨source, destination⟩ := routes.rooms.unique enabled
  exact ⟨earlier, plans, session, outcome, joined, same, source, destination,
    fun event => (routes.events event).2 (Or.inl rfl)⟩

end Workspace

end EventRouting
