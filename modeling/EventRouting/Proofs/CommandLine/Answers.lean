import EventRouting.CommandLine
import EventRouting.Proofs.Configuration.Agreement
import EventRouting.Proofs.Event.Document
import EventRouting.Proofs.RoomGraph.Sessions
import EventRouting.Proofs.Text.Lines

set_option autoImplicit false

namespace EventRouting

namespace CommandLine

open Text (Lined Closed)

/-- The line is not blank, and no event. -/
def Faulty (line : String) : Prop := isBlankLine line = false ∧ Event.ofText? line = none

instance (line : String) : Decidable (Faulty line) := inferInstanceAs (Decidable (_ ∧ _))

/-- The rooms of an event as they are written on a line. -/
def roomsText (rooms : List String) : String := (Json.array (rooms.map .string)).toText

/-- The events of the lines that are not blank. -/
def events (lines : List String) : List Event := (lines.filter (!isBlankLine ·)).filterMap Event.ofText?

theorem events_append (before after : List String) :
    events (before ++ after) = events before ++ events after := by
  rw [events, List.filter_append, List.filterMap_append, events, events]

theorem events_blank {line : String} (blank : isBlankLine line = true) (rest : List String) :
    events (line :: rest) = events rest := by
  rw [events, List.filter_cons_of_neg (by simp [blank]), events]

theorem events_filled {line : String} {event : Event} (filled : isBlankLine line = false)
    (holds : Event.ofText? line = some event) (rest : List String) :
    events (line :: rest) = event :: events rest := by
  rw [events, List.filter_cons_of_pos (by simp [filled]), List.filterMap_cons_some holds, events]

variable {source : String} {graph : RoomGraph} {given before : List String} {line text : String}

/-- What a graph answers to lines, to each as if it were the first. -/
def answers (graph : RoomGraph) (source : String) (lines : List String) : List String :=
  (events lines).map fun event => roomsText (graph.route source event).1

theorem answers_blank (graph : RoomGraph) (source : String) (blank : isBlankLine line = true)
    (rest : List String) :
    answers graph source (line :: rest) = answers graph source rest := by
  rw [answers, events_blank blank, answers]

theorem answers_filled (graph : RoomGraph) (source : String) {event : Event}
    (filled : isBlankLine line = false) (holds : Event.ofText? line = some event) (rest : List String) :
    answers graph source (line :: rest) = roomsText (graph.route source event).1 ::
      answers graph source rest := by
  rw [answers, events_filled filled holds, List.map_cons, answers]

theorem answers_append (graph : RoomGraph) (source : String) (before after : List String) :
    answers graph source (before ++ after) = answers graph source before ++ answers graph source after := by
  rw [answers, events_append, List.map_append, answers, answers]

theorem answers_congr {other : RoomGraph}
    (alike : ∀ source event, (other.route source event).1 = (graph.route source event).1)
    (source : String)
    (lines : List String) : answers other source lines = answers graph source lines := by
  simp only [answers, alike]

/-- Lines that are not faulty are answered by the graph as it was before them, and the graph that they
leave answers in the same way. -/
theorem route_append (fine : ∀ line ∈ before, ¬Faulty line) (after : List String) (source : String)
    (graph : RoomGraph) (written : List String) (number : Nat) :
    ∃ later : RoomGraph, later.destinations = graph.destinations ∧
      route source graph written ((before ++ after).zipIdx number) =
        route source later ((answers graph source before).reverse ++ written)
          (after.zipIdx (number + before.length)) := by
  induction before generalizing graph written number with
  | nil => exact ⟨graph, rfl, rfl⟩
  | cons line before ih =>
    rw [List.forall_mem_cons] at fine
    have later : number + (before.length + 1) = number + 1 + before.length := by omega
    rw [List.cons_append, List.zipIdx_cons, route, List.length_cons, later]
    cases blank : isBlankLine line with
    | true =>
      rw [if_pos rfl, answers_blank graph source blank]
      exact ih fine.2 graph written (number + 1)
    | false =>
      obtain ⟨event, holds⟩ := Option.ne_none_iff_exists'.1 fun none => fine.1 ⟨blank, none⟩
      have read : (Json.read? line.toList).bind Event.ofJson? = some event := holds
      -- Routing counts, and the counts have no say in the rooms.
      have same : answers (graph.route source event).2 source before = answers graph source before :=
        answers_congr (fun _ _ => rfl) source before
      rw [if_neg Bool.false_ne_true, answers_filled graph source blank holds, List.reverse_cons,
        List.append_assoc, ← same, read]
      exact ih fine.2 (graph.route source event).2
        (roomsText (graph.route source event).1 :: written) (number + 1)

/-- Lines none of which is faulty are answered all. -/
theorem route_fine (fine : ∀ line ∈ given, ¬Faulty line) (source : String) (graph : RoomGraph) :
    ∃ later, route source graph [] (given.zipIdx 1) = (answers graph source given, .ok later) := by
  obtain ⟨later, -, ends⟩ := route_append fine [] source graph [] 1
  rw [List.append_nil] at ends
  refine ⟨later, ends.trans ?_⟩
  rw [List.zipIdx_nil, route, List.append_nil, List.reverse_reverse]

/-- The first faulty line ends it, and the answers to the lines before it stay. -/
theorem route_faulty (fine : ∀ line ∈ before, ¬Faulty line) (faulty : Faulty line)
    (after : List String) (source : String) (graph : RoomGraph) :
    route source graph [] ((before ++ line :: after).zipIdx 1) =
      (answers graph source before,
        .error (.configuration ("invalid event on line " ++ toString (before.length + 1)))) := by
  obtain ⟨later, -, ends⟩ := route_append fine (line :: after) source graph [] 1
  have read : (Json.read? line.toList).bind Event.ofJson? = none := faulty.2
  rw [ends, List.zipIdx_cons, route, faulty.1, if_neg Bool.false_ne_true, read, List.append_nil,
    List.reverse_reverse, Nat.add_comm]

theorem routeInput_fine (lined : Lined given text) (fine : ∀ line ∈ given, ¬Faulty line)
    (source : String) (graph : RoomGraph) :
    ∃ log, routeInput source graph text.toUTF8 = { succeed (answers graph source given) with log } := by
  obtain ⟨later, routed⟩ := route_fine fine source graph
  refine ⟨later.takeStats.1.map fun entry => RoomGraph.statsEntry entry.1 entry.2, ?_⟩
  rw [routeInput, Text.decodeLines_toUTF8, Text.lined_iff.1 lined]
  simp only [routed, if_true]

theorem routeInput_faulty {after : List String} (lined : Lined (before ++ line :: after) text)
    (fine : ∀ line ∈ before, ¬Faulty line) (faulty : Faulty line) (source : String)
    (graph : RoomGraph) :
    routeInput source graph text.toUTF8 = fail (answers graph source before)
      (.configuration ("invalid event on line " ++ toString (before.length + 1))) := by
  rw [routeInput, Text.decodeLines_toUTF8, Text.lined_iff.1 lined]
  simp only [route_faulty fine faulty after source graph]

/-- What the command comes to on a text, with a configuration that is loaded as these plans, wherever both
are read. -/
inductive Classifies (path source : String) (plans : List SessionPlan) (text : String) :
    Outcome → Prop where
  | run {contents : String → Except Error ByteArray} {standardInput : ByteArray} {input : Option String}
    (loads : (Configuration.ofFile path (contents path)).outcome = .ok plans)
    (given : input.elim (.ok standardInput) contents = .ok text.toUTF8) :
    Classifies path source plans text (classify contents standardInput path source input)

theorem unlines_append (first second : List String) :
    unlines (first ++ second) = unlines first ++ unlines second := by
  simp [unlines]

theorem exists_first_faulty (lines : List String) :
    (∀ line ∈ lines, ¬Faulty line) ∨ ∃ before line after, lines = before ++ line :: after ∧
      (∀ earlier ∈ before, ¬Faulty earlier) ∧ Faulty line := by
  cases found : lines.find? (Faulty ·) with
  | none => exact .inl (by simpa using found)
  | some line =>
    obtain ⟨faulty, before, after, split, fine⟩ := List.find?_eq_some_iff_append.1 found
    exact .inr ⟨before, line, after, split, by simpa using fine, by simpa using faulty⟩

/-- The graph that the command starts with. -/
def startGraph (plans : List SessionPlan) : RoomGraph :=
  RoomGraph.ofSessions (SessionPlan.buildAll plans Store.empty).1

theorem Classifies.routed {path : String} {plans : List SessionPlan} {outcome : Outcome}
    (classifies : Classifies path source plans text outcome) :
    ∃ log, outcome = { routeInput source (startGraph plans) text.toUTF8 with log } := by
  obtain @⟨contents, standardInput, input, loads, given⟩ := classifies
  rw [classify]
  simp only [loads, given]
  exact ⟨_, rfl⟩

theorem Classifies.fine {path : String} {plans : List SessionPlan} {outcome : Outcome}
    (classifies : Classifies path source plans text outcome) (lined : Lined given text)
    (fine : ∀ line ∈ given, ¬Faulty line) :
    outcome.output = unlines (answers (startGraph plans) source given) ∧ outcome.status = 0 ∧
    outcome.error = none := by
  obtain ⟨log, rfl⟩ := classifies.routed
  obtain ⟨log, routed⟩ := routeInput_fine lined fine source (startGraph plans)
  rw [routed]
  exact ⟨rfl, rfl, rfl⟩

theorem Classifies.faulty {path : String} {plans : List SessionPlan} {outcome : Outcome}
    {after : List String}
    (classifies : Classifies path source plans text outcome) (lined : Lined (before ++ line :: after) text)
    (fine : ∀ line ∈ before, ¬Faulty line) (faulty : Faulty line) :
    outcome.output = unlines (answers (startGraph plans) source before) ∧ outcome.status = 1 ∧
      outcome.error = some (.configuration ("invalid event on line " ++ toString (before.length + 1))) := by
  obtain ⟨log, rfl⟩ := classifies.routed
  rw [routeInput_faulty lined fine faulty]
  exact ⟨rfl, rfl, rfl⟩

/-- Behind a text without faulty lines another text is answered as it is alone. -/
theorem Classifies.joined {path front back : String} {plans : List SessionPlan} {outcome one two : Outcome}
    (whole : Classifies path source plans (front ++ back) outcome) (closed : Closed front)
    (lined : Lined given front)
    (first : Classifies path source plans front one) (second : Classifies path source plans back two)
    (fine : ∀ line ∈ given, ¬Faulty line) :
    outcome.output = one.output ++ two.output ∧ outcome.status = two.status := by
  obtain ⟨more, linedMore⟩ := Text.exists_lined back
  have linedWhole := lined.append closed linedMore
  rw [(first.fine lined fine).1]
  rcases exists_first_faulty more with fineMore | ⟨before, line, after, rfl, fineBefore, faulty⟩
  · have all : ∀ line ∈ given ++ more, ¬Faulty line := List.forall_mem_append.2 ⟨fine, fineMore⟩
    obtain ⟨output, status, -⟩ := whole.fine linedWhole all
    obtain ⟨outputMore, statusMore, -⟩ := second.fine linedMore fineMore
    exact ⟨by rw [output, outputMore, answers_append, unlines_append], status.trans statusMore.symm⟩
  · have all : ∀ line ∈ given ++ before, ¬Faulty line :=
      List.forall_mem_append.2 ⟨fine, fineBefore⟩
    rw [← List.append_assoc] at linedWhole
    obtain ⟨output, status, -⟩ := whole.faulty linedWhole all faulty
    obtain ⟨outputMore, statusMore, -⟩ := second.faulty linedMore fineBefore faulty
    exact ⟨by rw [output, outputMore, answers_append, unlines_append], status.trans statusMore.symm⟩

end CommandLine

namespace Workspace

open CommandLine (Classifies Faulty answers answers_congr startGraph unlines)
open Text (Lined Closed)

variable {work other : Workspace} {path source text : String} {plans : List SessionPlan}
  {outcome : CommandLine.Outcome} {given : List String}

/-- A new graph of a configuration has the subscriptions that the configuration says. -/
theorem Run.keeps_plans (run : Run start work) (plans : List SessionPlan) :
    ∃ after, Run start after ∧ after.Keeps
      (RoomGraph.ofSessions (SessionPlan.buildAll plans work.store).1)
      (plans.map SessionPlan.subscription : List Subscription) := by
  obtain ⟨after, more, -, subscribed, live, -⟩ :=
    (run.sound start_sound).plans_built (run.told start_sound start_told) plans
  have whole : Run start after := run.trans more
  have keeps := (keeps_empty after).subscribeAll (whole.sound start_sound) live
  rw [subscribed, add_zero] at keeps
  exact ⟨after, whole, keeps⟩

/-- Two new graphs of a configuration send an event to the same rooms. -/
theorem Run.route_alike (run : Run start work) (also : Run start other) (plans : List SessionPlan)
    (source : String) (event : Event) :
    ((RoomGraph.ofSessions (SessionPlan.buildAll plans other.store).1).route source event).1 =
      ((RoomGraph.ofSessions (SessionPlan.buildAll plans work.store).1).route source event).1 := by
  obtain ⟨after, more, keeps⟩ := run.keeps_plans plans
  obtain ⟨twin, again, keepsTwin⟩ := also.keeps_plans plans
  exact (keeps.alike (more.sound start_sound) keepsTwin (again.sound start_sound)).2 source event

theorem Run.mem_route_iff (run : Run start work) (plans : List SessionPlan) (source destination : String)
    (event : Event) :
    destination ∈ ((RoomGraph.ofSessions (SessionPlan.buildAll plans work.store).1).route
      source event).1 ↔
      ∃ plan ∈ plans, plan.source = source ∧ plan.destination = destination ∧
        (plan.rule.getD .anything).holds event = true := by
  obtain ⟨after, more, keeps⟩ := run.keeps_plans plans
  refine (keeps.mem_destinations_iff (more.sound start_sound) source destination event).trans ?_
  simp only [Multiset.mem_coe, List.mem_map, SessionPlan.subscription, Subscription.mk.injEq]
  constructor
  · rintro ⟨_, ⟨plan, inside, rfl, rfl, rfl⟩, holds⟩
    exact ⟨plan, inside, rfl, rfl, by rwa [Expression.holds_canonical] at holds⟩
  · rintro ⟨plan, inside, rfl, rfl, holds⟩
    exact ⟨_, ⟨plan, inside, rfl, rfl, rfl⟩, by rwa [Expression.holds_canonical]⟩

/-- Destinations in ascending order of the sessions that take the event are the rooms that it goes to. -/
theorem Run.route_eq (run : Run start work) (plans : List SessionPlan) (source : String) (event : Event)
    (rooms : List String) (ascending : rooms.Pairwise (· < ·))
    (taken : (plans.filter fun plan => plan.source = source ∧
      (plan.rule.getD .anything).holds event = true).map
      (·.destination) = rooms) :
    ((RoomGraph.ofSessions (SessionPlan.buildAll plans work.store).1).route source event).1 = rooms := by
  refine (RoomGraph.destinations_ascending _ source event).eq_of_mem_iff ascending fun destination => ?_
  refine (run.mem_route_iff plans source destination event).trans ?_
  rw [← taken]
  simp only [List.mem_map, List.mem_filter, decide_eq_true_eq]
  grind

/-- With a configuration that loads, a text of lines without a faulty one is answered to the end and with
success. The first faulty line ends it with its number, and the answers to the lines before it stay. Every
line that is not blank is answered with the rooms, in ascending order, of the sessions that take its
event, as any new graph of the configuration routes it. So what follows a text without faulty lines, from
a line end on, is answered as it is alone. -/
theorem lines_are_answered_one_by_one (run : Run start work)
    (classifies : Classifies path source plans text outcome) (lined : Lined given text) :
    let fresh := RoomGraph.ofSessions (SessionPlan.buildAll plans work.store).1
    ((∀ line ∈ given, ¬Faulty line) →
      outcome.output = unlines (answers fresh source given) ∧ outcome.status = 0 ∧
      outcome.error = none) ∧
    (∀ before line after, given = before ++ line :: after →
      (∀ earlier ∈ before, ¬Faulty earlier) → Faulty line →
      outcome.output = unlines (answers fresh source before) ∧ outcome.status = 1 ∧
        outcome.error =
          some (.configuration ("invalid event on line " ++ toString (before.length + 1)))) ∧
    (∀ event, (fresh.route source event).1.Pairwise (· < ·) ∧
      ∀ destination, destination ∈ (fresh.route source event).1 ↔
        ∃ plan ∈ plans, plan.source = source ∧ plan.destination = destination ∧
          (plan.rule.getD .anything).holds event = true) ∧
    ∀ front back first one two, text = front ++ back → Closed front → Lined first front →
      Classifies path source plans front one → Classifies path source plans back two →
        (∀ line ∈ first, ¬Faulty line) → outcome.output = one.output ++ two.output ∧
          outcome.status = two.status := by
  intro fresh
  have alike (lines : List String) : answers (startGraph plans) source lines = answers fresh source lines :=
    answers_congr (fun source event => run.route_alike .refl plans source event) source lines
  refine ⟨fun fine => ?_, fun before line after split fine faulty => ?_,
    fun event => ⟨?_, fun destination => ?_⟩, ?_⟩
  · rw [← alike]
    exact classifies.fine lined fine
  · subst split
    rw [← alike]
    exact classifies.faulty lined fine faulty
  · exact fresh.destinations_ascending source event
  · exact run.mem_route_iff plans source destination event
  · rintro front back first one two rfl closed linedFirst alone also fine
    exact classifies.joined closed linedFirst alone also fine

/-- Two lines are answered, one is blank, and the fourth is no event. -/
theorem lines_are_answered_one_by_one_faulty :
    let config := "[src=in, dst=all]\n[src=in, dst=out]\nk=a\n"
    let front := "\x7b\"k\":\"A\"\x7d\r\n \n"
    let back := "\x7b\"k\":[\"b\"]\x7d\n[]\n\x7b\x7d"
    let outcome := fun text : String =>
      CommandLine.classify (fun _ => .ok config.toUTF8) text.toUTF8 "rooms" "in" none
    (outcome (front ++ back)).output = "[\"all\",\"out\"]\n[\"all\"]\n" ∧
      (outcome (front ++ back)).status = 1 ∧
      (outcome (front ++ back)).error = some (.configuration "invalid event on line 4") ∧
      (outcome (front ++ back)).output = (outcome front).output ++ (outcome back).output := by
  intro config front back outcome
  let plans := (Configuration.passages (Configuration.sayings config)).flatMap Configuration.Passage.plans
  have loads : (Configuration.ofFile "rooms" (.ok config.toUTF8)).outcome = .ok plans := by
    have format : Configuration.Format.ofPath "rooms" = .sections := by decide +kernel
    simp only [Configuration.ofFile, format, Configuration.ofBytes,
      Configuration.ofSections_outcome config, plans]
  have classifies (text : String) : Classifies "rooms" "in" plans text (outcome text) := .run loads rfl
  have linedFront : Lined ["\x7b\"k\":\"A\"\x7d", " "] front := Text.lined_iff.2 (by decide +kernel)
  have lined : Lined ["\x7b\"k\":\"A\"\x7d", " ", "\x7b\"k\":[\"b\"]\x7d", "[]", "\x7b\x7d"]
      (front ++ back) :=
    Text.lined_iff.2 (by decide +kernel)
  obtain ⟨-, ends, -, joins⟩ := lines_are_answered_one_by_one .refl (classifies (front ++ back)) lined
  obtain ⟨output, status, error⟩ :=
    ends ["\x7b\"k\":\"A\"\x7d", " ", "\x7b\"k\":[\"b\"]\x7d"] "[]" ["\x7b\x7d"] rfl
    (by decide +kernel) (by decide +kernel)
  have held : CommandLine.events ["\x7b\"k\":\"A\"\x7d", " ", "\x7b\"k\":[\"b\"]\x7d"] =
      [(Event.empty.add "k" "A").2, (Event.empty.add "k" "b").2] := by decide +kernel
  have both := Run.route_eq .refl plans "in" (Event.empty.add "k" "A").2 ["all", "out"] (by decide)
    (by decide +kernel)
  have one := Run.route_eq .refl plans "in" (Event.empty.add "k" "b").2 ["all"] (by decide)
    (by decide +kernel)
  rw [answers, held, List.map_cons, List.map_singleton, both, one] at output
  have closed : Closed front := by
    have last : front.toList.getLast? = some '\n' := by decide +kernel
    exact fun c ends => Option.some.inj (ends.symm.trans last)
  exact ⟨output, status, error,
    (joins front back _ _ _ rfl closed linedFront (classifies front) (classifies back)
    (by decide +kernel)).1⟩

end Workspace

end EventRouting
