import EventRouting.Proofs.RoomGraph.History

set_option autoImplicit false

namespace EventRouting

namespace Workspace

open RoomGraph (Record subscriptions)

/-- The graph counts each subscription as often as it occurs, and its rules are in use. -/
structure Keeps (work : Workspace) (graph : RoomGraph) (sessions : Multiset Subscription) : Prop where
  tidy : graph.Tidy
  live : ∀ rule ∈ graph.rules, work.Live (.rule rule)
  counts : ∀ rule, work.Live (.rule rule) → ∀ source destination,
    graph.count source rule destination = sessions.count ⟨source, destination, rule.canonical⟩
  known : ∀ session ∈ sessions, ∃ rule, work.Live (.rule rule) ∧ rule.canonical = session.rule

variable {work before after : Workspace} {graph : RoomGraph} {sessions : Multiset Subscription}
  {history : List Record}

theorem keeps_empty (work : Workspace) : work.Keeps .empty 0 :=
  ⟨RoomGraph.tidy_empty, fun _ inside => by contradiction, fun _ _ _ _ => rfl, by simp⟩

/-- A rule in use that counts is a rule of the graph. -/
theorem Keeps.mem_rules (keeps : work.Keeps graph sessions) (sound : work.Sound) {rule : Rule}
    (live : work.Live (.rule rule)) {source destination : String}
    (counted : 0 < graph.count source rule destination) : rule ∈ graph.rules := by
  obtain ⟨other, inside, same⟩ := keeps.tidy.registered counted
  rwa [← sound.chronicle.family.unique other rule (keeps.live other inside) live same]

theorem Keeps.mem_iff (keeps : work.Keeps graph sessions) (sound : work.Sound) (session : Subscription) :
    session ∈ sessions ↔ ∃ rule ∈ graph.rules, rule.canonical = session.rule ∧
      0 < graph.count session.source rule session.destination := by
  constructor
  · intro inside
    obtain ⟨rule, live, takes⟩ := keeps.known session inside
    have counted : 0 < graph.count session.source rule session.destination := by
      rw [keeps.counts rule live, takes]
      exact Multiset.count_pos.2 inside
    exact ⟨rule, keeps.mem_rules sound live counted, takes, counted⟩
  · rintro ⟨rule, inside, takes, counted⟩
    rw [keeps.counts rule (keeps.live rule inside), takes] at counted
    exact Multiset.count_pos.1 counted

/-- Work that keeps the rules of the graph in use leaves the graph as it is. A rule that comes up has a
new number and is of none of the classes subscribed to. -/
theorem Keeps.later (keeps : before.Keeps graph sessions) (soundBefore : before.Sound)
    (soundAfter : after.Sound) (kept : ∀ rule ∈ graph.rules, after.Live (.rule rule)) :
    after.Keeps graph sessions := by
  refine ⟨keeps.tidy, kept, fun rule live source destination => ?_, fun session inside => ?_⟩
  · by_cases member : rule ∈ graph.rules
    · exact keeps.counts rule (keeps.live rule member) source destination
    · have uncounted : graph.count source rule destination = 0 := by
        rw [← Nat.le_zero, ← Nat.not_lt]
        intro counted
        obtain ⟨other, inside, same⟩ := keeps.tidy.registered counted
        exact member (soundAfter.chronicle.family.unique other rule
          (kept other inside) live same ▸ inside)
      rw [uncounted, eq_comm, Multiset.count_eq_zero]
      intro subscribed
      obtain ⟨other, inside, takes, -⟩ := (keeps.mem_iff soundBefore _).1 subscribed
      exact member (soundAfter.canonical_injective (kept other inside) live takes ▸ inside)
  · obtain ⟨rule, member, takes, -⟩ := (keeps.mem_iff soundBefore session).1 inside
    exact ⟨rule, kept rule member, takes⟩

/-- One session of a rule in use stands for one subscription. -/
theorem Sound.subscription_eq_iff (sound : work.Sound) {session : Session}
    (live : work.Live (.rule session.rule)) {rule : Rule} (ruleLive : work.Live (.rule rule))
    (source destination : String) :
    (source = session.source ∧ rule.id = session.rule.id ∧ destination = session.destination) ↔
      (⟨source, destination, rule.canonical⟩ : Subscription) = session.subscription := by
  rw [sound.id_eq_iff ruleLive live, Session.subscription, Subscription.mk.injEq]
  exact and_congr_right fun _ => and_comm

theorem Keeps.subscribe (keeps : work.Keeps graph sessions) (sound : work.Sound) {session : Session}
    (live : work.Live (.rule session.rule)) :
    work.Keeps (graph.subscribe session) (session.subscription ::ₘ sessions) := by
  refine ⟨keeps.tidy.subscribe session, fun rule inside => ?_, fun rule ruleLive source destination => ?_,
    fun other inside => ?_⟩
  · rcases keeps.tidy.mem_rules_subscribe inside with rfl | old
    · exact live
    · exact keeps.live rule old
  · rw [keeps.tidy.count_subscribe, keeps.counts rule ruleLive, Multiset.count_cons]
    simp only [sound.subscription_eq_iff live ruleLive]
  · rcases Multiset.mem_cons.1 inside with rfl | old
    · exact ⟨session.rule, live, rfl⟩
    · exact keeps.known other old

theorem Keeps.unsubscribe (keeps : work.Keeps graph sessions) (sound : work.Sound) {session : Session}
    (live : work.Live (.rule session.rule)) :
    work.Keeps (graph.unsubscribe session) (sessions.erase session.subscription) := by
  refine ⟨keeps.tidy.unsubscribe session, fun rule inside => ?_,
    fun rule ruleLive source destination => ?_,
    fun other inside => ?_⟩
  · exact keeps.live rule (keeps.tidy.mem_rules_unsubscribe inside)
  · rw [keeps.tidy.count_unsubscribe, keeps.counts rule ruleLive]
    simp only [sound.subscription_eq_iff live ruleLive]
    split
    · next own => rw [own, Multiset.count_erase_self]
    · next apart => rw [Multiset.count_erase_of_ne apart, Nat.sub_zero]
  · exact keeps.known other (Multiset.mem_of_mem_erase inside)

theorem Keeps.subscribeAll {config : List Session} (keeps : work.Keeps graph sessions) (sound : work.Sound)
    (live : ∀ session ∈ config, work.Live (.rule session.rule)) :
    work.Keeps (graph.subscribeAll config) (config.map Session.subscription + sessions) := by
  induction config generalizing graph sessions with
  | nil => simpa [RoomGraph.subscribeAll] using keeps
  | cons session rest ih =>
    rw [List.forall_mem_cons] at live
    have later := ih (keeps.subscribe sound live.1) live.2
    rwa [Multiset.add_cons, ← Multiset.cons_add] at later

theorem Keeps.unsubscribeAll {config : List Session} (sound : work.Sound)
    (keeps : work.Keeps graph (config.map Session.subscription + sessions))
    (live : ∀ session ∈ config, work.Live (.rule session.rule)) :
    work.Keeps (config.foldl RoomGraph.unsubscribe graph) sessions := by
  induction config generalizing graph with
  | nil => simpa using keeps
  | cons session rest ih =>
    rw [List.forall_mem_cons] at live
    apply ih _ live.2
    have later := keeps.unsubscribe sound live.1
    rwa [List.map_cons, ← Multiset.cons_coe, Multiset.cons_add, Multiset.erase_cons_head] at later

/-- Counting what goes where changes no registration. -/
theorem Keeps.recount (keeps : work.Keeps graph sessions) (stats : List (String × RoomStats)) :
    work.Keeps { graph with stats } sessions :=
  ⟨⟨keeps.tidy.ascending, keeps.tidy.wanted, keeps.tidy.classifiers⟩, keeps.live, keeps.counts,
    keeps.known⟩

/-- Of a source that is unknown nothing is subscribed. -/
theorem Keeps.ignore (keeps : work.Keeps graph sessions) (sound : work.Sound) {session : Subscription}
    (unknown : graph.isSource session.source = false) : work.Keeps graph (sessions.erase session) := by
  rwa [Multiset.erase_of_notMem]
  intro inside
  obtain ⟨rule, member, -, counted⟩ := (keeps.mem_iff sound session).1 inside
  rw [(keeps.tidy.isSource_iff session.source).2 ⟨rule, member, _, counted⟩] at unknown
  contradiction

/-- In every state a graph counts what its history leaves. -/
theorem Operates.keeps (operates : Operates work graph history) :
    work.Keeps graph (subscriptions history) := by
  induction operates with
  | fresh => exact keeps_empty _
  | work operates step kept ih => exact ih.later operates.sound (step.sound operates.sound) kept
  | @subscribe work _ _ operates source destination rule takes gives ih =>
    have sound := (work.supplied_run rule).sound operates.sound
    obtain ⟨live, same⟩ := gives.between operates.sound operates.told source destination
    have later := ih.later operates.sound sound fun other inside => (ih.live other inside).supplied rule
    rw [subscriptions, ← same]
    exact later.subscribe sound live
  | @unsubscribe work _ _ operates source destination rule takes gives ih =>
    have sound := (work.supplied_run rule).sound operates.sound
    obtain ⟨live, same⟩ := gives.between operates.sound operates.told source destination
    have later := ih.later operates.sound sound fun other inside => (ih.live other inside).supplied rule
    rw [subscriptions, ← same]
    exact later.unsubscribe sound live
  | ignore operates source destination gives unknown ih => exact ih.ignore operates.sound unknown
  | apply operates config held ih =>
    have same : config.map (fun given =>
        (⟨given.1.source, given.1.destination, given.2.canonical⟩ : Subscription)) =
          (config.map Prod.fst).map Session.subscription := by
      rw [List.map_map]
      refine List.map_congr_left fun given inside => ?_
      rw [← operates.told.canonical_eq operates.sound (held given inside)]
      rfl
    rw [subscriptions, same]
    refine ih.subscribeAll operates.sound fun session inside => ?_
    obtain ⟨given, member, rfl⟩ := List.mem_map.1 inside
    exact live_of_held (held given member)
  | route _ source event ih => exact ih.recount _
  | takeStats _ ih => exact ih.recount _

theorem Keeps.isSource_iff (keeps : work.Keeps graph sessions) (sound : work.Sound) (room : String) :
    graph.isSource room = true ↔ ∃ session ∈ sessions, session.source = room := by
  rw [keeps.tidy.isSource_iff]
  constructor
  · rintro ⟨rule, inside, destination, counted⟩
    exact ⟨⟨room, destination, rule.canonical⟩,
      (keeps.mem_iff sound _).2 ⟨rule, inside, rfl, counted⟩, rfl⟩
  · rintro ⟨session, inside, rfl⟩
    obtain ⟨rule, member, -, counted⟩ := (keeps.mem_iff sound session).1 inside
    exact ⟨rule, member, session.destination, counted⟩

theorem Keeps.mem_destinations_iff (keeps : work.Keeps graph sessions) (sound : work.Sound)
    (source destination : String) (event : Event) : destination ∈ graph.destinations source event ↔
      ∃ rule, ⟨source, destination, rule⟩ ∈ sessions ∧ rule.holds event = true := by
  rw [keeps.tidy.mem_destinations_iff sound.chronicle.family keeps.live]
  constructor
  · rintro ⟨rule, inside, counted, holds⟩
    refine ⟨rule.canonical, (keeps.mem_iff sound _).2 ⟨rule, inside, rfl, counted⟩, ?_⟩
    rwa [sound.holds_canonical (keeps.live rule inside)]
  · rintro ⟨takes, inside, holds⟩
    obtain ⟨rule, member, rfl, counted⟩ := (keeps.mem_iff sound _).1 inside
    refine ⟨rule, member, counted, ?_⟩
    rwa [← sound.holds_canonical (keeps.live rule member)]

/-- Graphs of the same subscriptions have the same sources and send events to the same rooms. -/
theorem Keeps.alike {other : Workspace} {twin : RoomGraph} (keeps : work.Keeps graph sessions)
    (sound : work.Sound) (keepsTwin : other.Keeps twin sessions) (soundTwin : other.Sound) :
    twin.sources = graph.sources ∧
      ∀ source event, (twin.route source event).1 = (graph.route source event).1 := by
  constructor
  · refine keepsTwin.tidy.ascending.eq_of_mem_iff keeps.tidy.ascending fun room => ?_
    rw [RoomGraph.mem_sources_iff, RoomGraph.mem_sources_iff, keeps.isSource_iff sound,
      keepsTwin.isSource_iff soundTwin]
  · intro source event
    refine (twin.destinations_ascending source event).eq_of_mem_iff
      (graph.destinations_ascending source event)
      fun destination => ?_
    exact (keepsTwin.mem_destinations_iff soundTwin source destination event).trans
      (keeps.mem_destinations_iff sound source destination event).symm

/-- In every state of every run a graph is the multiset of subscriptions that its history leaves: the
sources are theirs, and an event goes to the destinations of those that take it. Histories that leave the
same subscriptions cannot be told apart. A rule that is built again is the one in the graph, and sessions
that are subscribed to and taken back, in any order, leave everything as it was. -/
theorem graph_routes_subscriptions (operates : Operates work graph history) :
    (∀ room, graph.isSource room = true ↔
      ∃ session ∈ subscriptions history, session.source = room) ∧
    graph.sources.Pairwise (· < ·) ∧
    (∀ room, room ∈ graph.sources ↔ ∃ session ∈ subscriptions history, session.source = room) ∧
    (∀ source event, (graph.route source event).1.Pairwise (· < ·) ∧
      ∀ destination, destination ∈ (graph.route source event).1 ↔
        ∃ rule, ⟨source, destination, rule⟩ ∈ subscriptions history ∧ rule.holds event = true) ∧
    (∀ rule origin, .rule rule origin ∈ work.held → rule.canonical = origin.canonical ∧
      ∀ event, rule.isMatch event = origin.canonical.holds event) ∧
    (∀ rule ∈ graph.rules, ∀ expression : Expression,
      (expression.build work.store).1 = rule ↔ expression.canonical = rule.canonical) ∧
    (∀ other twin history', Operates other twin history' →
      subscriptions history' = subscriptions history →
        twin.sources = graph.sources ∧
          ∀ source event, (twin.route source event).1 = (graph.route source event).1) ∧
    ∀ config order : List Session, (∀ session ∈ config, work.Live (.rule session.rule)) →
      order.Perm config →
        let restored := order.foldl RoomGraph.unsubscribe (graph.subscribeAll config)
        restored.sources = graph.sources ∧
          ∀ source event, (restored.route source event).1 = (graph.route source event).1 := by
  have sound := operates.sound
  have told := operates.told
  have keeps := operates.keeps
  refine ⟨keeps.isSource_iff sound, keeps.tidy.ascending, fun room => ?_,
    fun source event => ⟨?_, ?_⟩,
    fun rule origin held => ⟨told.canonical_eq sound held, fun event => ?_⟩, ?_, ?_, ?_⟩
  · rw [RoomGraph.mem_sources_iff, keeps.isSource_iff sound]
  · exact graph.destinations_ascending source event
  · exact fun destination => keeps.mem_destinations_iff sound source destination event
  · rw [sound.chronicle.family.isMatch_eq_holds (live_of_held held), Expression.holds_canonical]
    exact told.holds held event
  · exact fun rule inside expression => sound.build_eq_iff told (keeps.live rule inside) expression
  · intro other twin history' operates' same
    exact keeps.alike sound (same ▸ operates'.keeps) operates'.sound
  · intro config order live perm
    have subscribed := keeps.subscribeAll sound live
    rw [← Multiset.coe_eq_coe.2 (perm.map Session.subscription)] at subscribed
    have restored := Keeps.unsubscribeAll sound subscribed fun session inside =>
      live session (perm.mem_iff.1 inside)
    exact keeps.alike sound restored sound

/-- A session takes an event, which is counted, and is taken back with a rule that was built from other
words. -/
theorem graph_routes_subscriptions_rebuilt :
    let expression := Expression.both (.no (.fuzzy (.string "a"))) .anything
    let swapped := Expression.both .anything (.no (.fuzzy (.string "a")))
    let built := expression.build start.store
    let again := swapped.build built.2
    let graph := RoomGraph.empty.subscribe ⟨"in", "out", built.1⟩
    let routed := graph.route "in" .empty
    "out" ∈ routed.1 ∧ (routed.2.unsubscribe ⟨"in", "out", again.1⟩).isSource "in" = false := by
  intro expression swapped built again graph routed
  obtain ⟨kept, early⟩ := start_sound.build_runs expression
  obtain ⟨last, late⟩ := (early.sound start_sound).build_runs swapped
  have subscribed := (Operates.fresh (early.trans late)).subscribe "in" "out"
    (.rule (List.mem_cons_of_mem _ List.mem_cons_self))
  have unsubscribed := (subscribed.route "in" .empty).unsubscribe "in" "out" (.rule List.mem_cons_self)
  have agree : swapped.canonical = expression.canonical := by decide
  obtain ⟨-, -, -, routes, -⟩ := graph_routes_subscriptions subscribed
  obtain ⟨isSource, -⟩ := graph_routes_subscriptions unsubscribed
  refine ⟨((routes "in" .empty).2 "out").2
    ⟨expression.canonical, Multiset.mem_cons_self _ _, by decide⟩, ?_⟩
  rw [Bool.eq_false_iff]
  intro left
  obtain ⟨session, inside, -⟩ := (isSource "in").1 left
  simp only [RoomGraph.subscriptions, agree, Multiset.erase_cons_head] at inside
  exact Multiset.notMem_zero session inside

end Workspace

end EventRouting
