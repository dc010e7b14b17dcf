import EventRouting.Proofs.RoomGraph.Counting
import EventRouting.Proofs.Rule.Canonical
import Mathlib.Data.Multiset.AddSub

set_option autoImplicit false

namespace EventRouting

/-- A session, by what its rule is. -/
structure Subscription where
  source : String
  destination : String
  rule : CanonicalRule
deriving DecidableEq

def Session.subscription (session : Session) : Subscription :=
  ⟨session.source, session.destination, session.rule.canonical⟩

namespace RoomGraph

inductive Record where
  | subscribed (subscription : Subscription)
  | unsubscribed (subscription : Subscription)
  | applied (subscriptions : List Subscription)
  | routed (source : String) (event : Event) (rooms : List String)
  | reported (counts : List (String × RoomStats))

/-- The subscriptions that a history leaves. What was never subscribed is not missed when it goes. -/
def subscriptions : List Record → Multiset Subscription
  | [] => 0
  | .subscribed new :: earlier => new ::ₘ subscriptions earlier
  | .unsubscribed old :: earlier => (subscriptions earlier).erase old
  | .applied new :: earlier => new + subscriptions earlier
  | .routed _ _ _ :: earlier | .reported _ :: earlier => subscriptions earlier

end RoomGraph

namespace Workspace

open RoomGraph (Record)

/-- After the rule of a session was asked for, which is needed if none is given. -/
def supplied (work : Workspace) : Option Rule → Workspace
  | some _ => work
  | none => ⟨(Store.anything work.store).2, work.kept <|> some (Store.anything work.store).1,
      .rule (Store.anything work.store).1 .anything :: work.held⟩

/-- What a session takes that is asked for with a rule in hand, or without one. -/
inductive Gives (work : Workspace) : Option Rule → CanonicalRule → Prop where
  | rule {rule : Rule} {origin : Expression} (held : .rule rule origin ∈ work.held) :
    Gives work (some rule) origin.canonical
  | nothing : Gives work none Expression.anything.canonical

/-- A program that operates on a graph, in any order and with any other work in between. -/
inductive Operates : Workspace → RoomGraph → List Record → Prop where
  | fresh {work : Workspace} (run : Run start work) : Operates work .empty []
  | work {before after : Workspace} {graph : RoomGraph} {history : List Record}
    (operates : Operates before graph history) (step : Step before after)
    (kept : ∀ rule ∈ graph.rules, after.Live (.rule rule)) : Operates after graph history
  | subscribe {work : Workspace} {graph : RoomGraph} {history : List Record}
    (operates : Operates work graph history) (source destination : String) {rule : Option Rule}
    {takes : CanonicalRule} (gives : work.Gives rule takes) :
    Operates (work.supplied rule)
      (graph.subscribe (Session.between source destination rule work.store).1)
      (.subscribed ⟨source, destination, takes⟩ :: history)
  | unsubscribe {work : Workspace} {graph : RoomGraph} {history : List Record}
    (operates : Operates work graph history) (source destination : String) {rule : Option Rule}
    {takes : CanonicalRule} (gives : work.Gives rule takes) :
    Operates (work.supplied rule)
      (graph.unsubscribe (Session.between source destination rule work.store).1)
      (.unsubscribed ⟨source, destination, takes⟩ :: history)
  /-- Nothing is asked for if the source is unknown. -/
  | ignore {work : Workspace} {graph : RoomGraph} {history : List Record}
    (operates : Operates work graph history) (source destination : String) {rule : Option Rule}
    {takes : CanonicalRule} (gives : work.Gives rule takes) (unknown : graph.isSource source = false) :
    Operates work graph (.unsubscribed ⟨source, destination, takes⟩ :: history)
  | apply {work : Workspace} {graph : RoomGraph} {history : List Record}
    (operates : Operates work graph history) (config : List (Session × Expression))
    (held : ∀ given ∈ config, .rule given.1.rule given.2 ∈ work.held) :
    Operates work (graph.subscribeAll (config.map Prod.fst))
      (.applied (config.map fun given =>
        ⟨given.1.source, given.1.destination, given.2.canonical⟩) :: history)
  | route {work : Workspace} {graph : RoomGraph} {history : List Record}
    (operates : Operates work graph history) (source : String) (event : Event) :
    Operates work (graph.route source event).2
      (.routed source event (graph.route source event).1 :: history)
  | takeStats {work : Workspace} {graph : RoomGraph} {history : List Record}
    (operates : Operates work graph history) :
    Operates work graph.takeStats.2 (.reported graph.takeStats.1 :: history)

section

variable {work : Workspace} {graph : RoomGraph} {history : List Record}

theorem supplied_run (work : Workspace) (rule : Option Rule) : Run work (work.supplied rule) := by
  cases rule with
  | some rule => exact .refl
  | none => exact .single (.anything work)

theorem Operates.run (operates : Operates work graph history) : Run start work := by
  induction operates with
  | fresh run => exact run
  | work _ step _ ih => exact .tail ih step
  | @subscribe work _ _ _ _ _ rule _ _ ih | @unsubscribe work _ _ _ _ _ rule _ _ ih =>
    exact ih.trans (work.supplied_run rule)
  | ignore _ _ _ _ _ ih | apply _ _ _ ih | route _ _ _ ih | takeStats _ ih => exact ih

theorem Operates.sound (operates : Operates work graph history) : work.Sound :=
  operates.run.sound start_sound

theorem Operates.told (operates : Operates work graph history) : work.Told :=
  operates.run.told start_sound start_told

theorem Live.supplied {node : Handle} (live : work.Live node) (rule : Option Rule) :
    (work.supplied rule).Live node := by
  cases rule with
  | some rule => exact live
  | none =>
    refine live.mono fun root member => ?_
    rcases List.mem_append.1 member with inKept | inHeld
    · obtain ⟨kept, same, rfl⟩ := List.mem_map.1 inKept
      refine List.mem_append_left _ (List.mem_map.2 ⟨kept, Option.mem_toList.2 ?_, rfl⟩)
      rw [Workspace.supplied, Option.mem_toList.1 same]
      rfl
    · exact List.mem_append_right _ (List.mem_cons_of_mem _ inHeld)

/-- The session that is asked for is between the rooms, and its rule is in use and takes what it was asked
to. -/
theorem Gives.between (sound : work.Sound) (told : work.Told) {rule : Option Rule} {takes : CanonicalRule}
    (gives : work.Gives rule takes) (source destination : String) :
    (work.supplied rule).Live (.rule (Session.between source destination rule work.store).1.rule) ∧
      (Session.between source destination rule work.store).1.subscription =
        ⟨source, destination, takes⟩ := by
  cases gives with
  | rule held =>
    refine ⟨live_of_held held, ?_⟩
    rw [← told.canonical_eq sound held]
    rfl
  | nothing =>
    have run := work.supplied_run none
    have held : .rule (Store.anything work.store).1 .anything ∈ (work.supplied none).held :=
      List.mem_cons_self
    refine ⟨live_of_held held, ?_⟩
    rw [← (run.told sound told).canonical_eq (run.sound sound) held]
    rfl

end

end Workspace

end EventRouting
