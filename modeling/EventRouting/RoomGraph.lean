import EventRouting.Ascending
import EventRouting.Classifier
import EventRouting.Log
import EventRouting.Rule.Build
import EventRouting.Text.Quoted

set_option autoImplicit false

namespace EventRouting

structure Session where
  source : String
  destination : String
  rule : Rule

/-- The session of a rule that is held already or, without one, of the rule that matches everything. -/
def Session.between (source destination : String) : Option Rule → Build Session
  | some rule => return ⟨source, destination, rule⟩
  | none => return ⟨source, destination, ← Store.anything⟩

/-- How many events a room gave as a source, and how many it got as a destination. -/
structure RoomStats where
  seen : Nat
  sent : Nat
deriving DecidableEq, Repr

structure RoomGraph where
  classifiers : List (String × Classifier String)
  stats : List (String × RoomStats)

namespace RoomGraph

def empty : RoomGraph := ⟨[], []⟩

def classifier? (graph : RoomGraph) (room : String) : Option (Classifier String) :=
  graph.classifiers.lookup room

def subscribe (graph : RoomGraph) (session : Session) : RoomGraph :=
  let classifiers := Ascending.adjust session.source Classifier.empty
    (·.inc session.rule session.destination) graph.classifiers
  { graph with classifiers }

/-- Undoes one subscription; a source without sessions is no source any more. -/
def unsubscribe (graph : RoomGraph) (session : Session) : RoomGraph :=
  match graph.classifier? session.source with
  | none => graph
  | some classifier =>
    let left := classifier.dec session.rule session.destination
    let classifiers :=
      if left.isEmpty then graph.classifiers.filter (·.1 ≠ session.source)
      else Ascending.adjust session.source left (fun _ => left) graph.classifiers
    { graph with classifiers }

def subscribeAll (graph : RoomGraph) (sessions : List Session) : RoomGraph :=
  sessions.foldl subscribe graph

def ofSessions (sessions : List Session) : RoomGraph := empty.subscribeAll sessions

def isSource (graph : RoomGraph) (room : String) : Bool := (graph.classifier? room).isSome

/-- The source rooms, ascending. -/
def sources (graph : RoomGraph) : List String := graph.classifiers.map Prod.fst

/-- Every rule of every session. -/
def rules (graph : RoomGraph) : List Rule := graph.classifiers.flatMap (·.2.rules)

def countSeen (room : String) (stats : List (String × RoomStats)) : List (String × RoomStats) :=
  Ascending.adjust room ⟨0, 0⟩ (fun counts => { counts with seen := counts.seen + 1 }) stats

def countSent (room : String) (stats : List (String × RoomStats)) : List (String × RoomStats) :=
  Ascending.adjust room ⟨0, 0⟩ (fun counts => { counts with sent := counts.sent + 1 }) stats

/-- The rooms that want an event of `source`, ascending. -/
def destinations (graph : RoomGraph) (source : String) (event : Event) : List String :=
  match graph.classifier? source with
  | some classifier => Ascending.insertAll (classifier.classify event) []
  | none => []

/-- The rooms that an event of `source` goes to, ascending. Both ends are counted. -/
def route (graph : RoomGraph) (source : String) (event : Event) : List String × RoomGraph :=
  let rooms := graph.destinations source event
  let stats := rooms.foldl (fun stats room => countSent room stats) (countSeen source graph.stats)
  (rooms, { graph with stats })

def statsEntry (room : String) (counts : RoomStats) : LogEntry :=
  ⟨.info, "Room " ++ Text.quoted room ++ ": seen " ++ toString counts.seen ++ ", sent " ++
    toString counts.sent ++ " events"⟩

/-- The counts by room, which start again from nothing. -/
def takeStats (graph : RoomGraph) : List (String × RoomStats) × RoomGraph :=
  (graph.stats, { graph with stats := [] })

end RoomGraph

end EventRouting
