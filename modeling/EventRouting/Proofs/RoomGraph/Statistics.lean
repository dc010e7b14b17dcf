import EventRouting.Proofs.RoomGraph.History

set_option autoImplicit false

namespace EventRouting

namespace RoomGraph

/-- The counts of a room, which are zero if it has none. -/
def countsOf (room : String) (stats : List (String × RoomStats)) : RoomStats :=
  (stats.lookup room).getD ⟨0, 0⟩

@[simp] theorem countsOf_nil (room : String) : countsOf room [] = ⟨0, 0⟩ := rfl

namespace Record

def isReport : Record → Bool
  | reported _ => true
  | subscribed _ | unsubscribed _ | applied _ | routed _ _ _ => false

/-- An event of the room was routed. -/
def isFrom (room : String) : Record → Bool
  | routed source _ _ => source = room
  | subscribed _ | unsubscribed _ | applied _ | reported _ => false

/-- An event went to the room. -/
def isTo (room : String) : Record → Bool
  | routed _ _ rooms => room ∈ rooms
  | subscribed _ | unsubscribed _ | applied _ | reported _ => false

/-- What was reported on a room, as seen or as sent. -/
def count (part : RoomStats → Nat) (room : String) : Record → Nat
  | reported counts => part (countsOf room counts)
  | subscribed _ | unsubscribed _ | applied _ | routed _ _ _ => 0

end Record

/-- The sum of what all reports say on a room. -/
def reportedCount (part : RoomStats → Nat) (room : String) (history : List Record) : Nat :=
  (history.map (Record.count part room)).sum

/-- What was done since the counts were last reported. -/
def sinceReport (history : List Record) : List Record := history.takeWhile (!·.isReport)

/-- The rooms of the counts ascend and are those that gave or got an event since the last report. -/
structure Lists (counts : List (String × RoomStats)) (history : List Record) : Prop where
  ascending : (counts.map Prod.fst).Pairwise (· < ·)
  mem_iff : ∀ room, room ∈ counts.map Prod.fst ↔
    ∃ record ∈ sinceReport history, record.isFrom room = true ∨ record.isTo room = true

variable {stats : List (String × RoomStats)}

theorem countsOf_countSeen (ascending : (stats.map Prod.fst).Pairwise (· < ·)) (source room : String) :
    countsOf room (countSeen source stats) =
      ⟨(countsOf room stats).seen + if room = source then 1 else 0, (countsOf room stats).sent⟩ := by
  rw [countsOf, countSeen, Ascending.lookup_adjust ascending, countsOf]
  by_cases own : room = source
  · simp [own]
  · simp [own]

theorem countsOf_countSent (ascending : (stats.map Prod.fst).Pairwise (· < ·))
    (destination room : String) :
    countsOf room (countSent destination stats) =
      ⟨(countsOf room stats).seen, (countsOf room stats).sent +
        if room = destination then 1 else 0⟩ := by
  rw [countsOf, countSent, Ascending.lookup_adjust ascending, countsOf]
  by_cases own : room = destination
  · simp [own]
  · simp [own]

theorem keys_countSentAll (rooms : List String) (stats : List (String × RoomStats)) :
    (rooms.foldl (fun stats room => countSent room stats) stats).map Prod.fst =
      Ascending.insertAll rooms (stats.map Prod.fst) := by
  induction rooms generalizing stats with
  | nil => rfl
  | cons first rest ih => rw [List.foldl_cons, ih, countSent, Ascending.keys_adjust]; rfl

theorem countsOf_countSentAll {rooms : List String} (once : rooms.Nodup)
    (ascending : (stats.map Prod.fst).Pairwise (· < ·)) (room : String) :
    countsOf room (rooms.foldl (fun stats room => countSent room stats) stats) =
      ⟨(countsOf room stats).seen, (countsOf room stats).sent + if room ∈ rooms then 1 else 0⟩ := by
  induction rooms generalizing stats with
  | nil => simp
  | cons first rest ih =>
    obtain ⟨new, others⟩ := List.nodup_cons.1 once
    have later : ((countSent first stats).map Prod.fst).Pairwise (· < ·) :=
      Ascending.ascending_adjust ascending
    rw [List.foldl_cons, ih others later, countsOf_countSent ascending]
    by_cases own : room = first
    · simp [own, new]
    · simp [own]

variable {graph : RoomGraph} {history : List Record}

/-- Routing counts the event once for its source and once for each room it goes to. -/
theorem countsOf_route (ascending : (graph.stats.map Prod.fst).Pairwise (· < ·)) (source : String)
    (event : Event) (room : String) : countsOf room (graph.route source event).2.stats =
      ⟨(countsOf room graph.stats).seen + if room = source then 1 else 0,
        (countsOf room graph.stats).sent + if room ∈ (graph.route source event).1 then 1 else 0⟩ := by
  have seen : ((countSeen source graph.stats).map Prod.fst).Pairwise (· < ·) :=
    Ascending.ascending_adjust ascending
  have once : (graph.destinations source event).Nodup := (graph.destinations_ascending source event).nodup
  rw [route]
  dsimp only
  rw [countsOf_countSentAll once seen, countsOf_countSeen ascending]

theorem keys_route (graph : RoomGraph) (source : String) (event : Event) :
    (graph.route source event).2.stats.map Prod.fst = Ascending.insertAll (graph.route source event).1
      (Ascending.insert source (graph.stats.map Prod.fst)) := by
  rw [route]
  dsimp only
  rw [keys_countSentAll, countSeen, Ascending.keys_adjust]

theorem Lists.route (lists : Lists graph.stats history) (source : String) (event : Event) :
    Lists (graph.route source event).2.stats
      (.routed source event (graph.route source event).1 :: history) := by
  refine ⟨?_, fun room => ?_⟩
  · rw [keys_route]
    exact Ascending.ascending_insertAll (Ascending.ascending_insert lists.ascending)
  · rw [keys_route, Ascending.mem_insertAll, Ascending.mem_insert, lists.mem_iff, sinceReport, sinceReport,
      List.takeWhile_cons_of_pos rfl, List.exists_mem_cons_iff, Record.isFrom, Record.isTo,
      decide_eq_true_iff, decide_eq_true_iff, ← or_assoc, @eq_comm _ room source]
    exact or_congr_left or_comm

theorem subscribe_stats (graph : RoomGraph) (session : Session) :
    (graph.subscribe session).stats = graph.stats := rfl

theorem unsubscribe_stats (graph : RoomGraph) (session : Session) :
    (graph.unsubscribe session).stats = graph.stats := by
  rw [unsubscribe]
  cases graph.classifier? session.source with
  | none => rfl
  | some classifier => rfl

theorem subscribeAll_stats (graph : RoomGraph) (sessions : List Session) :
    (graph.subscribeAll sessions).stats = graph.stats := by
  induction sessions generalizing graph with
  | nil => rfl
  | cons session rest ih => exact (ih (graph.subscribe session)).trans (graph.subscribe_stats session)

/-- All that a history says about counts that are pending after it. -/
structure Accounts (stats : List (String × RoomStats)) (history : List Record) : Prop where
  seen : ∀ room, reportedCount RoomStats.seen room history + (countsOf room stats).seen =
    history.countP (Record.isFrom room)
  sent : ∀ room, reportedCount RoomStats.sent room history + (countsOf room stats).sent =
    history.countP (Record.isTo room)
  pending : Lists stats history
  reports : ∀ later counts earlier, history = later ++ .reported counts :: earlier →
    Lists counts earlier

theorem reportedCount_cons (part : RoomStats → Nat) (room : String) (record : Record)
    (history : List Record) : reportedCount part room (record :: history) =
      record.count part room + reportedCount part room history := by
  rw [reportedCount, List.map_cons, List.sum_cons, reportedCount]

theorem accounts_empty : Accounts [] [] :=
  ⟨fun _ => rfl, fun _ => rfl, ⟨.nil, by simp [sinceReport]⟩, by simp⟩

/-- A record that is no report leaves the reports as they are. -/
theorem Accounts.reports_cons (accounts : Accounts stats history) {record : Record}
    (silent : record.isReport = false) (later : List Record) (counts : List (String × RoomStats))
    (earlier : List Record) (same : record :: history = later ++ .reported counts :: earlier) :
    Lists counts earlier := by
  cases later with
  | nil =>
    obtain ⟨rfl, -⟩ := List.cons.inj same
    contradiction
  | cons first rest => exact accounts.reports rest counts earlier (List.cons.inj same).2

/-- What neither routes nor reports leaves the accounts as they are. -/
theorem Accounts.other (accounts : Accounts stats history) {record : Record}
    (silent : record.isReport = false)
    (nowhere : ∀ room, record.isFrom room = false ∧ record.isTo room = false) :
    Accounts stats (record :: history) := by
  have uncounted (part : RoomStats → Nat) (room : String) : record.count part room = 0 := by
    cases record with
    | reported => contradiction
    | subscribed | unsubscribed | applied | routed => rfl
  refine ⟨fun room => ?_, fun room => ?_, ⟨accounts.pending.ascending, fun room => ?_⟩,
    accounts.reports_cons silent⟩
  · rw [reportedCount_cons, uncounted, Nat.zero_add, accounts.seen, List.countP_cons_of_neg]
    simp [nowhere room]
  · rw [reportedCount_cons, uncounted, Nat.zero_add, accounts.sent, List.countP_cons_of_neg]
    simp [nowhere room]
  · rw [accounts.pending.mem_iff, sinceReport, sinceReport, List.takeWhile_cons_of_pos (by simp [silent]),
      List.exists_mem_cons_iff, or_iff_right]
    simp [nowhere room]

theorem Accounts.route (accounts : Accounts graph.stats history) (source : String) (event : Event) :
    Accounts (graph.route source event).2.stats
      (.routed source event (graph.route source event).1 :: history) := by
  have counts := countsOf_route accounts.pending.ascending source event
  refine ⟨fun room => ?_, fun room => ?_, accounts.pending.route source event,
    accounts.reports_cons rfl⟩
  · rw [reportedCount_cons, Record.count, Nat.zero_add, counts, ← Nat.add_assoc, accounts.seen,
      List.countP_cons, Record.isFrom]
    simp only [decide_eq_true_eq, @eq_comm _ room source]
  · rw [reportedCount_cons, Record.count, Nat.zero_add, counts, ← Nat.add_assoc, accounts.sent,
      List.countP_cons, Record.isTo]
    simp only [decide_eq_true_eq]

theorem Accounts.report (accounts : Accounts stats history) : Accounts [] (.reported stats :: history) := by
  refine ⟨fun room => ?_, fun room => ?_, ⟨.nil, by simp [sinceReport, Record.isReport]⟩, ?_⟩
  · rw [reportedCount_cons, Record.count,
      List.countP_cons_of_neg (by simp [Record.isFrom]), ← accounts.seen, countsOf_nil,
      Nat.add_comm (reportedCount _ _ _)]
    rfl
  · rw [reportedCount_cons, Record.count,
      List.countP_cons_of_neg (by simp [Record.isTo]), ← accounts.sent, countsOf_nil,
      Nat.add_comm (reportedCount _ _ _)]
    rfl
  · intro later counts earlier same
    cases later with
    | nil =>
      obtain ⟨told, rfl⟩ := List.cons.inj same
      exact Record.reported.inj told ▸ accounts.pending
    | cons first rest => exact accounts.reports rest counts earlier (List.cons.inj same).2

end RoomGraph

namespace Workspace

open RoomGraph (Record countsOf reportedCount sinceReport)

variable {work : Workspace} {graph : RoomGraph} {history : List Record}

theorem Operates.accounts (operates : Operates work graph history) :
    RoomGraph.Accounts graph.stats history := by
  induction operates with
  | fresh => exact RoomGraph.accounts_empty
  | work _ _ _ ih => exact ih
  | subscribe _ _ _ _ ih => exact ih.other rfl fun _ => ⟨rfl, rfl⟩
  | unsubscribe _ _ _ _ ih =>
    rw [RoomGraph.unsubscribe_stats]
    exact ih.other rfl fun _ => ⟨rfl, rfl⟩
  | ignore _ _ _ _ _ ih => exact ih.other rfl fun _ => ⟨rfl, rfl⟩
  | apply _ _ _ ih =>
    rw [RoomGraph.subscribeAll_stats]
    exact ih.other rfl fun _ => ⟨rfl, rfl⟩
  | route _ source event ih => exact ih.route source event
  | takeStats _ ih => exact ih.report

/-- In every run each event is counted once for its source and once for each room it went to: what the
reports say and what is pending add up to that. A report is ascending, has the rooms that gave or got an
event since the report before it, and leaves nothing pending. Only routing counts. -/
theorem counts_are_reported_or_pending (operates : Operates work graph history) :
    (∀ room, reportedCount RoomStats.seen room history + (countsOf room graph.stats).seen =
      history.countP (Record.isFrom room)) ∧
    (∀ room, reportedCount RoomStats.sent room history + (countsOf room graph.stats).sent =
      history.countP (Record.isTo room)) ∧
    (∀ later counts earlier, history = later ++ .reported counts :: earlier →
      (counts.map Prod.fst).Pairwise (· < ·) ∧ ∀ room, room ∈ counts.map Prod.fst ↔
        ∃ record ∈ sinceReport earlier, record.isFrom room = true ∨ record.isTo room = true) ∧
    graph.takeStats.2.stats = [] ∧
    (∀ source event room, countsOf room (graph.route source event).2.stats =
      ⟨(countsOf room graph.stats).seen + if room = source then 1 else 0,
        (countsOf room graph.stats).sent + if room ∈ (graph.route source event).1 then 1 else 0⟩) ∧
    (∀ session, (graph.subscribe session).stats = graph.stats ∧
      (graph.unsubscribe session).stats = graph.stats) ∧
    ∀ sessions, (graph.subscribeAll sessions).stats = graph.stats := by
  have accounts := operates.accounts
  refine ⟨accounts.seen, accounts.sent, fun later counts earlier same => ?_, rfl,
    RoomGraph.countsOf_route accounts.pending.ascending,
    fun session => ⟨graph.subscribe_stats session, graph.unsubscribe_stats session⟩,
    graph.subscribeAll_stats⟩
  have lists := accounts.reports later counts earlier same
  exact ⟨lists.ascending, lists.mem_iff⟩

/-- An event is reported before its session is taken back, and another one is pending after that. -/
theorem counts_are_reported_or_pending_unsubscribed :
    let session : Session := ⟨"a", "b", (Store.anything start.store).1⟩
    let report := ((RoomGraph.empty.subscribe session).route "a" .empty).2.takeStats
    let pending := ((report.2.unsubscribe session).route "a" .empty).2
    "a" ∈ report.1.map Prod.fst ∧
      (countsOf "a" report.1).seen + (countsOf "a" pending.stats).seen = 2 := by
  intro session report pending
  have subscribed := (Operates.fresh .refl).subscribe "a" "b" .nothing
  have reported := (subscribed.route "a" .empty).takeStats
  have routed := (reported.unsubscribe "a" "b" (.rule List.mem_cons_self)).route "a" .empty
  obtain ⟨seen, -, reports, -⟩ := counts_are_reported_or_pending routed
  constructor
  · refine ((reports [_, _] _ _ rfl).2 "a").2 ⟨_, List.mem_cons_self, Or.inl ?_⟩
    simp [Record.isFrom]
  · have total := seen "a"
    simp only [reportedCount, List.map_cons, Record.count, List.map_nil, List.sum_cons, List.sum_nil,
      add_zero, zero_add, Record.isFrom, decide_true, List.countP_cons_of_pos, Bool.false_eq_true,
      not_false_eq_true, List.countP_cons_of_neg, List.countP_nil, Nat.reduceAdd] at total
    exact total

end Workspace

end EventRouting
