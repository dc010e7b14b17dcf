import EventRouting.Proofs.Classifier.Serving
import EventRouting.RoomGraph

set_option autoImplicit false

namespace EventRouting

namespace Classifier

variable {Destination : Type}

theorem isEmpty_iff {classifier : Classifier Destination} :
    classifier.isEmpty = true ↔ classifier = empty := by
  obtain ⟨registrations⟩ := classifier
  rw [isEmpty, List.isEmpty_iff, empty, mk.injEq]

variable [DecidableEq Destination]

theorem isEmpty_inc (classifier : Classifier Destination) (rule : Rule) (destination : Destination) :
    (classifier.inc rule destination).isEmpty = false := by
  obtain ⟨registrations⟩ := classifier
  cases registrations with
  | nil => rfl
  | cons first rest =>
    rw [inc, raise]
    split <;> rfl

theorem mem_rules_inc {classifier : Classifier Destination} {rule other : Rule} {destination : Destination}
    (inside : other ∈ (classifier.inc rule destination).rules) :
    other = rule ∨ other ∈ classifier.rules := by
  obtain ⟨registration, raised, rfl⟩ := List.mem_map.1 inside
  refine (mem_raise raised).imp_right ?_
  rintro ⟨old, known, same⟩
  exact List.mem_map.2 ⟨old, known, same⟩

theorem mem_rules_dec {classifier : Classifier Destination} {rule other : Rule} {destination : Destination}
    (inside : other ∈ (classifier.dec rule destination).rules) : other ∈ classifier.rules := by
  obtain ⟨registration, lowered, rfl⟩ := List.mem_map.1 inside
  obtain ⟨old, known, same⟩ := mem_lower lowered
  exact List.mem_map.2 ⟨old, known, same⟩

/-- Something is registered exactly if something is counted. -/
theorem Tidy.exists_count_iff {classifier : Classifier Destination} (tidy : classifier.Tidy) :
    classifier.isEmpty = false ↔ ∃ rule ∈ classifier.rules, ∃ destination,
      0 < classifier.count rule destination := by
  constructor
  · intro some
    obtain ⟨registration, inside⟩ := List.exists_mem_of_ne_nil classifier.registrations
      (List.isEmpty_eq_false_iff.1 some)
    have member : registration.rule ∈ classifier.rules := List.mem_map_of_mem inside
    exact ⟨registration.rule, member, (tidy.registered_iff _).1 (List.mem_map_of_mem member)⟩
  · rintro ⟨rule, inside, -⟩
    obtain ⟨registration, member, -⟩ := List.mem_map.1 inside
    exact List.isEmpty_eq_false_iff.2 (List.ne_nil_of_mem member)

/-- The selection is that of the rules that count the destination. -/
theorem Tidy.mem_classify_iff {classifier : Classifier Destination} (tidy : classifier.Tidy) {event : Event}
    {known : Rule → Prop} (family : Rule.Family known) (rules : ∀ rule ∈ classifier.rules, known rule)
    (destination : Destination) : destination ∈ classifier.classify event ↔
      ∃ rule ∈ classifier.rules, 0 < classifier.count rule destination ∧ rule.holds event = true := by
  have registered : ∀ registration ∈ classifier.registrations, known registration.rule :=
    fun registration inside => rules _ (List.mem_map_of_mem inside)
  rw [classify, mem_select_iff family registered (Rule.truthful_empty event known)]
  constructor
  · rintro (none | ⟨registration, inside, holds, selected⟩)
    · simp at none
    · refine ⟨registration.rule, List.mem_map_of_mem inside, ?_, holds⟩
      exact (tidy.count_pos_iff _ _).2 ⟨registration, inside, rfl, selected⟩
  · rintro ⟨rule, inside, counted, holds⟩
    obtain ⟨registration, member, number, selected⟩ := (tidy.count_pos_iff _ _).1 counted
    have same : registration.rule = rule :=
      family.unique _ _ (registered registration member) (rules rule inside) number
    exact Or.inr ⟨registration, member, same ▸ holds, selected⟩

end Classifier

namespace RoomGraph

variable {graph : RoomGraph}

/-- The classifier of a room, which is empty if the room is no source. -/
def classifierOf (graph : RoomGraph) (room : String) : Classifier String :=
  (graph.classifier? room).getD .empty

/-- The sources ascend, and none of them is without a registration. -/
structure Tidy (graph : RoomGraph) : Prop where
  ascending : graph.sources.Pairwise (· < ·)
  wanted : ∀ room classifier, graph.classifier? room = some classifier → classifier.isEmpty = false
  classifiers : ∀ room, (graph.classifierOf room).Tidy

theorem tidy_empty : empty.Tidy :=
  ⟨List.Pairwise.nil, fun _ _ found => by contradiction, fun _ => Classifier.tidy_empty⟩

theorem mem_sources_iff {room : String} : room ∈ graph.sources ↔ graph.isSource room = true :=
  Ascending.mem_keys_iff

theorem Tidy.isSource_eq (tidy : graph.Tidy) (room : String) :
    graph.isSource room = !(graph.classifierOf room).isEmpty := by
  rw [isSource, classifierOf]
  cases found : graph.classifier? room with
  | none => rfl
  | some classifier => simp [tidy.wanted room classifier found]

theorem Tidy.mem_rules_iff (tidy : graph.Tidy) {rule : Rule} :
    rule ∈ graph.rules ↔ ∃ room, rule ∈ (graph.classifierOf room).rules := by
  rw [rules, List.mem_flatMap]
  constructor
  · rintro ⟨⟨room, classifier⟩, member, inside⟩
    have found : graph.classifier? room = some classifier := Ascending.lookup_of_mem tidy.ascending member
    exact ⟨room, by rwa [classifierOf, found]⟩
  · rintro ⟨room, inside⟩
    rw [classifierOf] at inside
    cases found : graph.classifier? room with
    | none =>
      rw [found] at inside
      contradiction
    | some classifier =>
      rw [found] at inside
      obtain ⟨before, after, split, -⟩ := List.lookup_eq_some_iff.1 found
      exact ⟨(room, classifier), by simp [split], inside⟩

theorem Tidy.classifier?_subscribe (tidy : graph.Tidy) (session : Session) (room : String) :
    (graph.subscribe session).classifier? room =
      if room = session.source then
        some ((graph.classifierOf session.source).inc session.rule session.destination)
      else graph.classifier? room :=
  Ascending.lookup_adjust tidy.ascending

theorem Tidy.classifierOf_subscribe (tidy : graph.Tidy) (session : Session) (room : String) :
    (graph.subscribe session).classifierOf room =
      if room = session.source then (graph.classifierOf room).inc session.rule session.destination
      else graph.classifierOf room := by
  rw [classifierOf, tidy.classifier?_subscribe]
  split
  · next own => rw [own, Option.getD_some]
  · rfl

theorem Tidy.subscribe (tidy : graph.Tidy) (session : Session) : (graph.subscribe session).Tidy := by
  refine ⟨?_, fun room classifier found => ?_, fun room => ?_⟩
  · exact Ascending.ascending_adjust tidy.ascending
  · rw [tidy.classifier?_subscribe] at found
    split at found
    · rw [← Option.some.inj found]
      exact Classifier.isEmpty_inc _ _ _
    · exact tidy.wanted room classifier found
  · rw [tidy.classifierOf_subscribe]
    split
    · exact (tidy.classifiers room).inc _ _
    · exact tidy.classifiers room

/-- A source whose last registration goes is a source no longer. -/
theorem Tidy.classifier?_unsubscribe (tidy : graph.Tidy) (session : Session) (room : String) :
    (graph.unsubscribe session).classifier? room =
      if room = session.source then
        ((graph.classifier? room).map (·.dec session.rule session.destination)).filter (!·.isEmpty)
      else graph.classifier? room := by
  rw [RoomGraph.unsubscribe]
  cases found : graph.classifier? session.source with
  | none =>
    dsimp only
    split
    · next own => rw [own, found]; rfl
    · rfl
  | some classifier =>
    dsimp only
    rw [RoomGraph.classifier?]
    dsimp only
    by_cases none : (classifier.dec session.rule session.destination).isEmpty = true
    · rw [if_pos none, Ascending.lookup_filter]
      split
      · next own => rw [own, found, Option.map_some, Option.filter_some, none]; rfl
      · rfl
    · rw [if_neg none, Ascending.lookup_adjust tidy.ascending]
      split
      · next own =>
        rw [own, found, Option.map_some, Option.filter_some, Bool.eq_false_iff.2 none]
        rfl
      · rfl

theorem Tidy.classifierOf_unsubscribe (tidy : graph.Tidy) (session : Session) (room : String) :
    (graph.unsubscribe session).classifierOf room =
      if room = session.source then (graph.classifierOf room).dec session.rule session.destination
      else graph.classifierOf room := by
  rw [classifierOf, tidy.classifier?_unsubscribe, classifierOf]
  split
  · cases graph.classifier? room with
    | none => rfl
    | some classifier =>
      rw [Option.map_some, Option.filter_some, Option.getD_some]
      by_cases none : (classifier.dec session.rule session.destination).isEmpty = true
      · rw [none]
        exact (Classifier.isEmpty_iff.1 none).symm
      · rw [Bool.eq_false_iff.2 none]
        rfl
  · rfl

theorem Tidy.unsubscribe (tidy : graph.Tidy) (session : Session) : (graph.unsubscribe session).Tidy := by
  refine ⟨?_, fun room classifier found => ?_, fun room => ?_⟩
  · rw [sources, RoomGraph.unsubscribe]
    cases graph.classifier? session.source with
    | none => exact tidy.ascending
    | some classifier =>
      dsimp only
      split
      · exact tidy.ascending.sublist (List.filter_sublist.map _)
      · exact Ascending.ascending_adjust tidy.ascending
  · rw [tidy.classifier?_unsubscribe] at found
    split at found
    · simpa using (Option.filter_eq_some_iff.1 found).2
    · exact tidy.wanted room classifier found
  · rw [tidy.classifierOf_unsubscribe]
    split
    · exact (tidy.classifiers room).dec _ _
    · exact tidy.classifiers room

/-- How often a destination is registered for a rule under a source. -/
def count (graph : RoomGraph) (source : String) (rule : Rule) (destination : String) : Nat :=
  (graph.classifierOf source).count rule destination

theorem Tidy.count_subscribe (tidy : graph.Tidy) (session : Session) (source : String) (rule : Rule)
    (destination : String) : (graph.subscribe session).count source rule destination =
      graph.count source rule destination +
        if source = session.source ∧ rule.id = session.rule.id ∧
        destination = session.destination then 1
        else 0 := by
  rw [count, tidy.classifierOf_subscribe, count]
  by_cases own : source = session.source
  · simp [own, Classifier.count_inc]
  · simp [own]

theorem Tidy.count_unsubscribe (tidy : graph.Tidy) (session : Session) (source : String) (rule : Rule)
    (destination : String) : (graph.unsubscribe session).count source rule destination =
      graph.count source rule destination -
        if source = session.source ∧ rule.id = session.rule.id ∧
        destination = session.destination then 1
        else 0 := by
  rw [count, tidy.classifierOf_unsubscribe, count]
  by_cases own : source = session.source
  · simp [own, (tidy.classifiers session.source).count_dec]
  · simp [own]

theorem Tidy.mem_rules_subscribe (tidy : graph.Tidy) {session : Session} {rule : Rule}
    (inside : rule ∈ (graph.subscribe session).rules) : rule = session.rule ∨ rule ∈ graph.rules := by
  obtain ⟨room, member⟩ := (tidy.subscribe session).mem_rules_iff.1 inside
  rw [tidy.classifierOf_subscribe] at member
  split at member
  · exact (Classifier.mem_rules_inc member).imp_right fun old => tidy.mem_rules_iff.2 ⟨room, old⟩
  · exact Or.inr (tidy.mem_rules_iff.2 ⟨room, member⟩)

theorem Tidy.mem_rules_unsubscribe (tidy : graph.Tidy) {session : Session} {rule : Rule}
    (inside : rule ∈ (graph.unsubscribe session).rules) : rule ∈ graph.rules := by
  obtain ⟨room, member⟩ := (tidy.unsubscribe session).mem_rules_iff.1 inside
  rw [tidy.classifierOf_unsubscribe] at member
  split at member
  · exact tidy.mem_rules_iff.2 ⟨room, Classifier.mem_rules_dec member⟩
  · exact tidy.mem_rules_iff.2 ⟨room, member⟩

/-- A rule that counts has the number of a rule of the graph. -/
theorem Tidy.registered (tidy : graph.Tidy) {source destination : String} {rule : Rule}
    (counted : 0 < graph.count source rule destination) :
    ∃ other ∈ graph.rules, other.id = rule.id := by
  obtain ⟨other, inside, same⟩ :=
    List.mem_map.1 (((tidy.classifiers source).registered_iff rule).2 ⟨destination, counted⟩)
  exact ⟨other, tidy.mem_rules_iff.2 ⟨source, inside⟩, same⟩

theorem Tidy.isSource_iff (tidy : graph.Tidy) (source : String) :
    graph.isSource source = true ↔
      ∃ rule ∈ graph.rules, ∃ destination, 0 < graph.count source rule destination := by
  rw [tidy.isSource_eq, Bool.not_eq_true', (tidy.classifiers source).exists_count_iff]
  constructor
  · rintro ⟨rule, inside, counted⟩
    exact ⟨rule, tidy.mem_rules_iff.2 ⟨source, inside⟩, counted⟩
  · rintro ⟨rule, -, destination, counted⟩
    obtain ⟨registration, inside, -, -⟩ := ((tidy.classifiers source).count_pos_iff _ _).1 counted
    exact ((tidy.classifiers source).exists_count_iff).1
      (List.isEmpty_eq_false_iff.2 (List.ne_nil_of_mem inside))

theorem destinations_eq (graph : RoomGraph) (source : String) (event : Event) :
    graph.destinations source event =
      Ascending.insertAll ((graph.classifierOf source).classify event) [] := by
  rw [destinations, classifierOf]
  cases graph.classifier? source with
  | none => rfl
  | some classifier => rfl

theorem destinations_ascending (graph : RoomGraph) (source : String) (event : Event) :
    (graph.destinations source event).Pairwise (· < ·) := by
  rw [destinations_eq]
  exact Ascending.ascending_insertAll List.Pairwise.nil

theorem Tidy.mem_destinations_iff (tidy : graph.Tidy) {event : Event} {known : Rule → Prop}
    (family : Rule.Family known) (rules : ∀ rule ∈ graph.rules, known rule)
    (source destination : String) :
    destination ∈ graph.destinations source event ↔
      ∃ rule ∈ graph.rules, 0 < graph.count source rule destination ∧ rule.holds event = true := by
  have here : ∀ rule ∈ (graph.classifierOf source).rules, known rule :=
    fun rule inside => rules rule (tidy.mem_rules_iff.2 ⟨source, inside⟩)
  rw [destinations_eq, Ascending.mem_insertAll, or_iff_left List.not_mem_nil,
    (tidy.classifiers source).mem_classify_iff family here]
  constructor
  · rintro ⟨rule, inside, counted⟩
    exact ⟨rule, tidy.mem_rules_iff.2 ⟨source, inside⟩, counted⟩
  · rintro ⟨rule, inside, counted, holds⟩
    obtain ⟨registration, member, number, -⟩ := ((tidy.classifiers source).count_pos_iff _ _).1 counted
    have own : registration.rule ∈ (graph.classifierOf source).rules := List.mem_map_of_mem member
    have same : registration.rule = rule :=
      family.unique _ _ (here _ own) (rules rule inside) number
    exact ⟨rule, same ▸ own, counted, holds⟩

end RoomGraph

end EventRouting
