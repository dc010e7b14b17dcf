import EventRouting.Proofs.Event.History
import EventRouting.Proofs.Network.DomainMembership
import EventRouting.Proofs.Rule.Judging
import Mathlib.Data.Set.Subsingleton

set_option autoImplicit false

namespace EventRouting

namespace Atom

/-- Only a domain pattern tells the two apart, and a name of its very depth is deep enough for it. -/
theorem contains_of_isMatch {atom : Atom} {value : String} (matched : atom.isMatch value = true) :
    atom.contains value = true := by
  cases atom with
  | domainName pattern =>
    rw [isMatch, nameTakes] at matched
    rw [contains, nameTakes]
    cases read : DomainName.read value.toList with
    | error => simp [read] at matched
    | ok name =>
      simp only [read] at matched ⊢
      obtain ⟨front, whole, depth⟩ := DomainPattern.isMatch_iff.1 matched
      exact DomainPattern.contains_iff.2 ⟨front, whole, depth.ge⟩
  | string | regexp | ip => exact matched

end Atom

namespace Event

variable {event : Event} {pairs : Set Attribute} {key : Option String} {atom : Atom}

/-- The values under a key or, without one, under all keys. -/
def valuesUnder (pairs : Set Attribute) (key : Option String) : Set String :=
  {value | ∃ name, (name, value) ∈ pairs ∧ ∀ wanted ∈ key, name = wanted}

theorem Represents.containsWhere_iff (represents : event.Represents pairs) (key : Option String)
    (test : String → Bool) :
    event.containsWhere key test = true ↔ ∃ value ∈ valuesUnder pairs key, test value = true := by
  cases key with
  | none =>
    rw [represents.containsWhere_none_iff]
    constructor
    · rintro ⟨⟨name, value⟩, inside, passes⟩
      exact ⟨value, ⟨name, inside, by simp⟩, passes⟩
    · rintro ⟨value, ⟨name, inside, -⟩, passes⟩
      exact ⟨(name, value), inside, passes⟩
  | some wanted =>
    rw [represents.containsWhere_some_iff]
    constructor
    · rintro ⟨value, inside, passes⟩
      exact ⟨value, ⟨wanted, inside, by simp⟩, passes⟩
    · rintro ⟨value, ⟨name, inside, own⟩, passes⟩
      obtain rfl := own wanted rfl
      exact ⟨value, inside, passes⟩

theorem Represents.passes_atom_iff (represents : event.Represents pairs) (sense : Sense)
    (key : Option String) (atom : Atom) :
    event.passes sense key (some atom) = true ↔
      ∃ value ∈ valuesUnder pairs key, sense.accepts (atom.contains value) = true :=
  represents.containsWhere_iff key _

/-- The keys are asked, not the values, but every key has one. -/
theorem Represents.passes_any_iff (represents : event.Represents pairs) (sense : Sense)
    (key : Option String) :
    event.passes sense key none = true ↔ (valuesUnder pairs key).Nonempty := by
  cases key with
  | none =>
    have filled : event.isEmpty = false ↔ pairs.Nonempty := by
      rw [← Bool.not_eq_true, represents.isEmpty_iff, Set.nonempty_iff_ne_empty]
    rw [passes, Bool.not_eq_true', filled]
    constructor
    · rintro ⟨⟨name, value⟩, inside⟩
      exact ⟨value, name, inside, by simp⟩
    · rintro ⟨value, name, inside, -⟩
      exact ⟨(name, value), inside⟩
  | some wanted =>
    rw [passes, represents.containsKey_iff]
    constructor
    · rintro ⟨value, inside⟩
      exact ⟨value, wanted, inside, by simp⟩
    · rintro ⟨value, name, inside, own⟩
      obtain rfl := own wanted rfl
      exact ⟨value, inside⟩

/-- A value is contained in the atom or it is not. -/
theorem Represents.passes_any_iff_or (represents : event.Represents pairs) (sense : Sense)
    (key : Option String) (atom : Atom) :
    event.passes sense key none = true ↔
      event.passes .matching key (some atom) = true ∨
      event.passes .nonMatching key (some atom) = true := by
  rw [represents.passes_any_iff, represents.passes_atom_iff, represents.passes_atom_iff]
  constructor
  · rintro ⟨value, inside⟩
    cases contained : atom.contains value with
    | true => exact .inl ⟨value, inside, contained⟩
    | false => exact .inr ⟨value, inside, by rw [contained]; rfl⟩
  · rintro (⟨value, inside, -⟩ | ⟨value, inside, -⟩)
    · exact ⟨value, inside⟩
    · exact ⟨value, inside⟩

/-- No single value is contained in the atom and is not. -/
theorem Represents.nontrivial_of_passes (represents : event.Represents pairs)
    (matched : event.passes .matching key (some atom) = true)
    (other : event.passes .nonMatching key (some atom) = true) : (valuesUnder pairs key).Nontrivial := by
  obtain ⟨first, inFirst, contained⟩ := (represents.passes_atom_iff _ _ _).1 matched
  obtain ⟨second, inSecond, notContained⟩ := (represents.passes_atom_iff _ _ _).1 other
  refine ⟨first, inFirst, second, inSecond, ?_⟩
  rintro rfl
  simp only [Sense.accepts] at contained notContained
  simp [contained] at notContained

theorem Represents.mentions_iff (represents : event.Represents pairs) (atom : Atom) :
    event.mentions atom = true ↔
      (atom.isString = true ∧ ∃ name, event.containsKey name = true ∧ atom.isMatch name = true) ∨
        ∃ value ∈ valuesUnder pairs none, atom.isMatch value = true := by
  rw [mentions, Bool.or_eq_true, Bool.and_eq_true, represents.containsWhere_iff, List.any_eq_true]
  simp only [represents.mem_keys_iff, represents.containsKey_iff]

theorem Represents.passes_of_mentions (represents : event.Represents pairs)
    (noString : atom.isString = false)
    (mentioned : event.mentions atom = true) : event.passes .matching none (some atom) = true := by
  rcases (represents.mentions_iff atom).1 mentioned with ⟨isString, -⟩ | ⟨value, inside, matched⟩
  · rw [noString] at isString
    contradiction
  · exact (represents.passes_atom_iff _ _ _).2 ⟨value, inside, Atom.contains_of_isMatch matched⟩

theorem Represents.mentions_string_iff (represents : event.Represents pairs) (text : String) :
    event.mentions (.string text) = true ↔
      event.passes .matching none (some (.string text)) = true ∨
        ∃ name, event.containsKey name = true ∧ Text.sameIgnoringCase text name = true := by
  rw [represents.mentions_iff, represents.passes_atom_iff, or_comm]
  exact or_congr_right (and_iff_right rfl)

end Event

namespace Workspace

variable {work : Workspace} {event : Event} {pairs : Set Attribute} {verdicts : Verdicts}

/-- The rule of an expression takes the event, with the memory of what was judged before. -/
def Takes (work : Workspace) (event : Event) (verdicts : Verdicts) (expression : Expression) : Prop :=
  ((expression.build work.store).1.matchWith event verdicts).1 = true

theorem Judged.takes_iff (judged : Judged event work verdicts) (expression : Expression) :
    work.Takes event verdicts expression ↔ expression.holds event = true := by
  rw [Takes, judged.matchWith_build]

/-- Of an event after any run of operations a test without an atom asks in either sense for a value, which
the atom contains or does not contain. So a test that is denied passes in the other sense if there is a
value at all, and two different values are there if it passes in both. What an event mentions is matched
under some key, unless it is a string and a key itself. -/
theorem tests_fit_together (judged : Judged event work verdicts) (reached : event.Reached pairs)
    (key : Option String) (atom : Atom) :
    (work.Takes event verdicts (.test .matching key none) ↔
      work.Takes event verdicts (.test .nonMatching key none)) ∧
    (∀ sense, work.Takes event verdicts (.test sense key none) ↔
      work.Takes event verdicts (.test .matching key (some atom)) ∨
        work.Takes event verdicts (.test .nonMatching key (some atom))) ∧
    (work.Takes event verdicts (.no (.test .matching key (some atom))) →
      work.Takes event verdicts (.test .matching key none) →
        work.Takes event verdicts (.test .nonMatching key (some atom))) ∧
    (work.Takes event verdicts (.test .matching key (some atom)) →
      work.Takes event verdicts (.test .nonMatching key (some atom)) →
        (Event.valuesUnder pairs key).Nontrivial) ∧
    (atom.isString = false → work.Takes event verdicts (.fuzzy atom) →
      work.Takes event verdicts (.test .matching none (some atom))) ∧
    ∀ text, atom = .string text →
      (work.Takes event verdicts (.fuzzy atom) ↔
        work.Takes event verdicts (.test .matching none (some atom)) ∨
          ∃ name, event.containsKey name = true ∧ Text.sameIgnoringCase text name = true) := by
  have represents := reached.represents
  simp only [judged.takes_iff, Expression.holds]
  refine ⟨?_, fun sense => ?_, fun denied some => ?_, ?_, ?_, ?_⟩
  · rw [represents.passes_any_iff, represents.passes_any_iff]
  · exact represents.passes_any_iff_or sense key atom
  · rw [Bool.not_eq_true'] at denied
    refine ((represents.passes_any_iff_or .matching key atom).1 some).resolve_left ?_
    rw [denied]
    exact Bool.false_ne_true
  · exact represents.nontrivial_of_passes
  · exact represents.passes_of_mentions
  · rintro text rfl
    exact represents.mentions_string_iff text

/-- One value is the string in other letters, the other is not, and the key is another string. -/
theorem tests_fit_together_two_values :
    let event :=
      ((((Event.empty.add "kind" "spam").2.add "kind" "bot").2.add "name" "kind").2.discard "name" "kind").2
    let takes := start.Takes event ∅
    Judged event start ∅ ∧ ∃ pairs, event.Reached pairs ∧
      takes (.test .matching (some "kind") (some (.string "SPAM"))) ∧
      takes (.test .nonMatching (some "kind") (some (.string "SPAM"))) ∧
      (Event.valuesUnder pairs (some "kind")).Nontrivial ∧
      takes (.fuzzy (.string "KIND")) ∧ ¬takes (.test .matching none (some (.string "KIND"))) := by
  intro event takes
  have judged : Judged event start ∅ := .fresh .refl
  have reached :=
    ((((Event.Reached.new.add "kind" "spam").add "kind" "bot").add "name" "kind").discard "name" "kind")
  obtain ⟨-, -, -, twoValues, -, -⟩ := tests_fit_together judged reached (some "kind") (.string "SPAM")
  obtain ⟨-, -, -, -, -, mention⟩ := tests_fit_together judged reached none (.string "KIND")
  have matched : takes (.test .matching (some "kind") (some (.string "SPAM"))) :=
    (judged.takes_iff _).2 (by decide +kernel)
  have other : takes (.test .nonMatching (some "kind") (some (.string "SPAM"))) :=
    (judged.takes_iff _).2 (by decide +kernel)
  have unmatched : ¬takes (.test .matching none (some (.string "KIND"))) :=
    mt (judged.takes_iff _).1 (by decide +kernel)
  exact ⟨judged, _, reached, matched, other, twoValues matched other,
    (mention "KIND" rfl).2 (.inr ⟨"kind", by decide, by decide +kernel⟩), unmatched⟩

end Workspace

end EventRouting
