import EventRouting.Rule.Matching

set_option autoImplicit false

namespace EventRouting

structure Registration (Destination : Type) where
  rule : Rule
  counts : List (Destination × Nat)

def Registration.destinations {Destination : Type} (registration : Registration Destination) :
    List Destination :=
  registration.counts.map Prod.fst

structure Classifier (Destination : Type) where
  registrations : List (Registration Destination)

namespace Classifier

section

variable {Destination : Type}

def empty : Classifier Destination := ⟨[]⟩

def isEmpty (classifier : Classifier Destination) : Bool := classifier.registrations.isEmpty

/-- The number of rules. -/
def size (classifier : Classifier Destination) : Nat := classifier.registrations.length

def rules (classifier : Classifier Destination) : List Rule :=
  classifier.registrations.map Registration.rule

end

variable {Destination : Type} [DecidableEq Destination]

/-- One more for a destination, which comes in with its first. -/
def raiseCount (destination : Destination) : List (Destination × Nat) → List (Destination × Nat)
  | [] => [(destination, 1)]
  | entry :: rest =>
    if entry.1 = destination then (entry.1, entry.2 + 1) :: rest
    else entry :: raiseCount destination rest

/-- One less for a destination, which goes when none is left. -/
def lowerCount (destination : Destination) : List (Destination × Nat) → List (Destination × Nat)
  | [] => []
  | entry :: rest =>
    if entry.1 = destination then
      if entry.2 ≤ 1 then rest else (entry.1, entry.2 - 1) :: rest
    else entry :: lowerCount destination rest

def raise (rule : Rule) (destination : Destination) :
    List (Registration Destination) → List (Registration Destination)
  | [] => [⟨rule, [(destination, 1)]⟩]
  | first :: rest =>
    if first.rule.id = rule.id then
      { first with counts := raiseCount destination first.counts } :: rest
    else first :: raise rule destination rest

def lower (rule : Rule) (destination : Destination) :
    List (Registration Destination) → List (Registration Destination)
  | [] => []
  | first :: rest =>
    if first.rule.id = rule.id then
      match lowerCount destination first.counts with
      | [] => rest
      | counts => { first with counts } :: rest
    else first :: lower rule destination rest

/-- Registers a destination once more. -/
def inc (classifier : Classifier Destination) (rule : Rule) (destination : Destination) :
    Classifier Destination :=
  ⟨raise rule destination classifier.registrations⟩

/-- Takes one registration back, if there is one. -/
def dec (classifier : Classifier Destination) (rule : Rule) (destination : Destination) :
    Classifier Destination :=
  ⟨lower rule destination classifier.registrations⟩

def count (classifier : Classifier Destination) (rule : Rule) (destination : Destination) : Nat :=
  match classifier.registrations.find? (·.rule.id = rule.id) with
  | some registration => (registration.counts.lookup destination).getD 0
  | none => 0

/-- Adds the destinations of the rules that match. A rule whose destinations are all selected already
is not judged, and the verdicts on shared parts are kept from rule to rule. -/
def select (event : Event) :
    List (Registration Destination) → Verdicts → List Destination → List Destination
  | [], _, selected => selected
  | first :: rest, verdicts, selected =>
    if first.destinations.all selected.contains then select event rest verdicts selected
    else
      let (verdict, verdicts) := first.rule.matchWith event verdicts
      select event rest verdicts
        (if verdict then first.destinations.foldr List.insert selected else selected)

/-- The destinations of every rule that matches, each once. -/
def classify (classifier : Classifier Destination) (event : Event) : List Destination :=
  select event classifier.registrations ∅ []

end Classifier

end EventRouting
