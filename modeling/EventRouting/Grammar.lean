set_option autoImplicit false

/- The evaluation allows so many calls inside each other, and counts its steps. `Grammar.budget` is enough
for every evaluation that ends at all, since a call inside a call of the same name at the same place would
go on for ever. -/
namespace EventRouting

/-- A place in a text: what is behind it, nearest first, and what is ahead. -/
structure Cursor where
  behind : List Char
  ahead : List Char
deriving DecidableEq, Repr

namespace Cursor

def start (text : List Char) : Cursor := ⟨[], text⟩

def advance : Nat → Cursor → Cursor
  | 0, cursor => cursor
  | _ + 1, ⟨behind, []⟩ => ⟨behind, []⟩
  | count + 1, ⟨behind, c :: ahead⟩ => advance count ⟨c :: behind, ahead⟩

end Cursor

inductive GrammarError where
  | unset
  | alreadySet
  /-- The grammar calls itself for ever without reading. -/
  | endless
deriving DecidableEq, Repr

def GrammarError.message : GrammarError → String
  | unset => "forward reference not set"
  | alreadySet => "forward reference already set"
  | endless => "forward reference without end"

inductive Grammar (Name Value : Type) where
  /-- Reads directly: a value and the number of characters it takes. -/
  | scan (read : Cursor → Option (Value × Nat))
  | sequence (parts : List (Grammar Name Value)) (collect : List Value → Value)
  | union (alternatives : List (Grammar Name Value))
  /-- A value may be refused. -/
  | transform (inner : Grammar Name Value) (change : Value → Option Value)
  | forward (name : Name)
  /-- A head, joined with the first tail that reads on from it. -/
  | step (head : Grammar Name Value) (tails : List (Grammar Name Value × (Value → Value → Value)))

/-- A value and the place after it, or no match. -/
abbrev Outcome (Value : Type) := Option (Value × Cursor)

/-- The grammars that names stand for. -/
structure Definitions (Name Value : Type) where
  entries : List (Name × Grammar Name Value)

namespace Definitions

variable {Name Value : Type} [DecidableEq Name]

def find? (definitions : Definitions Name Value) (name : Name) : Option (Grammar Name Value) :=
  definitions.entries.lookup name

/-- A name can be set only once. -/
def set (definitions : Definitions Name Value) (name : Name) (grammar : Grammar Name Value) :
    Except GrammarError (Definitions Name Value) :=
  match definitions.find? name with
  | some _ => .error .alreadySet
  | none => .ok ⟨(name, grammar) :: definitions.entries⟩

/-- Sets one name after another, the last of the list first. -/
def build : List (Name × Grammar Name Value) → Except GrammarError (Definitions Name Value)
  | [] => .ok ⟨[]⟩
  | (name, grammar) :: rest => do (← build rest).set name grammar

end Definitions

/-- A result, and how many steps it took. -/
structure Counted (Value : Type) where
  steps : Nat
  result : Except GrammarError (Outcome Value)

namespace Counted

variable {Value : Type}

def answer (outcome : Outcome Value) : Counted Value := ⟨0, .ok outcome⟩

/-- One more step in front. -/
def tick (counted : Counted Value) : Counted Value := { counted with steps := counted.steps + 1 }

def andThen (first : Counted Value) (next : Outcome Value → Counted Value) : Counted Value :=
  match first.result with
  | .ok outcome => ⟨first.steps + (next outcome).steps, (next outcome).result⟩
  | .error error => ⟨first.steps, .error error⟩

theorem answer_andThen (outcome : Outcome Value) (next : Outcome Value → Counted Value) :
    (answer outcome).andThen next = next outcome := by
  simp [answer, andThen]

theorem andThen_answer (first : Counted Value) : first.andThen answer = first := by
  rcases first with ⟨steps, error | outcome⟩ <;> rfl

theorem tick_andThen (first : Counted Value) (next : Outcome Value → Counted Value) :
    first.tick.andThen next = (first.andThen next).tick := by
  simp only [tick, andThen]
  split <;> simp [Nat.add_right_comm]

theorem andThen_assoc (first : Counted Value) (next last : Outcome Value → Counted Value) :
    (first.andThen next).andThen last = first.andThen fun outcome => (next outcome).andThen last := by
  rcases first with ⟨steps, error | outcome⟩
  · simp [andThen]
  · simp only [andThen]
    split <;> simp [Nat.add_assoc]

theorem steps_lt {before after : Counted Value} (move : before = after.tick) :
    after.steps < before.steps := by
  rw [move]
  exact Nat.lt_succ_self _

theorem result_eq {before after : Counted Value} (move : before = after.tick) :
    after.result = before.result := by
  rw [move]
  rfl

end Counted

namespace Grammar

variable {Name Value : Type}

/-- A scan from a place, with the place after it. -/
def scanFrom (read : Cursor → Option (Value × Nat)) (cursor : Cursor) : Outcome Value :=
  (read cursor).map fun found => (found.1, cursor.advance found.2)

/-- The meaning of a grammar, given what calls do. -/
def evaluateWith (call : Name → Cursor → Counted Value) :
    Grammar Name Value → Cursor → Counted Value
  | scan read, cursor => (Counted.answer (scanFrom read cursor)).tick
  | sequence parts collect, cursor => (inSequence call collect parts [] cursor).tick
  | union alternatives, cursor => (inOrder call alternatives cursor).tick
  | transform inner change, cursor =>
    ((inner.evaluateWith call cursor).andThen fun outcome =>
      (Counted.answer (outcome.bind fun found => (change found.1).map (·, found.2))).tick).tick
  | forward name, cursor =>
    ((call name cursor).andThen fun outcome => (Counted.answer outcome).tick).tick
  | step head tails, cursor =>
    ((head.evaluateWith call cursor).andThen fun
      | none => (Counted.answer none).tick
      | some (left, cursor) => (afterHead call left cursor tails).tick).tick
where
  /-- The parts from a place on; `done` are the values before them, last first. -/
  inSequence (call : Name → Cursor → Counted Value) (collect : List Value → Value) :
      List (Grammar Name Value) → List Value → Cursor → Counted Value
    | [], done, cursor => Counted.answer (some (collect done.reverse, cursor))
    | part :: rest, done, cursor =>
      (part.evaluateWith call cursor).andThen fun
        | none => (Counted.answer none).tick
        | some (value, cursor) => (inSequence call collect rest (value :: done) cursor).tick
  inOrder (call : Name → Cursor → Counted Value) :
      List (Grammar Name Value) → Cursor → Counted Value
    | [], _ => Counted.answer none
    | alternative :: rest, cursor =>
      (alternative.evaluateWith call cursor).andThen fun
        | some found => (Counted.answer (some found)).tick
        | none => (inOrder call rest cursor).tick
  afterHead (call : Name → Cursor → Counted Value) (left : Value) (cursor : Cursor) :
      List (Grammar Name Value × (Value → Value → Value)) → Counted Value
    | [] => Counted.answer none
    | (tail, combine) :: rest =>
      (tail.evaluateWith call cursor).andThen fun
        | some (right, cursor) => (Counted.answer (some (combine left right, cursor))).tick
        | none => (afterHead call left cursor rest).tick

variable [DecidableEq Name]

/-- What a call does when `depth` more calls may be made inside it. -/
def callAt (definitions : Definitions Name Value) : Nat → Name → Cursor → Counted Value
  | 0, name, _ => ⟨0, .error (if (definitions.find? name).isSome then .endless else .unset)⟩
  | depth + 1, name, cursor =>
    match definitions.find? name with
    | some grammar => grammar.evaluateWith (callAt definitions depth) cursor
    | none => ⟨0, .error .unset⟩

/-- The meaning of a grammar with at most `depth` calls inside each other. -/
def evaluate (definitions : Definitions Name Value) (depth : Nat) (grammar : Grammar Name Value)
    (cursor : Cursor) : Counted Value :=
  grammar.evaluateWith (callAt definitions depth) cursor

/-- As many calls as there are names and places. -/
def budget (definitions : Definitions Name Value) (text : List Char) : Nat :=
  definitions.entries.length * (text.length + 1)

end Grammar

end EventRouting
