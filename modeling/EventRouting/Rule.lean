import EventRouting.Expression

set_option autoImplicit false

namespace EventRouting

structure SharedAtom where
  id : Nat
  atom : Atom

inductive Rule where
  | anything (id : Nat)
  | test (id : Nat) (sense : Sense) (key : Option String) (atom : Option SharedAtom)
  | fuzzy (id : Nat) (atom : SharedAtom)
  | no (id : Nat) (operand : Rule)
  | junction (id : Nat) (kind : Junction) (operands : List Rule)

namespace Rule

def id : Rule → Nat
  | anything id | test id _ _ _ | fuzzy id _ | no id _ | junction id _ _ => id

def operands : Rule → List Rule
  | no _ operand => [operand]
  | junction _ _ operands => operands
  | anything _ | test _ _ _ _ | fuzzy _ _ => []

def atom? : Rule → Option SharedAtom
  | test _ _ _ atom => atom
  | fuzzy _ atom => some atom
  | anything _ | no _ _ | junction _ _ _ => none

def kindName : Rule → String
  | anything _ => "Anything"
  | test _ .matching _ _ => "Match"
  | test _ .nonMatching _ _ => "NonMatch"
  | fuzzy _ _ => "Fuzzy"
  | no _ _ => "No"
  | junction _ kind _ => kind.name

/-- How tightly a rule binds when written. -/
def precedence : Rule → Nat
  | junction _ .or _ => 0
  | junction _ .and _ => 1
  | no _ _ => 2
  | test _ _ _ _ => 3
  | fuzzy _ _ | anything _ => 4

/-- The rule without its numbers. -/
def expression : Rule → Expression
  | anything _ => .anything
  | test _ sense key atom => .test sense key (atom.map SharedAtom.atom)
  | fuzzy _ atom => .fuzzy atom.atom
  | no _ operand => .no operand.expression
  | junction _ kind operands =>
    match expressions operands with
    | [] => .anything
    | first :: rest => .junction kind first rest
where
  expressions : List Rule → List Expression
    | [] => []
    | operand :: rest => operand.expression :: expressions rest

/-- The verdict on an event, part by part. -/
def holds (event : Event) : Rule → Bool
  | anything _ => true
  | test _ sense key atom => event.passes sense key (atom.map SharedAtom.atom)
  | fuzzy _ atom => event.mentions atom.atom
  | no _ operand => !operand.holds event
  | junction _ kind operands => kind.combine (verdicts event operands)
where
  verdicts (event : Event) : List Rule → List Bool
    | [] => []
    | operand :: rest => operand.holds event :: verdicts event rest

/-- The number of parts, each counted as often as it occurs. -/
def size : Rule → Nat
  | anything _ | test _ _ _ _ | fuzzy _ _ => 1
  | no _ operand => operand.size + 1
  | junction _ _ operands => sizes operands + 1
where
  sizes : List Rule → Nat
    | [] => 0
    | operand :: rest => operand.size + sizes rest

theorem size_pos (rule : Rule) : 0 < rule.size := by
  cases rule <;> simp [size]

theorem sizes_append (left right : List Rule) :
    size.sizes (left ++ right) = size.sizes left + size.sizes right := by
  induction left with
  | nil => simp [size.sizes]
  | cons operand rest ih => simp [size.sizes, ih, Nat.add_assoc]

/-- A rule is larger than its operands together. -/
theorem sizes_operands_lt (rule : Rule) : size.sizes rule.operands < rule.size := by
  cases rule <;> simp [operands, size, size.sizes]

end Rule

end EventRouting
