import EventRouting.Rule.Store

set_option autoImplicit false

/- Each constructor takes over the handles on the parts it is given and gives a handle on the rule. -/
namespace EventRouting

namespace Rule

/-- The union of two ascending lists of rules. -/
def merge : List Rule → List Rule → List Rule
  | [], right => right
  | left, [] => left
  | a :: left, b :: right =>
    if a.id < b.id then a :: merge left (b :: right)
    else if b.id < a.id then b :: merge (a :: left) right
    else a :: merge left right
termination_by left right => left.length + right.length

/-- What a rule contributes to a junction. -/
def operandsOf (kind : Junction) : Rule → List Rule
  | junction id other operands => if other = kind then operands else [junction id other operands]
  | rule => [rule]

def junctionOperands (kind : Junction) (rules : List Rule) : List Rule :=
  rules.foldl (fun done rule => merge done (rule.operandsOf kind)) []

end Rule

namespace Store

/-- The handle that the store keeps is made when the rule is first asked for. -/
def anything : Build Rule := fun store =>
  match store.findRule? .anything with
  | some rule => (rule, store.retain rule.id)
  | none =>
    let (rule, store) := store.intern (.anything store.next)
    (rule, store.retain rule.id)

def test (sense : Sense) (key : Option String) (atom : Option SharedAtom) : Build Rule := fun store =>
  store.intern (.test store.next sense key atom)

def fuzzy (atom : SharedAtom) : Build Rule := fun store => store.intern (.fuzzy store.next atom)

def no (operand : Rule) : Build Rule := fun store => store.intern (.no store.next operand)

/-- The rules themselves are dropped before the junction is looked for; their operands are not. -/
def junction (kind : Junction) (rules : List Rule) : Build Rule := fun store =>
  let operands := Rule.junctionOperands kind rules
  let store := (store.cloneAll (operands.map .rule)).dropRules rules
  match operands with
  | [only] => (only, store)
  | operands => store.intern (.junction store.next kind operands)

end Store

/-- A handle on the rule that an expression describes. -/
def Expression.build : Expression → Build Rule
  | anything => Store.anything
  | test sense key none => Store.test sense key none
  | test sense key (some atom) => do Store.test sense key (some (← Store.atom atom))
  | fuzzy atom => do Store.fuzzy (← Store.atom atom)
  | no operand => do Store.no (← operand.build)
  | junction kind first rest => do
    let first ← first.build
    Store.junction kind (first :: (← buildAll rest))
where
  buildAll : List Expression → Build (List Rule)
    | [] => return []
    | operand :: rest => do
      let built ← operand.build
      return built :: (← buildAll rest)

end EventRouting
