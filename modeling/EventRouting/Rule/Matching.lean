import EventRouting.Rule
import Std.Data.HashMap

set_option autoImplicit false

namespace EventRouting

/-- The verdicts given so far, by number. -/
abbrev Verdicts := Std.HashMap Nat Bool

namespace Rule

/-- The verdict on a rule without operands. -/
def leafHolds (event : Event) : Rule → Bool
  | anything _ => true
  | test _ sense key atom => event.passes sense key (atom.map SharedAtom.atom)
  | fuzzy _ atom => event.mentions atom.atom
  | no _ _ | junction _ _ _ => false

/-- Operands are judged from the left until one settles the verdict. -/
def judge (event : Event) (rule : Rule) (verdicts : Verdicts) : Bool × Verdicts :=
  match verdicts[rule.id]? with
  | some verdict => (verdict, verdicts)
  | none =>
    let (verdict, verdicts) : Bool × Verdicts :=
      match rule with
      | no _ operand =>
        let (verdict, verdicts) := operand.judge event verdicts
        (!verdict, verdicts)
      | junction _ kind (first :: rest) =>
        let (verdict, verdicts) := first.judge event verdicts
        judgeRest event kind verdict rest verdicts
      | leaf => (leaf.leafHolds event, verdicts)
    (verdict, verdicts.insert rule.id verdict)
where
  judgeRest (event : Event) (kind : Junction) (verdict : Bool) :
      List Rule → Verdicts → Bool × Verdicts
    | [], verdicts => (verdict, verdicts)
    | next :: rest, verdicts =>
      if verdict = kind.settling then (verdict, verdicts)
      else
        let (verdict, verdicts) := next.judge event verdicts
        judgeRest event kind verdict rest verdicts

/-- A rule that waits for the verdict on one of its operands. -/
inductive Waiting where
  | no (id : Nat)
  | junction (id : Nat) (kind : Junction) (rest : List Rule)

def Waiting.weight : Waiting → Nat
  | no _ => 1
  | junction _ _ rest => 2 * size.sizes rest + 1

def Waiting.weights : List Waiting → Nat
  | [] => 0
  | first :: rest => first.weight + weights rest

/-- What to do next: judge a rule, or hand a verdict to whoever waits for it. -/
inductive Task where
  | judge (rule : Rule)
  | answer (verdict : Bool)

def Task.weight : Task → Nat
  | judge rule => 2 * rule.size
  | answer _ => 1

def runTask (event : Event) (task : Task) (waiting : List Waiting) (verdicts : Verdicts) :
    Bool × Verdicts :=
  match task, waiting with
  | .judge rule, waiting =>
    match verdicts[rule.id]? with
    | some verdict => runTask event (.answer verdict) waiting verdicts
    | none =>
      match rule with
      | no id operand => runTask event (.judge operand) (.no id :: waiting) verdicts
      | junction id kind (first :: rest) =>
        runTask event (.judge first) (.junction id kind rest :: waiting) verdicts
      | leaf =>
        let verdict := leaf.leafHolds event
        runTask event (.answer verdict) waiting (verdicts.insert leaf.id verdict)
  | .answer verdict, [] => (verdict, verdicts)
  | .answer verdict, .no id :: waiting =>
    runTask event (.answer !verdict) waiting (verdicts.insert id !verdict)
  | .answer verdict, .junction id _ [] :: waiting =>
    runTask event (.answer verdict) waiting (verdicts.insert id verdict)
  | .answer verdict, .junction id kind (next :: rest) :: waiting =>
    if verdict = kind.settling then
      runTask event (.answer verdict) waiting (verdicts.insert id verdict)
    else runTask event (.judge next) (.junction id kind rest :: waiting) verdicts
termination_by task.weight + Waiting.weights waiting
decreasing_by
  all_goals
    simp only [Task.weight, Waiting.weights, Waiting.weight, size, size.sizes]
  · have := size_pos rule
    omega
  · omega
  · omega
  · have := size_pos leaf
    omega
  all_goals omega

/-- The verdict on an event and the verdicts remembered after it. -/
def matchWith (event : Event) (verdicts : Verdicts) (rule : Rule) : Bool × Verdicts :=
  runTask event (.judge rule) [] verdicts

def isMatch (rule : Rule) (event : Event) : Bool := (rule.matchWith event ∅).1

end Rule

end EventRouting
