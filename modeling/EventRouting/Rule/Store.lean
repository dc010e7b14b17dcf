import EventRouting.Rule
import Std.Data.HashMap

set_option autoImplicit false

/- The store counts the handles on each part. A rule has a handle on each part it is made of; all other
handles are held outside. A part whose last handle is dropped leaves its table and drops the handles that
it has itself. The store keeps one handle on the rule that matches everything. -/
namespace EventRouting

/-- What a rule is made of, by number. -/
inductive Shape where
  | anything
  | test (sense : Sense) (key : Option String) (atom : Option Nat)
  | fuzzy (atom : Nat)
  | no (operand : Nat)
  | junction (kind : Junction) (operands : List Nat)
deriving DecidableEq, Hashable, Repr

def Rule.shape : Rule → Shape
  | anything _ => .anything
  | test _ sense key atom => .test sense key (atom.map SharedAtom.id)
  | fuzzy _ atom => .fuzzy atom.id
  | no _ operand => .no operand.id
  | junction _ kind operands => .junction kind (operands.map id)

/-- What a holder of a part holds. -/
inductive Handle where
  | rule (rule : Rule)
  | atom (atom : SharedAtom)

def Handle.id : Handle → Nat
  | rule held => held.id
  | atom held => held.id

structure Store where
  next : Nat
  atoms : Std.HashMap Atom SharedAtom
  rules : Std.HashMap Shape Rule
  counts : Std.HashMap Nat Nat

/-- Work that may add to a store. -/
abbrev Build := StateM Store

namespace Store

def empty : Store := ⟨1, ∅, ∅, ∅⟩

/-- The number of handles on a part. -/
def count (store : Store) (id : Nat) : Nat := store.counts.getD id 0

/-- One more handle on a part. -/
def retain (store : Store) (id : Nat) : Store :=
  { store with counts := store.counts.insert id (store.count id + 1) }

/-- One handle less on a part. -/
def release (store : Store) (id : Nat) : Store :=
  if store.count id ≤ 1 then { store with counts := store.counts.erase id }
  else { store with counts := store.counts.insert id (store.count id - 1) }

/-- Takes an atom out of its table, unless there are handles on the one found there. -/
def forgetAtom (store : Store) (atom : Atom) : Store :=
  match store.atoms[atom]? with
  | some shared =>
    if store.count shared.id = 0 then { store with atoms := store.atoms.erase atom } else store
  | none => store

/-- Takes a rule out of its table, unless there are handles on the one found there. -/
def forgetRule (store : Store) (shape : Shape) : Store :=
  match store.rules[shape]? with
  | some rule =>
    if store.count rule.id = 0 then { store with rules := store.rules.erase shape } else store
  | none => store

def dropAtom (store : Store) (atom : SharedAtom) : Store :=
  let store := store.release atom.id
  if store.count atom.id = 0 then store.forgetAtom atom.atom else store

def dropAtom? (store : Store) : Option SharedAtom → Store
  | some atom => store.dropAtom atom
  | none => store

/-- Drops a handle on each of the rules. Where it is the last one, the handles of that rule on its
operands are dropped next, so that deep rules need no deep recursion. -/
def dropRules (store : Store) : List Rule → Store
  | [] => store
  | rule :: pending =>
    let store := store.release rule.id
    if store.count rule.id = 0 then
      ((store.forgetRule rule.shape).dropAtom? rule.atom?).dropRules (rule.operands ++ pending)
    else store.dropRules pending
termination_by pending => Rule.size.sizes pending
decreasing_by
  · rw [Rule.sizes_append, Rule.size.sizes]
    exact Nat.add_lt_add_right rule.sizes_operands_lt _
  · rw [Rule.size.sizes]
    exact Nat.lt_add_of_pos_left rule.size_pos

/-- One more handle on a part that is held already. -/
def clone (store : Store) (handle : Handle) : Store := store.retain handle.id

def cloneAll (store : Store) (handles : List Handle) : Store := handles.foldl clone store

def drop (store : Store) : Handle → Store
  | .rule rule => store.dropRules [rule]
  | .atom atom => store.dropAtom atom

def dropAll (store : Store) (handles : List Handle) : Store := handles.foldl drop store

def findAtom? (store : Store) (atom : Atom) : Option SharedAtom :=
  store.atoms[atom]?.filter fun shared => 0 < store.count shared.id

def findRule? (store : Store) (shape : Shape) : Option Rule :=
  store.rules[shape]?.filter fun rule => 0 < store.count rule.id

/-- A handle on the shared atom, found or new. -/
def atom (atom : Atom) : Build SharedAtom := fun store =>
  match store.findAtom? atom with
  | some shared => (shared, store.retain shared.id)
  | none =>
    let shared := ⟨store.next, atom⟩
    (shared, { store with
      next := store.next + 1
      atoms := store.atoms.insert atom shared
      counts := store.counts.insert shared.id 1 })

/-- A handle on the rule of the candidate's shape: the one in the table or, if there is none, the
candidate. The candidate comes with handles on its parts and has the next number. -/
def intern (store : Store) (candidate : Rule) : Rule × Store :=
  match store.findRule? candidate.shape with
  | some rule =>
    (rule, ((store.retain rule.id).dropAtom? candidate.atom?).dropRules candidate.operands)
  | none =>
    (candidate, { store with
      next := store.next + 1
      rules := store.rules.insert candidate.shape candidate
      counts := store.counts.insert candidate.id 1 })

end Store

end EventRouting
