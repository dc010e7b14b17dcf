import EventRouting.Rule.Store
import Mathlib.Data.List.Nodup

set_option autoImplicit false

namespace EventRouting

/-- The parts that a rule is made of. -/
def Rule.parts (rule : Rule) : List Handle :=
  rule.atom?.toList.map .atom ++ rule.operands.map .rule

@[simp] theorem Rule.parts_anything (id : Nat) : (anything id).parts = [] := rfl

@[simp] theorem Rule.parts_test (id : Nat) (sense : Sense) (key : Option String)
    (atom : Option SharedAtom) :
    (test id sense key atom).parts = atom.toList.map .atom := by
  simp [parts, atom?, operands]

@[simp] theorem Rule.parts_fuzzy (id : Nat) (atom : SharedAtom) :
    (fuzzy id atom).parts = [.atom atom] := rfl

@[simp] theorem Rule.parts_no (id : Nat) (operand : Rule) : (no id operand).parts = [.rule operand] := rfl

@[simp] theorem Rule.parts_junction (id : Nat) (kind : Junction) (operands : List Rule) :
    (junction id kind operands).parts = operands.map .rule := rfl

def Rule.isJunction (kind : Junction) : Rule → Bool
  | junction _ other _ => other == kind
  | _ => false

/-- A junction has two or more operands, ascending by number and none of them of its own kind. -/
def Rule.Flat : Rule → Prop
  | junction _ kind operands =>
    2 ≤ operands.length ∧ operands.Pairwise (·.id < ·.id) ∧
      ∀ operand ∈ operands, operand.isJunction kind = false
  | _ => True

theorem Rule.operands_eq_cons {operands : List Rule} (many : 2 ≤ operands.length) :
    ∃ first second rest, operands = first :: second :: rest := by
  match operands, many with
  | first :: second :: rest, _ => exact ⟨first, second, rest, rfl⟩

namespace Handle

def parts : Handle → List Handle
  | rule held => held.parts
  | atom _ => []

def Flat : Handle → Prop
  | rule held => held.Flat
  | atom _ => True

@[simp] theorem id_rule (held : Rule) : (rule held).id = held.id := rfl

@[simp] theorem id_atom (held : SharedAtom) : (atom held).id = held.id := rfl

@[simp] theorem parts_rule (held : Rule) : (rule held).parts = held.parts := rfl

@[simp] theorem parts_atom (held : SharedAtom) : (atom held).parts = [] := rfl

end Handle

/-- The parts that can be got at from some handles. -/
inductive Handle.Reachable (roots : List Handle) : Handle → Prop where
  | root {handle : Handle} (held : handle ∈ roots) : Reachable roots handle
  | part {whole part : Handle} (known : Reachable roots whole) (inside : part ∈ whole.parts) :
    Reachable roots part

theorem Handle.Reachable.mono {roots more : List Handle} {node : Handle} (subset : roots ⊆ more)
    (known : Reachable roots node) : Reachable more node := by
  induction known with
  | root held => exact .root (subset held)
  | part _ inside ih => exact .part ih inside

theorem Handle.not_reachable_nil (node : Handle) : ¬Reachable [] node := by
  intro known
  induction known with
  | root held => simp at held
  | part _ _ ih => exact ih

namespace Store

/-- The part stands in its table. -/
def Lists (store : Store) : Handle → Prop
  | .rule rule => store.rules[rule.shape]? = some rule
  | .atom atom => store.atoms[atom.atom]? = some atom

theorem lists_rule (store : Store) (rule : Rule) :
    store.Lists (.rule rule) ↔ store.rules[rule.shape]? = some rule := Iff.rfl

theorem lists_atom (store : Store) (atom : SharedAtom) :
    store.Lists (.atom atom) ↔ store.atoms[atom.atom]? = some atom := Iff.rfl

/-- All handles, given those outside and the parts in the tables. -/
def tokens (held nodes : List Handle) : List Handle := held ++ nodes.flatMap Handle.parts

structure Ledger (store : Store) (held nodes : List Handle) : Prop where
  rule_iff : ∀ shape rule,
    store.rules[shape]? = some rule ↔ .rule rule ∈ nodes ∧ rule.shape = shape
  atom_iff : ∀ atom shared,
    store.atoms[atom]? = some shared ↔ .atom shared ∈ nodes ∧ shared.atom = atom
  ids : (nodes.map Handle.id).Nodup
  below : ∀ node ∈ nodes, node.id < store.next
  count_eq : ∀ id, store.count id = ((tokens held nodes).map Handle.id).count id
  mem_iff : ∀ node, node ∈ nodes ↔ node ∈ tokens held nodes
  parts_below : ∀ node ∈ nodes, ∀ part ∈ node.parts, part.id < node.id
  flat : ∀ node ∈ nodes, node.Flat

/-- The books balance for some list of parts. -/
def Balanced (store : Store) (held : List Handle) : Prop := ∃ nodes, Ledger store held nodes

/-- The later store has given no new number and lists nothing new. -/
structure Shrunk (before after : Store) : Prop where
  next_eq : after.next = before.next
  subset : ∀ node, after.Lists node → before.Lists node

/-- What is new in the tables of the later store has a number that was not given before. -/
structure Later (before after : Store) : Prop where
  next_le : before.next ≤ after.next
  fresh : ∀ node, after.Lists node → before.Lists node ∨ before.next ≤ node.id

theorem Shrunk.refl (store : Store) : Shrunk store store := ⟨rfl, fun _ listed => listed⟩

theorem Shrunk.trans {first second third : Store} (early : Shrunk first second)
    (late : Shrunk second third) : Shrunk first third :=
  ⟨late.next_eq.trans early.next_eq, fun node listed => early.subset node (late.subset node listed)⟩

theorem Later.refl (store : Store) : Later store store := ⟨Nat.le_refl _, fun _ => Or.inl⟩

theorem Later.trans {first second third : Store} (early : Later first second)
    (late : Later second third) : Later first third := by
  refine ⟨Nat.le_trans early.next_le late.next_le, ?_⟩
  intro node listed
  rcases late.fresh node listed with old | new
  · exact early.fresh node old
  · exact Or.inr (Nat.le_trans early.next_le new)

theorem Shrunk.later {before after : Store} (shrunk : Shrunk before after) : Later before after :=
  ⟨Nat.le_of_eq shrunk.next_eq.symm, fun node listed => Or.inl (shrunk.subset node listed)⟩

@[simp] theorem count_retain (store : Store) (id other : Nat) :
    (store.retain id).count other = store.count other + if other = id then 1 else 0 := by
  by_cases same : id = other
  · simp [retain, count, same]
  · simp [retain, count, Std.HashMap.getD_insert, same, Ne.symm same]

@[simp] theorem count_release (store : Store) (id other : Nat) :
    (store.release id).count other = store.count other - if other = id then 1 else 0 := by
  by_cases same : id = other
  · subst same
    by_cases last : store.counts.getD id 0 ≤ 1
    · simp [release, count, last]
    · simp [release, count, last]
  · by_cases last : store.counts.getD id 0 ≤ 1
    · simp [release, count, last, Std.HashMap.getD_erase, same, Ne.symm same]
    · simp [release, count, last, Std.HashMap.getD_insert, same, Ne.symm same]

@[simp] theorem retain_next (store : Store) (id : Nat) : (store.retain id).next = store.next := rfl

@[simp] theorem retain_rules (store : Store) (id : Nat) : (store.retain id).rules = store.rules := rfl

@[simp] theorem retain_atoms (store : Store) (id : Nat) : (store.retain id).atoms = store.atoms := rfl

@[simp] theorem release_next (store : Store) (id : Nat) : (store.release id).next = store.next := by
  unfold release
  split <;> rfl

@[simp] theorem release_rules (store : Store) (id : Nat) :
    (store.release id).rules = store.rules := by
  unfold release
  split <;> rfl

@[simp] theorem release_atoms (store : Store) (id : Nat) :
    (store.release id).atoms = store.atoms := by
  unfold release
  split <;> rfl

@[simp] theorem forgetRule_next (store : Store) (shape : Shape) :
    (store.forgetRule shape).next = store.next := by
  unfold forgetRule
  split
  · split <;> rfl
  · rfl

@[simp] theorem forgetRule_atoms (store : Store) (shape : Shape) :
    (store.forgetRule shape).atoms = store.atoms := by
  unfold forgetRule
  split
  · split <;> rfl
  · rfl

@[simp] theorem count_forgetRule (store : Store) (shape : Shape) (id : Nat) :
    (store.forgetRule shape).count id = store.count id := by
  unfold forgetRule
  split
  · split <;> rfl
  · rfl

@[simp] theorem forgetAtom_next (store : Store) (atom : Atom) :
    (store.forgetAtom atom).next = store.next := by
  unfold forgetAtom
  split
  · split <;> rfl
  · rfl

@[simp] theorem forgetAtom_rules (store : Store) (atom : Atom) :
    (store.forgetAtom atom).rules = store.rules := by
  unfold forgetAtom
  split
  · split <;> rfl
  · rfl

@[simp] theorem count_forgetAtom (store : Store) (atom : Atom) (id : Nat) :
    (store.forgetAtom atom).count id = store.count id := by
  unfold forgetAtom
  split
  · split <;> rfl
  · rfl

/-- A rule without handles leaves the table. -/
theorem forgetRule_rules {store : Store} {rule : Rule} (listed : store.rules[rule.shape]? = some rule)
    (last : store.count rule.id = 0) :
    (store.forgetRule rule.shape).rules = store.rules.erase rule.shape := by
  simp [forgetRule, listed, last]

/-- An atom without handles leaves the table. -/
theorem forgetAtom_atoms {store : Store} {shared : SharedAtom}
    (listed : store.atoms[shared.atom]? = some shared) (last : store.count shared.id = 0) :
    (store.forgetAtom shared.atom).atoms = store.atoms.erase shared.atom := by
  simp [forgetAtom, listed, last]

theorem tokens_perm {held other : List Handle} (same : held.Perm other) (nodes : List Handle) :
    (tokens held nodes).Perm (tokens other nodes) :=
  same.append_right _

namespace Ledger

variable {store : Store} {held nodes : List Handle}

theorem permute {other : List Handle} (ledger : Ledger store held nodes) (same : held.Perm other) :
    Ledger store other nodes where
  rule_iff := ledger.rule_iff
  atom_iff := ledger.atom_iff
  ids := ledger.ids
  below := ledger.below
  count_eq id := by
    rw [ledger.count_eq, ((tokens_perm same nodes).map Handle.id).count_eq]
  mem_iff node := by
    rw [ledger.mem_iff, (tokens_perm same nodes).mem_iff]
  parts_below := ledger.parts_below
  flat := ledger.flat

/-- A number stands for one part. -/
theorem unique (ledger : Ledger store held nodes) {left right : Handle} (inLeft : left ∈ nodes)
    (inRight : right ∈ nodes) (same : left.id = right.id) : left = right :=
  List.inj_on_of_nodup_map ledger.ids inLeft inRight same

theorem lists_iff (ledger : Ledger store held nodes) (node : Handle) :
    store.Lists node ↔ node ∈ nodes := by
  cases node with
  | rule rule => simp [Lists, ledger.rule_iff]
  | atom atom => simp [Lists, ledger.atom_iff]

theorem held_mem (ledger : Ledger store held nodes) {handle : Handle} (member : handle ∈ held) :
    handle ∈ nodes :=
  (ledger.mem_iff handle).2 (List.mem_append_left _ member)

theorem rules_mem {rules : List Rule} (ledger : Ledger store (rules.map .rule ++ held) nodes) :
    ∀ rule ∈ rules, .rule rule ∈ nodes :=
  fun _ inside => ledger.held_mem (List.mem_append_left _ (List.mem_map_of_mem inside))

theorem part_mem (ledger : Ledger store held nodes) {node part : Handle} (member : node ∈ nodes)
    (inside : part ∈ node.parts) : part ∈ nodes :=
  (ledger.mem_iff part).2 (List.mem_append_right _ (List.mem_flatMap.2 ⟨node, member, inside⟩))

theorem operands_mem (ledger : Ledger store held nodes) {id : Nat} {kind : Junction} {operands : List Rule}
    (member : .rule (.junction id kind operands) ∈ nodes) :
    ∀ operand ∈ operands, .rule operand ∈ nodes :=
  fun _ inside => ledger.part_mem member (List.mem_map_of_mem inside)

theorem count_pos (ledger : Ledger store held nodes) {node : Handle} (member : node ∈ nodes) :
    0 < store.count node.id := by
  rw [ledger.count_eq, List.count_pos_iff]
  exact List.mem_map_of_mem ((ledger.mem_iff node).1 member)

/-- A number that still counts is that of a part some handle is on. -/
theorem token_of_count (ledger : Ledger store held nodes) {id : Nat} (counted : 0 < store.count id) :
    ∃ node ∈ tokens held nodes, node.id = id := by
  rw [ledger.count_eq, List.count_pos_iff] at counted
  exact List.mem_map.1 counted

theorem findRule?_eq (ledger : Ledger store held nodes) (shape : Shape) :
    store.findRule? shape = store.rules[shape]? := by
  unfold findRule?
  cases found : store.rules[shape]? with
  | none => rfl
  | some rule =>
    have counted := ledger.count_pos ((ledger.rule_iff shape rule).1 found).1
    simpa using counted

theorem findAtom?_eq (ledger : Ledger store held nodes) (atom : Atom) :
    store.findAtom? atom = store.atoms[atom]? := by
  unfold findAtom?
  cases found : store.atoms[atom]? with
  | none => rfl
  | some shared =>
    have counted := ledger.count_pos ((ledger.atom_iff atom shared).1 found).1
    simpa using counted

/-- The listed parts are those that can be got at: a part has a smaller number than the whole, so the
way from a part up to a whole ends at a handle from outside. -/
theorem mem_iff_reachable (ledger : Ledger store held nodes) (node : Handle) :
    node ∈ nodes ↔ Handle.Reachable held node := by
  constructor
  · intro member
    induction above : store.next - node.id using Nat.strongRecOn generalizing node with
    | ind distance ih =>
      rcases List.mem_append.1 ((ledger.mem_iff node).1 member) with root | part
      · exact .root root
      · obtain ⟨whole, inside, belongs⟩ := List.mem_flatMap.1 part
        have smaller := ledger.parts_below whole inside node belongs
        have bounded := ledger.below whole inside
        exact .part (ih _ (by omega) whole inside rfl) belongs
  · intro known
    induction known with
    | root held => exact ledger.held_mem held
    | part _ inside ih => exact ledger.part_mem ih inside

/-- A part that is there can be held once more. -/
theorem retain (ledger : Ledger store held nodes) {handle : Handle} (member : handle ∈ nodes) :
    Ledger (store.retain handle.id) (handle :: held) nodes where
  rule_iff := ledger.rule_iff
  atom_iff := ledger.atom_iff
  ids := ledger.ids
  below := ledger.below
  count_eq id := by
    rw [count_retain, ledger.count_eq]
    by_cases same : id = handle.id
    · simp [tokens, same]
    · simp [tokens, same, Ne.symm same]
  mem_iff node := by
    have known := (ledger.mem_iff handle).1 member
    rw [ledger.mem_iff]
    constructor
    · exact List.mem_cons_of_mem _
    · intro inside
      rcases List.mem_cons.1 inside with rfl | inside
      · exact known
      · exact inside
  parts_below := ledger.parts_below
  flat := ledger.flat

theorem release_count {handle : Handle} (ledger : Ledger store (handle :: held) nodes) (id : Nat) :
    (store.release handle.id).count id = ((tokens held nodes).map Handle.id).count id := by
  rw [count_release, ledger.count_eq]
  by_cases same : id = handle.id
  · simp [tokens, same]
  · simp [tokens, same, Ne.symm same]

/-- The count is down to zero when there is no other handle on the part. -/
theorem release_zero_iff {handle : Handle} (ledger : Ledger store (handle :: held) nodes) :
    (store.release handle.id).count handle.id = 0 ↔ handle ∉ tokens held nodes := by
  rw [ledger.release_count, List.count_eq_zero, not_iff_not]
  constructor
  · intro counted
    obtain ⟨node, inside, same⟩ := List.mem_map.1 counted
    have known : node ∈ nodes := (ledger.mem_iff node).2 (List.mem_cons_of_mem _ inside)
    rwa [← ledger.unique known (ledger.held_mem List.mem_cons_self) same]
  · exact List.mem_map_of_mem

/-- Dropping one of several handles on a part changes its count only. -/
theorem release {handle : Handle} (ledger : Ledger store (handle :: held) nodes)
    (others : handle ∈ tokens held nodes) : Ledger (store.release handle.id) held nodes where
  rule_iff := by simpa using ledger.rule_iff
  atom_iff := by simpa using ledger.atom_iff
  ids := ledger.ids
  below := by simpa using ledger.below
  count_eq := ledger.release_count
  mem_iff node := by
    rw [ledger.mem_iff]
    constructor
    · intro inside
      rcases List.mem_cons.1 inside with rfl | inside
      · exact others
      · exact inside
    · exact List.mem_cons_of_mem _
  parts_below := ledger.parts_below
  flat := ledger.flat

/-- Once the last handle on a part is dropped, the part is in no table and its own handles are held. -/
theorem forget {after : Store} {handle : Handle} {first last : List Handle}
    (ledger : Ledger store (handle :: held) (first ++ handle :: last))
    (lastHandle : handle ∉ tokens held (first ++ handle :: last))
    (next : after.next = store.next)
    (counts : ∀ id, after.count id = (store.release handle.id).count id)
    (rules : ∀ (shape : Shape) rule, after.rules[shape]? = some rule ↔
      store.rules[shape]? = some rule ∧ Handle.rule rule ≠ handle)
    (atoms : ∀ (atom : Atom) shared, after.atoms[atom]? = some shared ↔
      store.atoms[atom]? = some shared ∧ Handle.atom shared ≠ handle) :
    Ledger after (handle.parts ++ held) (first ++ last) := by
  have split : (first ++ handle :: last).Perm (handle :: (first ++ last)) := List.perm_middle
  have once : (handle :: (first ++ last)).Nodup := split.nodup_iff.1 (List.Nodup.of_map _ ledger.ids)
  have rest (node : Handle) : node ∈ first ++ last ↔
      node ∈ first ++ handle :: last ∧ node ≠ handle := by
    rw [split.mem_iff, List.mem_cons]
    constructor
    · intro inside
      exact ⟨Or.inr inside, fun same => (List.nodup_cons.1 once).1 (same ▸ inside)⟩
    · rintro ⟨same | inside, other⟩
      · exact absurd same other
      · exact inside
  have moved : (tokens (handle.parts ++ held) (first ++ last)).Perm
      (tokens held (first ++ handle :: last)) := by
    simp only [tokens, List.flatMap_append, List.flatMap_cons, List.append_assoc]
    exact (List.perm_append_comm_assoc _ _ _).trans
      ((List.perm_append_comm_assoc _ _ _).append_left _)
  refine ⟨?_, ?_, ?_, ?_, ?_, ?_, ?_, ?_⟩
  · intro shape rule
    rw [rules, ledger.rule_iff, rest]
    tauto
  · intro atom shared
    rw [atoms, ledger.atom_iff, rest]
    tauto
  · have ids := (split.map Handle.id).nodup_iff.1 ledger.ids
    exact (List.nodup_cons.1 ids).2
  · intro node inside
    rw [next]
    exact ledger.below node ((rest node).1 inside).1
  · intro id
    rw [counts, ledger.release_count, (moved.map Handle.id).count_eq]
  · intro node
    rw [rest, moved.mem_iff, ledger.mem_iff]
    constructor
    · rintro ⟨inside, other⟩
      exact (List.mem_cons.1 inside).resolve_left other
    · intro inside
      exact ⟨List.mem_cons_of_mem _ inside, fun same => lastHandle (same ▸ inside)⟩
  · intro node inside
    exact ledger.parts_below node ((rest node).1 inside).1
  · intro node inside
    exact ledger.flat node ((rest node).1 inside).1

end Ledger

namespace Balanced

variable {store : Store} {held : List Handle}

theorem permute {other : List Handle} (balanced : Balanced store held) (same : held.Perm other) :
    Balanced store other := by
  obtain ⟨nodes, ledger⟩ := balanced
  exact ⟨nodes, ledger.permute same⟩

theorem lists_iff (balanced : Balanced store held) (node : Handle) :
    store.Lists node ↔ Handle.Reachable held node := by
  obtain ⟨nodes, ledger⟩ := balanced
  rw [ledger.lists_iff, ledger.mem_iff_reachable]

theorem lists_held {handle : Handle} (balanced : Balanced store held) (member : handle ∈ held) :
    store.Lists handle := by
  obtain ⟨nodes, ledger⟩ := balanced
  exact (ledger.lists_iff handle).2 (ledger.held_mem member)

theorem clone {handle : Handle} (balanced : Balanced store held) (listed : store.Lists handle) :
    Balanced (store.clone handle) (handle :: held) := by
  obtain ⟨nodes, ledger⟩ := balanced
  exact ⟨nodes, ledger.retain ((ledger.lists_iff handle).1 listed)⟩

theorem dropAtom {atom : SharedAtom} (balanced : Balanced store (.atom atom :: held)) :
    Balanced (store.dropAtom atom) held := by
  obtain ⟨nodes, ledger⟩ := balanced
  have member : Handle.atom atom ∈ nodes := ledger.held_mem List.mem_cons_self
  unfold Store.dropAtom
  by_cases last : (store.release atom.id).count atom.id = 0
  · rw [if_pos last]
    have listed : (store.release atom.id).atoms[atom.atom]? = some atom := by
      simpa [lists_atom] using (ledger.lists_iff (.atom atom)).2 member
    have gone := ledger.release_zero_iff.1 last
    obtain ⟨first, rest, rfl⟩ := List.append_of_mem member
    refine ⟨first ++ rest, ledger.forget gone (by simp) (by simp) ?_ ?_⟩
    · simp
    · intro value shared
      rw [forgetAtom_atoms listed last, Std.HashMap.getElem?_erase, release_atoms]
      by_cases same : atom.atom = value
      · subst same
        rw [release_atoms] at listed
        simp [listed, eq_comm]
      · have other (found : store.atoms[value]? = some shared) : shared ≠ atom := by
          rintro rfl
          exact same ((ledger.atom_iff _ _).1 found).2
        simpa [same] using other
  · rw [if_neg last]
    exact ⟨nodes, ledger.release (not_not.1 fun gone => last (ledger.release_zero_iff.2 gone))⟩

theorem dropAtom? {atom : Option SharedAtom}
    (balanced : Balanced store (atom.toList.map .atom ++ held)) :
    Balanced (store.dropAtom? atom) held := by
  cases atom with
  | none => exact balanced
  | some atom => exact balanced.dropAtom

/-- The last handle on a rule goes: its handles on its parts are held instead. -/
theorem forgetRule {rule : Rule} (balanced : Balanced store (.rule rule :: held))
    (last : (store.release rule.id).count rule.id = 0) :
    Balanced ((store.release rule.id).forgetRule rule.shape) (rule.parts ++ held) := by
  obtain ⟨nodes, ledger⟩ := balanced
  have member : Handle.rule rule ∈ nodes := ledger.held_mem List.mem_cons_self
  have listed : (store.release rule.id).rules[rule.shape]? = some rule := by
    simpa [lists_rule] using (ledger.lists_iff (.rule rule)).2 member
  have gone := ledger.release_zero_iff.1 last
  obtain ⟨first, rest, rfl⟩ := List.append_of_mem member
  refine ⟨first ++ rest, ledger.forget gone (by simp) (by simp) ?_ ?_⟩
  · intro shape found
    rw [forgetRule_rules listed last, Std.HashMap.getElem?_erase, release_rules]
    by_cases same : rule.shape = shape
    · subst same
      rw [release_rules] at listed
      simp [listed, eq_comm]
    · have other (known : store.rules[shape]? = some found) : found ≠ rule := by
        rintro rfl
        exact same ((ledger.rule_iff _ _).1 known).2
      simpa [same] using other
  · simp

/-- Dropping another handle than the last leaves the tables as they are. -/
theorem releaseRule {rule : Rule} (balanced : Balanced store (.rule rule :: held))
    (others : (store.release rule.id).count rule.id ≠ 0) : Balanced (store.release rule.id) held := by
  obtain ⟨nodes, ledger⟩ := balanced
  exact ⟨nodes, ledger.release (not_not.1 fun gone => others (ledger.release_zero_iff.2 gone))⟩

theorem dropRules (pending : List Rule) {store : Store} {held : List Handle}
    (balanced : Balanced store (pending.map .rule ++ held)) :
    Balanced (store.dropRules pending) held := by
  induction store, pending using Store.dropRules.induct generalizing held with
  | case1 store => simpa [Store.dropRules] using balanced
  | case2 =>
    rename_i rule pending _ last ih
    rw [Store.dropRules, if_pos last]
    refine ih (dropAtom? ?_)
    apply (forgetRule balanced last).permute
    simp [Rule.parts]
  | case3 =>
    rename_i rule pending _ others ih
    rw [Store.dropRules, if_neg others]
    exact ih (releaseRule balanced others)

theorem drop {handle : Handle} (balanced : Balanced store (handle :: held)) :
    Balanced (store.drop handle) held := by
  cases handle with
  | rule rule => exact dropRules [rule] balanced
  | atom atom => exact dropAtom balanced

end Balanced

end Store

end EventRouting
