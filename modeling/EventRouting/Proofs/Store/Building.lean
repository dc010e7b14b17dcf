import EventRouting.Proofs.Store.Ledger
import EventRouting.Rule.Build

set_option autoImplicit false

namespace EventRouting

/-- The same rule under another number. -/
def Rule.renumber (id : Nat) : Rule → Rule
  | .anything _ => .anything id
  | .test _ sense key atom => .test id sense key atom
  | .fuzzy _ atom => .fuzzy id atom
  | .no _ operand => .no id operand
  | .junction _ kind operands => .junction id kind operands

namespace Rule

@[simp] theorem renumber_id (rule : Rule) : rule.renumber rule.id = rule := by
  cases rule <;> rfl

end Rule

namespace Store

namespace Shrunk

theorem of_tables {before after : Store} (next : after.next = before.next)
    (rules : after.rules = before.rules) (atoms : after.atoms = before.atoms) :
    Shrunk before after := by
  refine ⟨next, ?_⟩
  intro node listed
  cases node with
  | rule rule => simpa [lists_rule, rules] using listed
  | atom atom => simpa [lists_atom, atoms] using listed

theorem retain (store : Store) (id : Nat) : Shrunk store (store.retain id) :=
  of_tables rfl rfl rfl

theorem release (store : Store) (id : Nat) : Shrunk store (store.release id) :=
  of_tables (by simp) (by simp) (by simp)

theorem forgetAtom (store : Store) (atom : Atom) : Shrunk store (store.forgetAtom atom) := by
  unfold Store.forgetAtom
  split
  · split
    · refine ⟨rfl, ?_⟩
      intro node listed
      cases node with
      | rule rule => exact listed
      | atom other =>
        rw [lists_atom, Std.HashMap.getElem?_erase] at listed
        split at listed
        · contradiction
        · exact listed
    · exact refl store
  · exact refl store

theorem forgetRule (store : Store) (shape : Shape) : Shrunk store (store.forgetRule shape) := by
  unfold Store.forgetRule
  split
  · split
    · refine ⟨rfl, ?_⟩
      intro node listed
      cases node with
      | rule other =>
        rw [lists_rule, Std.HashMap.getElem?_erase] at listed
        split at listed
        · contradiction
        · exact listed
      | atom atom => exact listed
    · exact refl store
  · exact refl store

theorem dropAtom (store : Store) (atom : SharedAtom) : Shrunk store (store.dropAtom atom) := by
  unfold Store.dropAtom
  by_cases last : (store.release atom.id).count atom.id = 0
  · rw [if_pos last]
    exact (release store atom.id).trans (forgetAtom _ _)
  · rw [if_neg last]
    exact release store atom.id

theorem dropAtom? (store : Store) (atom : Option SharedAtom) : Shrunk store (store.dropAtom? atom) := by
  cases atom with
  | none => exact refl store
  | some atom => exact dropAtom store atom

theorem dropRules (store : Store) (pending : List Rule) : Shrunk store (store.dropRules pending) := by
  induction store, pending using Store.dropRules.induct with
  | case1 store =>
    rw [Store.dropRules]
    exact refl store
  | case2 =>
    rename_i store rule pending _ last ih
    rw [Store.dropRules, if_pos last]
    have forgotten := (release store rule.id).trans (forgetRule _ rule.shape)
    have dropped := forgotten.trans (dropAtom? _ rule.atom?)
    exact dropped.trans ih
  | case3 =>
    rename_i rule pending _ others ih
    rw [Store.dropRules, if_neg others]
    exact (release _ _).trans ih

theorem drop (store : Store) (handle : Handle) : Shrunk store (store.drop handle) := by
  cases handle with
  | rule rule => exact dropRules store [rule]
  | atom atom => exact dropAtom store atom

theorem cloneAll (store : Store) (handles : List Handle) : Shrunk store (store.cloneAll handles) := by
  induction handles generalizing store with
  | nil => exact refl store
  | cons handle rest ih => exact (retain store handle.id).trans (ih (store.clone handle))

end Shrunk

@[simp] theorem cloneAll_rules (store : Store) (handles : List Handle) :
    (store.cloneAll handles).rules = store.rules := by
  induction handles generalizing store with
  | nil => rfl
  | cons handle rest ih => exact ih (store.clone handle)

/-- Handles on parts that are there can be taken one by one. -/
theorem Balanced.cloneAll {handles : List Handle} {store : Store} {held : List Handle}
    (balanced : Balanced store held) (listed : ∀ handle ∈ handles, store.Lists handle) :
    Balanced (store.cloneAll handles) (handles ++ held) := by
  induction handles generalizing store held with
  | nil => exact balanced
  | cons handle rest ih =>
    have cloned := balanced.clone (listed handle List.mem_cons_self)
    refine (ih cloned ?_).permute ?_
    · intro other inside
      cases other with
      | rule rule => exact listed (.rule rule) (List.mem_cons_of_mem _ inside)
      | atom atom => exact listed (.atom atom) (List.mem_cons_of_mem _ inside)
    · exact List.perm_middle

theorem getElem?_insert_iff {Key Value : Type} [DecidableEq Key] [Hashable Key]
    {table : Std.HashMap Key Value} {key : Key} (absent : table[key]? = none) (value : Value) (other : Key)
    (found : Value) : (table.insert key value)[other]? = some found ↔
      table[other]? = some found ∨ found = value ∧ key = other := by
  rw [Std.HashMap.getElem?_insert]
  by_cases same : key = other
  · subst same
    simp [absent, eq_comm]
  · simp [same]

namespace Ledger

variable {store : Store} {held nodes : List Handle}

theorem fresh_count (ledger : Ledger store held nodes) : store.count store.next = 0 := by
  by_contra counted
  obtain ⟨node, inside, same⟩ := ledger.token_of_count (Nat.pos_of_ne_zero counted)
  have known := ledger.below node ((ledger.mem_iff node).2 inside)
  omega

theorem count_fresh (ledger : Ledger store held nodes) {fresh : Nat}
    (number : fresh = store.next) (id : Nat) :
    (store.counts.insert fresh 1).getD id 0 = store.count id + if id = fresh then 1 else 0 := by
  have unused := ledger.fresh_count
  rw [← number, count] at unused
  by_cases same : id = fresh
  · simp [count, same, unused]
  · simp [count, Std.HashMap.getD_insert, same, Ne.symm same]

/-- A new part takes over the handles on its parts and has the next number. -/
theorem insert {after : Store} {handle : Handle} (ledger : Ledger store (handle.parts ++ held) nodes)
    (number : handle.id = store.next) (flat : handle.Flat)
    (next : after.next = store.next + 1)
    (counts : ∀ id, after.count id = store.count id + if id = handle.id then 1 else 0)
    (rules : ∀ (shape : Shape) rule, after.rules[shape]? = some rule ↔
      store.rules[shape]? = some rule ∨ Handle.rule rule = handle ∧ rule.shape = shape)
    (atoms : ∀ (atom : Atom) shared, after.atoms[atom]? = some shared ↔
      store.atoms[atom]? = some shared ∨ Handle.atom shared = handle ∧ shared.atom = atom) :
    Ledger after (handle :: held) (handle :: nodes) := by
  have moved : (tokens (handle :: held) (handle :: nodes)).Perm
      (handle :: tokens (handle.parts ++ held) nodes) := by
    simp only [tokens, List.flatMap_cons, List.cons_append, List.append_assoc]
    exact (List.perm_append_comm_assoc _ _ _).cons handle
  refine ⟨?_, ?_, ?_, ?_, ?_, ?_, ?_, ?_⟩
  · intro shape rule
    rw [rules, ledger.rule_iff, List.mem_cons]
    tauto
  · intro atom shared
    rw [atoms, ledger.atom_iff, List.mem_cons]
    tauto
  · rw [List.map_cons, List.nodup_cons]
    refine ⟨?_, ledger.ids⟩
    intro known
    obtain ⟨node, inside, same⟩ := List.mem_map.1 known
    have below := ledger.below node inside
    omega
  · intro node inside
    rw [next]
    rcases List.mem_cons.1 inside with rfl | old
    · omega
    · exact Nat.lt_succ_of_lt (ledger.below node old)
  · intro id
    rw [counts, ledger.count_eq, (moved.map Handle.id).count_eq]
    by_cases same : id = handle.id
    · simp [same]
    · simp [same, Ne.symm same]
  · intro node
    rw [moved.mem_iff, List.mem_cons, List.mem_cons, ledger.mem_iff]
  · intro node inside part belongs
    rcases List.mem_cons.1 inside with rfl | old
    · rw [number]
      exact ledger.below part (ledger.held_mem (List.mem_append_left _ belongs))
    · exact ledger.parts_below node old part belongs
  · intro node inside
    rcases List.mem_cons.1 inside with rfl | old
    · exact flat
    · exact ledger.flat node old

theorem rule_unique (ledger : Ledger store held nodes) {left right : Rule}
    (inLeft : .rule left ∈ nodes) (inRight : .rule right ∈ nodes) (same : left.id = right.id) :
    left = right := by
  simpa using ledger.unique inLeft inRight same

theorem atom_unique (ledger : Ledger store held nodes) {left right : SharedAtom}
    (inLeft : .atom left ∈ nodes) (inRight : .atom right ∈ nodes) (same : left.id = right.id) :
    left = right := by
  simpa using ledger.unique inLeft inRight same

theorem rules_unique (ledger : Ledger store held nodes) {left right : List Rule}
    (inLeft : ∀ rule ∈ left, .rule rule ∈ nodes) (inRight : ∀ rule ∈ right, .rule rule ∈ nodes)
    (same : left.map Rule.id = right.map Rule.id) : left = right := by
  induction left generalizing right with
  | nil =>
    rw [List.map_nil, eq_comm, List.map_eq_nil_iff] at same
    exact same.symm
  | cons rule rest ih =>
    cases right with
    | nil => simp at same
    | cons other others =>
      simp only [List.map_cons, List.cons.injEq] at same
      rw [ledger.rule_unique (inLeft rule List.mem_cons_self) (inRight other List.mem_cons_self) same.1,
        ih (fun rule inside => inLeft rule (List.mem_cons_of_mem _ inside))
          (fun rule inside => inRight rule (List.mem_cons_of_mem _ inside)) same.2]

theorem shape_unique (ledger : Ledger store held nodes) {left right : Rule}
    (inLeft : .rule left ∈ nodes) (inRight : .rule right ∈ nodes) (same : left.shape = right.shape) :
    left = right := by
  have found := (ledger.rule_iff left.shape left).2 ⟨inLeft, rfl⟩
  rw [(ledger.rule_iff left.shape right).2 ⟨inRight, same.symm⟩] at found
  exact (Option.some.inj found).symm

theorem value_unique (ledger : Ledger store held nodes) {left right : SharedAtom}
    (inLeft : .atom left ∈ nodes) (inRight : .atom right ∈ nodes) (same : left.atom = right.atom) :
    left = right := by
  have found := (ledger.atom_iff left.atom left).2 ⟨inLeft, rfl⟩
  rw [(ledger.atom_iff left.atom right).2 ⟨inRight, same.symm⟩] at found
  exact (Option.some.inj found).symm

/-- Rules of one shape are one rule, but for their numbers. -/
theorem renumber_of_shape (ledger : Ledger store held nodes) {rule candidate : Rule}
    (member : .rule rule ∈ nodes) (parts : ∀ part ∈ candidate.parts, part ∈ nodes)
    (same : rule.shape = candidate.shape) : rule = candidate.renumber rule.id := by
  have own : ∀ part ∈ rule.parts, part ∈ nodes := fun part => ledger.part_mem member
  cases rule <;> cases candidate <;> simp only [Rule.shape, Shape.test.injEq, Shape.fuzzy.injEq,
    Shape.no.injEq, Shape.junction.injEq, reduceCtorEq] at same
  case anything => rfl
  case test.test id sense key atom _ _ _ other =>
    obtain ⟨rfl, rfl, ids⟩ := same
    cases atom <;> cases other <;> simp only [Option.map, Option.some.injEq, reduceCtorEq] at ids
    · rfl
    · rw [Rule.renumber, ledger.atom_unique (own _ (by simp))
        (parts _ (by simp)) ids]
      rfl
  case fuzzy.fuzzy =>
    rw [Rule.renumber, ledger.atom_unique (own _ (by simp))
      (parts _ (by simp)) same]
    rfl
  case no.no =>
    rw [Rule.renumber, ledger.rule_unique (own _ (by simp))
      (parts _ (by simp)) same]
    rfl
  case junction.junction id kind operands _ _ others =>
    obtain ⟨rfl, ids⟩ := same
    have equal : operands = others :=
      ledger.rules_unique (fun rule inside => own _ (by simpa))
        (fun rule inside => parts _ (by simpa)) ids
    rw [equal]
    rfl

end Ledger

section Sharing

variable {store : Store} {held : List Handle}

/-- A rule that is there is found again. -/
theorem intern_known (balanced : Balanced store held) {candidate rule : Rule}
    (listed : store.rules[candidate.shape]? = some rule) : (store.intern candidate).1 = rule := by
  obtain ⟨nodes, ledger⟩ := balanced
  rw [intern, ledger.findRule?_eq, listed]

/-- The result is the candidate, but perhaps for its number. -/
theorem intern_renumber (candidate : Rule) (balanced : Balanced store (candidate.parts ++ held)) :
    ∃ id, (store.intern candidate).1 = candidate.renumber id := by
  obtain ⟨nodes, ledger⟩ := balanced
  rw [intern, ledger.findRule?_eq]
  cases found : store.rules[candidate.shape]? with
  | none => exact ⟨candidate.id, candidate.renumber_id.symm⟩
  | some rule =>
    obtain ⟨member, same⟩ := (ledger.rule_iff _ _).1 found
    have parts : ∀ part ∈ candidate.parts, part ∈ nodes := fun part inside =>
      ledger.held_mem (List.mem_append_left _ inside)
    exact ⟨rule.id, ledger.renumber_of_shape member parts same⟩

/-- Only the candidate can be new. -/
theorem intern_lists (store : Store) (candidate : Rule) {node : Handle}
    (listed : (store.intern candidate).2.Lists node) : store.Lists node ∨ node = .rule candidate := by
  unfold intern at listed
  cases found : store.findRule? candidate.shape with
  | some rule =>
    rw [found] at listed
    have shrunk := (Shrunk.retain store rule.id).trans
      ((Shrunk.dropAtom? _ candidate.atom?).trans (Shrunk.dropRules _ candidate.operands))
    exact Or.inl (shrunk.subset node listed)
  | none =>
    rw [found] at listed
    cases node with
    | atom atom => exact Or.inl listed
    | rule rule =>
      rw [lists_rule, Std.HashMap.getElem?_insert] at listed
      split at listed
      · exact Or.inr (by rw [Option.some.inj listed])
      · exact Or.inl listed

theorem intern_next_le (store : Store) (candidate : Rule) :
    store.next ≤ (store.intern candidate).2.next := by
  unfold intern
  cases store.findRule? candidate.shape with
  | some rule =>
    have shrunk := (Shrunk.retain store rule.id).trans
      ((Shrunk.dropAtom? _ candidate.atom?).trans (Shrunk.dropRules _ candidate.operands))
    exact Nat.le_of_eq shrunk.next_eq.symm
  | none => exact Nat.le_succ _

theorem intern_later {candidate : Rule} (number : candidate.id = store.next) :
    Later store (store.intern candidate).2 := by
  refine ⟨intern_next_le store candidate, ?_⟩
  intro node listed
  rcases intern_lists store candidate listed with old | rfl
  · exact Or.inl old
  · exact Or.inr (Nat.le_of_eq number.symm)

theorem Balanced.intern {candidate : Rule} (balanced : Balanced store (candidate.parts ++ held))
    (number : candidate.id = store.next) (flat : candidate.Flat) :
    Balanced (store.intern candidate).2 (.rule (store.intern candidate).1 :: held) := by
  obtain ⟨nodes, ledger⟩ := balanced
  rw [Store.intern, ledger.findRule?_eq]
  cases found : store.rules[candidate.shape]? with
  | some rule =>
    have listed : store.Lists (.rule rule) := by
      rw [lists_rule, ((ledger.rule_iff _ _).1 found).2, found]
    have cloned : Balanced (store.retain rule.id)
        (candidate.atom?.toList.map .atom ++ (candidate.operands.map .rule ++ .rule rule :: held)) := by
      apply (Balanced.clone ⟨nodes, ledger⟩ listed).permute
      rw [Rule.parts, ← List.append_assoc]
      exact List.perm_middle.symm
    exact dropRules _ (dropAtom? cloned)
  | none =>
    refine ⟨_, ledger.insert number flat rfl (ledger.count_fresh number) ?_ (by simp)⟩
    intro shape rule
    rw [getElem?_insert_iff found, Handle.rule.injEq]
    apply or_congr_right
    apply and_congr_right
    rintro rfl
    exact Iff.rfl

/-- A shared atom that is there is found again. -/
theorem atom_known (balanced : Balanced store held) {value : Atom} {shared : SharedAtom}
    (listed : store.atoms[value]? = some shared) : (atom value store).1 = shared := by
  obtain ⟨nodes, ledger⟩ := balanced
  rw [atom, ledger.findAtom?_eq, listed]

theorem atom_value (balanced : Balanced store held) (value : Atom) :
    (atom value store).1.atom = value := by
  obtain ⟨nodes, ledger⟩ := balanced
  rw [atom, ledger.findAtom?_eq]
  cases found : store.atoms[value]? with
  | none => rfl
  | some shared => exact ((ledger.atom_iff _ _).1 found).2

theorem atom_lists (store : Store) (value : Atom) {node : Handle}
    (listed : (atom value store).2.Lists node) :
    store.Lists node ∨ node = .atom ⟨store.next, value⟩ := by
  unfold atom at listed
  cases found : store.findAtom? value with
  | some shared =>
    rw [found] at listed
    exact Or.inl ((Shrunk.retain store shared.id).subset node listed)
  | none =>
    rw [found] at listed
    cases node with
    | rule rule => exact Or.inl listed
    | atom shared =>
      rw [lists_atom, Std.HashMap.getElem?_insert] at listed
      split at listed
      · exact Or.inr (by rw [← Option.some.inj listed])
      · exact Or.inl listed

theorem atom_later (store : Store) (value : Atom) : Later store (atom value store).2 := by
  constructor
  · unfold atom
    cases store.findAtom? value with
    | some shared => exact Nat.le_refl _
    | none => exact Nat.le_succ _
  · intro node listed
    rcases atom_lists store value listed with old | rfl
    · exact Or.inl old
    · exact Or.inr (Nat.le_refl _)

theorem Balanced.atom (balanced : Balanced store held) (value : Atom) :
    Balanced (Store.atom value store).2 (.atom (Store.atom value store).1 :: held) := by
  obtain ⟨nodes, ledger⟩ := balanced
  rw [Store.atom, ledger.findAtom?_eq]
  cases found : store.atoms[value]? with
  | some shared =>
    have member : .atom shared ∈ nodes := ((ledger.atom_iff _ _).1 found).1
    exact ⟨nodes, ledger.retain member⟩
  | none =>
    refine ⟨.atom ⟨store.next, value⟩ :: nodes,
      ledger.insert rfl trivial rfl (ledger.count_fresh rfl) (by simp) ?_⟩
    intro other shared
    rw [getElem?_insert_iff found, Handle.atom.injEq]
    apply or_congr_right
    apply and_congr_right
    rintro rfl
    exact Iff.rfl

end Sharing

end Store

namespace Rule

theorem mem_of_mem_merge {rule : Rule} (left right : List Rule) (member : rule ∈ merge left right) :
    rule ∈ left ∨ rule ∈ right := by
  induction left, right using merge.induct with
  | case1 right => exact Or.inr (by simpa [merge] using member)
  | case2 left => exact Or.inl (by simpa [merge] using member)
  | case3 a left b right less ih =>
    rw [merge, if_pos less, List.mem_cons] at member
    rcases member with rfl | member
    · exact Or.inl List.mem_cons_self
    · exact (ih member).imp_left (List.mem_cons_of_mem a)
  | case4 a left b right notLess less ih =>
    rw [merge, if_neg notLess, if_pos less, List.mem_cons] at member
    rcases member with rfl | member
    · exact Or.inr List.mem_cons_self
    · exact (ih member).imp_right (List.mem_cons_of_mem b)
  | case5 a left b right notLess notGreater ih =>
    rw [merge, if_neg notLess, if_neg notGreater, List.mem_cons] at member
    rcases member with rfl | member
    · exact Or.inl List.mem_cons_self
    · exact (ih member).imp (List.mem_cons_of_mem a) (List.mem_cons_of_mem b)

/-- Merging loses no rule, if rules of one number are one rule. -/
theorem mem_merge_iff {rule : Rule} {left right : List Rule}
    (unique : ∀ a ∈ left, ∀ b ∈ right, a.id = b.id → a = b) :
    rule ∈ merge left right ↔ rule ∈ left ∨ rule ∈ right := by
  refine ⟨mem_of_mem_merge left right, ?_⟩
  intro member
  induction left, right using merge.induct with
  | case1 right => simpa [merge] using member
  | case2 left => simpa [merge] using member
  | case3 a left b right less ih =>
    rw [merge, if_pos less, List.mem_cons]
    have rest := ih fun c inLeft => unique c (List.mem_cons_of_mem a inLeft)
    simp only [List.mem_cons] at member rest ⊢
    tauto
  | case4 a left b right notLess less ih =>
    rw [merge, if_neg notLess, if_pos less, List.mem_cons]
    have rest := ih fun c inLeft d inRight => unique c inLeft d (List.mem_cons_of_mem b inRight)
    simp only [List.mem_cons] at member rest ⊢
    tauto
  | case5 a left b right notLess notGreater ih =>
    rw [merge, if_neg notLess, if_neg notGreater, List.mem_cons]
    have same : a = b := unique a List.mem_cons_self b List.mem_cons_self (by omega)
    subst same
    have rest := ih fun c inLeft d inRight =>
      unique c (List.mem_cons_of_mem a inLeft) d (List.mem_cons_of_mem a inRight)
    simp only [List.mem_cons] at member rest ⊢
    tauto

theorem merge_ascending {left right : List Rule} (first : left.Pairwise (·.id < ·.id))
    (second : right.Pairwise (·.id < ·.id)) : (merge left right).Pairwise (·.id < ·.id) := by
  induction left, right using merge.induct with
  | case1 right => simpa [merge] using second
  | case2 left => simpa [merge] using first
  | case3 a left b right less ih =>
    rw [merge, if_pos less]
    rw [List.pairwise_cons] at first ⊢
    refine ⟨?_, ih first.2 second⟩
    intro rule member
    rcases mem_of_mem_merge _ _ member with inLeft | inRight
    · exact first.1 rule inLeft
    · rcases List.mem_cons.1 inRight with rfl | inRight
      · exact less
      · exact Nat.lt_trans less ((List.pairwise_cons.1 second).1 rule inRight)
  | case4 a left b right notLess less ih =>
    rw [merge, if_neg notLess, if_pos less]
    rw [List.pairwise_cons] at second ⊢
    refine ⟨?_, ih first second.2⟩
    intro rule member
    rcases mem_of_mem_merge _ _ member with inLeft | inRight
    · rcases List.mem_cons.1 inLeft with rfl | inLeft
      · exact less
      · exact Nat.lt_trans less ((List.pairwise_cons.1 first).1 rule inLeft)
    · exact second.1 rule inRight
  | case5 a left b right notLess notGreater ih =>
    rw [merge, if_neg notLess, if_neg notGreater]
    rw [List.pairwise_cons] at first second ⊢
    have same : a.id = b.id := by omega
    refine ⟨?_, ih first.2 second.2⟩
    intro rule member
    rcases mem_of_mem_merge _ _ member with inLeft | inRight
    · exact first.1 rule inLeft
    · rw [same]
      exact second.1 rule inRight

/-- Ascending lists of the same rules are the same list. -/
theorem ascending_ext {left right : List Rule} (first : left.Pairwise (·.id < ·.id))
    (second : right.Pairwise (·.id < ·.id)) (same : ∀ rule, rule ∈ left ↔ rule ∈ right) :
    left = right := by
  have once {list : List Rule} (ascending : list.Pairwise (·.id < ·.id)) : list.Nodup :=
    ascending.imp fun {a b} less (equal : a = b) => Nat.ne_of_lt less (congrArg id equal)
  refine List.Perm.eq_of_pairwise ?_ first second
    ((List.perm_ext_iff_of_nodup (once first) (once second)).2 same)
  intro a b _ _ less more
  exact absurd (Nat.lt_trans less more) (Nat.lt_irrefl _)

/-- What a flat rule contributes to a junction is ascending, and none of it is of the junction's kind. -/
theorem operandsOf_flat (kind : Junction) {rule : Rule} (flat : rule.Flat) :
    rule.operandsOf kind ≠ [] ∧ (rule.operandsOf kind).Pairwise (·.id < ·.id) ∧
      ∀ operand ∈ rule.operandsOf kind, operand.isJunction kind = false := by
  cases rule with
  | junction id other operands =>
    obtain ⟨many, ascending, kinds⟩ := flat
    by_cases same : other = kind
    · subst same
      rw [operandsOf, if_pos rfl]
      refine ⟨?_, ascending, kinds⟩
      rintro rfl
      simp at many
    · simp [operandsOf, same, isJunction]
  | anything | test | fuzzy | no => simp [operandsOf, isJunction]

/-- What a rule contributes are the rule itself or its operands. -/
theorem mem_operandsOf {kind : Junction} {rule operand : Rule} (member : operand ∈ rule.operandsOf kind) :
    operand = rule ∨ .rule operand ∈ rule.parts := by
  cases rule with
  | junction id other operands =>
    by_cases same : other = kind
    · rw [operandsOf, if_pos same] at member
      exact Or.inr (by simpa [parts, Rule.atom?, Rule.operands] using member)
    · rw [operandsOf, if_neg same] at member
      exact Or.inl (List.mem_singleton.1 member)
  | anything | test | fuzzy | no => exact Or.inl (List.mem_singleton.1 member)

end Rule

namespace Store

namespace Ledger

variable {store : Store} {held nodes : List Handle}

theorem operandsOf_mem (ledger : Ledger store held nodes) {kind : Junction} {rule operand : Rule}
    (known : .rule rule ∈ nodes) (member : operand ∈ rule.operandsOf kind) :
    .rule operand ∈ nodes := by
  rcases Rule.mem_operandsOf member with rfl | inside
  · exact known
  · exact ledger.part_mem known inside

/-- The operands of a junction: what its rules contribute, each once and in the order of the numbers. -/
theorem junctionOperands_spec (ledger : Ledger store held nodes) (kind : Junction) {rules : List Rule}
    (known : ∀ rule ∈ rules, .rule rule ∈ nodes) :
    (∀ operand, operand ∈ Rule.junctionOperands kind rules ↔
        ∃ rule ∈ rules, operand ∈ rule.operandsOf kind) ∧
      (Rule.junctionOperands kind rules).Pairwise (·.id < ·.id) := by
  suffices general : ∀ done : List Rule, (∀ rule ∈ done, .rule rule ∈ nodes) →
      done.Pairwise (·.id < ·.id) →
      (∀ operand, operand ∈ rules.foldl
        (fun done rule => Rule.merge done (rule.operandsOf kind)) done ↔
          operand ∈ done ∨ ∃ rule ∈ rules, operand ∈ rule.operandsOf kind) ∧
        (rules.foldl (fun done rule => Rule.merge done (rule.operandsOf kind)) done).Pairwise
          (·.id < ·.id) by
    simpa [Rule.junctionOperands] using general [] (by simp) List.Pairwise.nil
  induction rules with
  | nil =>
    intro done _ ascending
    simpa using ascending
  | cons rule rest ih =>
    intro done doneKnown ascending
    have ruleKnown := known rule List.mem_cons_self
    have contributed : ∀ operand ∈ rule.operandsOf kind, .rule operand ∈ nodes :=
      fun operand => ledger.operandsOf_mem ruleKnown
    have flat := Rule.operandsOf_flat kind (ledger.flat _ ruleKnown)
    have merged (operand : Rule) : operand ∈ Rule.merge done (rule.operandsOf kind) ↔
        operand ∈ done ∨ operand ∈ rule.operandsOf kind :=
      Rule.mem_merge_iff fun a inDone b inRule =>
        ledger.rule_unique (doneKnown a inDone) (contributed b inRule)
    obtain ⟨members, sorted⟩ := ih (fun other inside => known other (List.mem_cons_of_mem _ inside))
      (Rule.merge done (rule.operandsOf kind))
      (fun operand inside => ((merged operand).1 inside).elim (doneKnown operand) (contributed operand))
      (Rule.merge_ascending ascending flat.2.1)
    refine ⟨?_, sorted⟩
    intro operand
    rw [List.foldl_cons, members, merged, List.exists_mem_cons_iff, or_assoc]

end Ledger

section Constructors

variable {store : Store} {held : List Handle}

theorem intern_anything {candidate : Rule} (other : candidate.shape ≠ .anything) {id : Nat}
    (listed : (store.intern candidate).2.Lists (.rule (.anything id))) :
    store.Lists (.rule (.anything id)) := by
  rcases intern_lists store candidate listed with old | same
  · exact old
  · rw [Handle.rule.injEq] at same
    exact absurd (same ▸ rfl) other

/-- The store keeps a handle of its own on the rule that it makes when first asked. -/
theorem Balanced.anything_new (balanced : Balanced store held)
    (absent : store.rules[Shape.anything]? = none) :
    (anything store).1 = .anything store.next ∧
      Balanced (anything store).2 (.rule (.anything store.next) ::
        .rule (.anything store.next) :: held) := by
  obtain ⟨nodes, ledger⟩ := balanced
  have interned : Balanced (store.intern (.anything store.next)).2
      (.rule (store.intern (.anything store.next)).1 :: held) :=
    Balanced.intern ⟨nodes, ledger⟩ rfl trivial
  have same : (store.intern (.anything store.next)).1 = .anything store.next := by
    rw [Store.intern, ledger.findRule?_eq, Rule.shape, absent]
  rw [same] at interned
  have missing : store.findRule? .anything = none := by rw [ledger.findRule?_eq, absent]
  rw [anything, missing]
  rw [show store.intern (.anything store.next) = (.anything store.next, _) from Prod.ext same rfl]
  exact ⟨rfl, interned.clone (interned.lists_held List.mem_cons_self)⟩

theorem Balanced.anything_known (balanced : Balanced store held) {rule : Rule}
    (listed : store.rules[Shape.anything]? = some rule) :
    (anything store).1 = rule ∧ Balanced (anything store).2 (.rule rule :: held) := by
  obtain ⟨nodes, ledger⟩ := balanced
  have found : store.findRule? .anything = some rule := by rw [ledger.findRule?_eq, listed]
  rw [anything, found]
  exact ⟨rfl, nodes, ledger.retain ((ledger.rule_iff _ _).1 listed).1⟩

theorem Balanced.anything_eq (balanced : Balanced store held) :
    ∃ id, (Store.anything store).1 = .anything id := by
  cases listed : store.rules[Shape.anything]? with
  | none => exact ⟨_, (balanced.anything_new listed).1⟩
  | some rule =>
    obtain ⟨same, -⟩ := balanced.anything_known listed
    obtain ⟨nodes, ledger⟩ := balanced
    have shaped := ((ledger.rule_iff _ _).1 listed).2
    rw [same]
    cases rule with
    | anything id => exact ⟨id, rfl⟩
    | test | fuzzy | no | junction => simp [Rule.shape] at shaped

theorem anything_later (store : Store) : Later store (anything store).2 := by
  unfold anything
  cases store.findRule? .anything with
  | some rule => exact (Shrunk.retain store rule.id).later
  | none => exact (intern_later rfl).trans (Shrunk.retain _ _).later

theorem Balanced.test {sense : Sense} {key : Option String} {atom : Option SharedAtom}
    (balanced : Balanced store (atom.toList.map .atom ++ held)) :
    Balanced (Store.test sense key atom store).2 (.rule (Store.test sense key atom store).1 :: held) := by
  refine Balanced.intern ?_ rfl trivial
  simpa using balanced

theorem Balanced.fuzzy {atom : SharedAtom} (balanced : Balanced store (.atom atom :: held)) :
    Balanced (Store.fuzzy atom store).2 (.rule (Store.fuzzy atom store).1 :: held) := by
  refine Balanced.intern ?_ rfl trivial
  simpa using balanced

theorem Balanced.no {operand : Rule} (balanced : Balanced store (.rule operand :: held)) :
    Balanced (Store.no operand store).2 (.rule (Store.no operand store).1 :: held) := by
  refine Balanced.intern ?_ rfl trivial
  simpa using balanced

/-- The store in which a junction of the rules is looked for. -/
def readied (store : Store) (kind : Junction) (rules : List Rule) : Store :=
  (store.cloneAll ((Rule.junctionOperands kind rules).map .rule)).dropRules rules

theorem Balanced.readied {rules : List Rule} (kind : Junction)
    (balanced : Balanced store (rules.map .rule ++ held)) :
    Balanced (store.readied kind rules) ((Rule.junctionOperands kind rules).map .rule ++ held) := by
  obtain ⟨nodes, ledger⟩ := balanced
  have known := ledger.rules_mem
  have listed : ∀ handle ∈ (Rule.junctionOperands kind rules).map .rule, store.Lists handle := by
    intro handle inside
    obtain ⟨operand, member, rfl⟩ := List.mem_map.1 inside
    obtain ⟨rule, inRules, contributed⟩ :=
      ((ledger.junctionOperands_spec kind known).1 operand).1 member
    exact (ledger.lists_iff _).2 (ledger.operandsOf_mem (known rule inRules) contributed)
  have cloned := Balanced.cloneAll ⟨nodes, ledger⟩ listed
  exact dropRules rules (cloned.permute (List.perm_append_comm_assoc _ _ _))

theorem readied_shrunk (store : Store) (kind : Junction) (rules : List Rule) :
    Shrunk store (store.readied kind rules) :=
  (Shrunk.cloneAll _ _).trans (Shrunk.dropRules _ _)

/-- With a single operand left the junction is that operand. -/
theorem junction_single {kind : Junction} {rules : List Rule} {only : Rule}
    (single : Rule.junctionOperands kind rules = [only]) :
    junction kind rules store = (only, store.readied kind rules) := by
  unfold junction readied
  simp only [single]

/-- With several operands left the junction is looked for by them. -/
theorem junction_many {kind : Junction} {rules : List Rule}
    (many : ∀ only, Rule.junctionOperands kind rules ≠ [only]) :
    junction kind rules store = (store.readied kind rules).intern
      (.junction (store.readied kind rules).next kind (Rule.junctionOperands kind rules)) := by
  unfold junction readied
  dsimp only
  split
  · rename_i only single
    exact absurd single (many only)
  · rfl

theorem readied_later (store : Store) (kind : Junction) (rules : List Rule) :
    Later store (store.readied kind rules) :=
  (readied_shrunk store kind rules).later

theorem junction_later (store : Store) (kind : Junction) (rules : List Rule) :
    Later store (junction kind rules store).2 := by
  by_cases single : ∃ only, Rule.junctionOperands kind rules = [only]
  · obtain ⟨only, single⟩ := single
    rw [junction_single single]
    exact readied_later store kind rules
  · rw [junction_many (not_exists.1 single)]
    exact (readied_later store kind rules).trans (intern_later rfl)

theorem junction_anything {kind : Junction} {rules : List Rule} {id : Nat}
    (listed : (junction kind rules store).2.Lists (.rule (.anything id))) :
    store.Lists (.rule (.anything id)) := by
  by_cases single : ∃ only, Rule.junctionOperands kind rules = [only]
  · obtain ⟨only, single⟩ := single
    rw [junction_single single] at listed
    exact (readied_shrunk store kind rules).subset _ listed
  · rw [junction_many (not_exists.1 single)] at listed
    exact (readied_shrunk store kind rules).subset _ (intern_anything (by simp [Rule.shape]) listed)

/-- Some rule contributes, so there are operands. -/
theorem Balanced.junctionOperands_ne_nil (kind : Junction) {rules : List Rule} (some : rules ≠ [])
    (balanced : Balanced store (rules.map .rule ++ held)) :
    Rule.junctionOperands kind rules ≠ [] := by
  obtain ⟨nodes, ledger⟩ := balanced
  have known := ledger.rules_mem
  obtain ⟨rule, inside⟩ := List.exists_mem_of_ne_nil rules some
  obtain ⟨operand, contributed⟩ := List.exists_mem_of_ne_nil _
    (Rule.operandsOf_flat kind (ledger.flat _ (known rule inside))).1
  exact List.ne_nil_of_mem
    (((ledger.junctionOperands_spec kind known).1 operand).2 ⟨rule, inside, contributed⟩)

/-- The operands of a junction that has several are those of a flat rule. -/
theorem Balanced.junctionOperands_flat {kind : Junction} {rules : List Rule} (some : rules ≠ [])
    (balanced : Balanced store (rules.map .rule ++ held))
    (many : ∀ only, Rule.junctionOperands kind rules ≠ [only]) (id : Nat) :
    (Rule.junction id kind (Rule.junctionOperands kind rules)).Flat := by
  have present := balanced.junctionOperands_ne_nil kind some
  obtain ⟨nodes, ledger⟩ := balanced
  have known := ledger.rules_mem
  obtain ⟨members, ascending⟩ := ledger.junctionOperands_spec kind known
  refine ⟨?_, ascending, ?_⟩
  · cases operands : Rule.junctionOperands kind rules with
    | nil => exact absurd operands present
    | cons first rest =>
      cases rest with
      | nil => exact absurd operands (many first)
      | cons second rest => simp
  · intro operand inside
    obtain ⟨rule, inRules, contributed⟩ := (members operand).1 inside
    exact (Rule.operandsOf_flat kind (ledger.flat _ (known rule inRules))).2.2 operand contributed

theorem Balanced.junction {kind : Junction} {rules : List Rule} (some : rules ≠ [])
    (balanced : Balanced store (rules.map .rule ++ held)) :
    Balanced (Store.junction kind rules store).2
      (.rule (Store.junction kind rules store).1 :: held) := by
  have ready := balanced.readied kind
  by_cases single : ∃ only, Rule.junctionOperands kind rules = [only]
  · obtain ⟨only, single⟩ := single
    rw [junction_single single]
    simpa [single] using ready
  · have many := not_exists.1 single
    rw [junction_many many]
    refine Balanced.intern ?_ rfl (balanced.junctionOperands_flat some many _)
    simpa using ready

/-- The result has the operands of the junction, or is the only one of them. -/
theorem Balanced.junction_result (kind : Junction) {rules : List Rule} (some : rules ≠ [])
    (balanced : Balanced store (rules.map .rule ++ held)) :
    Rule.junctionOperands kind rules = [(Store.junction kind rules store).1] ∨
      ∃ id, (Store.junction kind rules store).1 =
          .junction id kind (Rule.junctionOperands kind rules) ∧
        2 ≤ (Rule.junctionOperands kind rules).length := by
  by_cases single : ∃ only, Rule.junctionOperands kind rules = [only]
  · obtain ⟨only, single⟩ := single
    rw [junction_single single]
    exact Or.inl single
  · have many := not_exists.1 single
    rw [junction_many many]
    have ready : Balanced (store.readied kind rules) ((Rule.junction (store.readied kind rules).next kind
        (Rule.junctionOperands kind rules)).parts ++ held) := by
      simpa using balanced.readied kind
    obtain ⟨id, made⟩ := intern_renumber _ ready
    exact Or.inr ⟨id, made, (balanced.junctionOperands_flat some many id).1⟩

end Constructors

end Store

end EventRouting
