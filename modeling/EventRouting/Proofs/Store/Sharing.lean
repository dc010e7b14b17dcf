import EventRouting.Proofs.Store.Workspace

set_option autoImplicit false

namespace EventRouting

/-- Builds a rule anew from handles on its parts. -/
def Rule.rebuild : Rule → Build Rule
  | anything _ => Store.anything
  | test _ sense key atom => Store.test sense key atom
  | fuzzy _ atom => Store.fuzzy atom
  | no _ operand => Store.no operand
  | junction _ kind operands => Store.junction kind operands

namespace Store

variable {store : Store} {held : List Handle}

/-- A flat junction contributes its operands to a junction of its kind, and they contribute themselves. -/
theorem Balanced.junctionOperands_known {id : Nat} {kind : Junction} {operands : List Rule}
    (balanced : Balanced store held) (listed : store.Lists (.rule (.junction id kind operands))) :
    Rule.junctionOperands kind operands = operands := by
  obtain ⟨nodes, ledger⟩ := balanced
  have member := (ledger.lists_iff _).1 listed
  obtain ⟨-, ascending, kinds⟩ := ledger.flat _ member
  have known := ledger.operands_mem member
  have alone : ∀ operand ∈ operands, operand.operandsOf kind = [operand] := by
    intro operand inside
    have other := kinds operand inside
    cases operand <;> simp_all [Rule.operandsOf, Rule.isJunction]
  obtain ⟨members, sorted⟩ := ledger.junctionOperands_spec kind known
  apply Rule.ascending_ext sorted ascending
  intro operand
  rw [members]
  constructor
  · rintro ⟨rule, inside, contributed⟩
    rw [alone rule inside, List.mem_singleton] at contributed
    exact contributed ▸ inside
  · intro inside
    exact ⟨operand, inside, by simp [alone operand inside]⟩

/-- Building a listed rule again gives that rule. -/
theorem Balanced.rebuild_known {rule : Rule} (balanced : Balanced store held)
    (listed : store.Lists (.rule rule)) : (rule.rebuild (store.cloneAll rule.parts)).1 = rule := by
  have parts : ∀ part ∈ rule.parts, store.Lists part := fun part inside =>
    (balanced.lists_iff part).2 (.part ((balanced.lists_iff _).1 listed) inside)
  have cloned := balanced.cloneAll parts
  have found : (store.cloneAll rule.parts).rules[rule.shape]? = some rule := by
    rw [cloneAll_rules]
    exact listed
  cases rule with
  | anything => exact (cloned.anything_known found).1
  | test | fuzzy | no => exact intern_known cloned found
  | junction id kind operands =>
    have same := cloned.junctionOperands_known
      (show Lists _ (.rule (.junction id kind operands)) from found)
    have flat : 2 ≤ operands.length := by
      obtain ⟨nodes, ledger⟩ := balanced
      exact (ledger.flat _ ((ledger.lists_iff _).1 listed)).1
    have many : ∀ only, Rule.junctionOperands kind operands ≠ [only] := by
      intro only single
      rw [same] at single
      rw [single] at flat
      simp at flat
    rw [Rule.parts_junction] at cloned ⊢
    have ready := cloned.readied kind
    rw [same] at ready
    rw [Rule.rebuild, junction_many many, same]
    apply intern_known ready
    apply (ready.lists_iff (.rule (.junction id kind operands))).2
    exact ((balanced.lists_iff _).1 listed).mono (List.subset_append_right _ _)

end Store

namespace Workspace

/-- The tables list what can be got at and nothing else, and equal parts are one part. -/
structure Shared (work : Workspace) : Prop where
  rules_unique : ∀ left right, work.Live (.rule left) → work.Live (.rule right) →
    left.shape = right.shape → left = right
  atoms_unique : ∀ left right, work.Live (.atom left) → work.Live (.atom right) →
    left.atom = right.atom → left = right
  rule_again : ∀ rule, work.Live (.rule rule) →
    (rule.rebuild (work.store.cloneAll rule.parts)).1 = rule
  atom_again : ∀ shared, work.Live (.atom shared) → (Store.atom shared.atom work.store).1 = shared
  rule_listed : ∀ shape rule,
    work.store.rules[shape]? = some rule ↔ work.Live (.rule rule) ∧ rule.shape = shape
  atom_listed : ∀ atom shared,
    work.store.atoms[atom]? = some shared ↔ work.Live (.atom shared) ∧ shared.atom = atom
  dropped : ∀ holding rest, work.held.Perm (holding :: rest) → ∀ node,
    (work.store.drop holding.handle).Lists node ↔ work.store.Lists node ∧
      Handle.Reachable (work.kept.toList.map .rule ++ rest.map Holding.handle) node
  parts_below : ∀ node part, work.Live node → part ∈ node.parts → part.id < node.id

theorem Sound.shared {work : Workspace} (sound : work.Sound) : work.Shared := by
  obtain ⟨nodes, ledger⟩ := sound.balanced
  have live (node : Handle) : work.Live node ↔ node ∈ nodes := (ledger.mem_iff_reachable node).symm
  refine ⟨?_, ?_, ?_, ?_, ?_, ?_, ?_, ?_⟩
  · intro left right inLeft inRight
    exact ledger.shape_unique ((live _).1 inLeft) ((live _).1 inRight)
  · intro left right inLeft inRight
    exact ledger.value_unique ((live _).1 inLeft) ((live _).1 inRight)
  · intro rule known
    exact sound.balanced.rebuild_known ((sound.live_iff _).2 known)
  · intro shared known
    exact Store.atom_known sound.balanced ((sound.live_iff _).2 known)
  · intro shape rule
    rw [ledger.rule_iff, live]
  · intro atom shared
    rw [ledger.atom_iff, live]
  · intro holding rest taken node
    have after := (sound.drop taken).live_iff node
    constructor
    · intro listed
      exact ⟨(Store.Shrunk.drop _ _).subset node listed, after.1 listed⟩
    · rintro ⟨-, known⟩
      exact after.2 known
  · intro node part known inside
    exact ledger.parts_below node ((live node).1 known) part inside

/-- A part found later is the one that had its number, or has a number above all that were given. -/
theorem Run.numbers {past now : Workspace} (run : Run past now) (sound : past.Sound) {old new : Handle}
    (before : past.Live old) (after : now.Live new) (same : old.id = new.id) : old = new := by
  rcases run.later.fresh new (((run.sound sound).live_iff new).2 after) with listed | fresh
  · obtain ⟨nodes, ledger⟩ := sound.balanced
    exact ledger.unique ((ledger.mem_iff_reachable _).2 before) ((ledger.lists_iff _).1 listed) same
  · obtain ⟨nodes, ledger⟩ := sound.balanced
    have below := ledger.below old ((ledger.mem_iff_reachable _).2 before)
    omega

/-- A part that was gone in between has a number above all earlier ones. -/
theorem Run.renewed {past middle now : Workspace} (early : Run past middle) (late : Run middle now)
    (sound : past.Sound) {old new : Handle} (before : past.Live old) (after : now.Live new)
    (gone : ¬middle.Live new) : old.id < new.id := by
  have soundMiddle := early.sound sound
  rcases late.later.fresh new (((late.sound soundMiddle).live_iff new).2 after) with listed | fresh
  · exact absurd ((soundMiddle.live_iff new).1 listed) gone
  · obtain ⟨nodes, ledger⟩ := sound.balanced
    have below := ledger.below old ((ledger.mem_iff_reachable _).2 before)
    have grown := early.later.next_le
    omega

/-- Along every run the parts in use are shared, numbers are never given again, and building any
expression, as reading a text or decoding a value does, only continues the run. -/
theorem run_shares {past middle now : Workspace} (first : Run start past) (early : Run past middle)
    (late : Run middle now) :
    now.Shared ∧
      (∀ old new, past.Live old → now.Live new → old.id = new.id → old = new) ∧
      (∀ old new, past.Live old → now.Live new → ¬middle.Live new → old.id < new.id) ∧
      ∀ expression, ∃ kept, Run now ⟨(expression.build now.store).2, kept,
        .rule (expression.build now.store).1 expression :: now.held⟩ := by
  have soundPast := first.sound start_sound
  have soundNow := late.sound (early.sound soundPast)
  refine ⟨soundNow.shared, ?_, ?_, soundNow.build_runs⟩
  · intro old new
    exact Run.numbers (early.trans late) soundPast
  · intro old new
    exact early.renewed late soundPast

/-- An atom that was dropped and asked for again is a new one. -/
theorem run_shares_renewed :
    let first := (Store.atom (.string "a") start.store).1
    let dropped := Store.drop (Store.atom (.string "a") start.store).2 (.atom first)
    first.id < (Store.atom (.string "a") dropped).1.id := by
  intro first dropped
  have early : Run (start.withAtom (.string "a")) ⟨dropped, none, []⟩ :=
    .single (@Step.drop (start.withAtom (.string "a")) (.atom first) [] (List.Perm.refl _))
  have again : Run ⟨dropped, none, []⟩ (withAtom ⟨dropped, none, []⟩ (.string "a")) :=
    .single (.atom _ _)
  refine (run_shares (.single (.atom _ _)) early again).2.2.1 (.atom first) (.atom _)
    (.root ?_) (.root ?_) ?_
  · exact List.mem_cons_self
  · exact List.mem_cons_self
  · exact Handle.not_reachable_nil _

end Workspace

end EventRouting
