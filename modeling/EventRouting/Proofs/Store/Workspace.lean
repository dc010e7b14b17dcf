import EventRouting.Proofs.Store.Building
import Mathlib.Logic.Relation

set_option autoImplicit false

namespace EventRouting

/-- What a program holds: a handle, on a rule with the expression it was asked for with. -/
inductive Holding where
  | atom (shared : SharedAtom)
  | rule (rule : Rule) (origin : Expression)

namespace Holding

def handle : Holding → Handle
  | atom shared => .atom shared
  | rule held _ => .rule held

/-- A handle on a part of a rule, which was never asked for by itself. -/
def onPart : Handle → Holding
  | .atom shared => atom shared
  | .rule part => rule part part.expression

@[simp] theorem handle_atom (shared : SharedAtom) : (atom shared).handle = .atom shared := rfl

@[simp] theorem handle_rule (held : Rule) (origin : Expression) :
    (rule held origin).handle = .rule held := rfl

@[simp] theorem handle_onPart (part : Handle) : (onPart part).handle = part := by
  cases part <;> rfl

end Holding

/-- A store, the handle that it keeps on the rule matching everything, and what is held by others. -/
structure Workspace where
  store : Store
  kept : Option Rule
  held : List Holding

namespace Workspace

def start : Workspace := ⟨.empty, none, []⟩

/-- All handles from outside the tables. -/
def roots (work : Workspace) : List Handle :=
  work.kept.toList.map .rule ++ work.held.map Holding.handle

/-- After a constructor took its arguments and left `rest`. -/
def gain (work : Workspace) (rest : List Holding) (construct : Build Rule) (origin : Expression) :
    Workspace :=
  ⟨(construct work.store).2, work.kept, .rule (construct work.store).1 origin :: rest⟩

/-- After an atom was asked for. -/
def withAtom (work : Workspace) (value : Atom) : Workspace :=
  ⟨(Store.atom value work.store).2, work.kept, .atom (Store.atom value work.store).1 :: work.held⟩

/-- The parts that can be got at from outside. -/
def Live (work : Workspace) : Handle → Prop := Handle.Reachable work.roots

/-- Constructors take over the handles they are given, wherever these are stored. -/
inductive Step : Workspace → Workspace → Prop where
  | atom (work : Workspace) (value : Atom) : Step work (work.withAtom value)
  | anything (work : Workspace) :
    Step work ⟨(Store.anything work.store).2, work.kept <|> some (Store.anything work.store).1,
      .rule (Store.anything work.store).1 .anything :: work.held⟩
  | test {work : Workspace} {rest : List Holding} (sense : Sense) (key : Option String)
    (atom : Option SharedAtom) (taken : work.held.Perm (atom.toList.map .atom ++ rest)) :
    Step work (work.gain rest (Store.test sense key atom)
      (.test sense key (atom.map SharedAtom.atom)))
  | fuzzy {work : Workspace} {rest : List Holding} (atom : SharedAtom)
    (taken : work.held.Perm (.atom atom :: rest)) :
    Step work (work.gain rest (Store.fuzzy atom) (.fuzzy atom.atom))
  | no {work : Workspace} {rest : List Holding} (operand : Rule) (origin : Expression)
    (taken : work.held.Perm (.rule operand origin :: rest)) :
    Step work (work.gain rest (Store.no operand) (.no origin))
  | junction {work : Workspace} {rest : List Holding} (kind : Junction) (first : Rule × Expression)
    (others : List (Rule × Expression))
    (taken : work.held.Perm ((first :: others).map (fun given => .rule given.1 given.2) ++ rest)) :
    Step work (work.gain rest (Store.junction kind ((first :: others).map Prod.fst))
      (.junction kind first.2 (others.map Prod.snd)))
  | clone {work : Workspace} {holding : Holding} (member : holding ∈ work.held) :
    Step work ⟨work.store.clone holding.handle, work.kept, holding :: work.held⟩
  | clonePart {work : Workspace} {part : Handle} (live : work.Live part) :
    Step work ⟨work.store.clone part, work.kept, Holding.onPart part :: work.held⟩
  | drop {work : Workspace} {holding : Holding} {rest : List Holding}
    (taken : work.held.Perm (holding :: rest)) :
    Step work ⟨work.store.drop holding.handle, work.kept, rest⟩

/-- Any number of steps. -/
abbrev Run : Workspace → Workspace → Prop := Relation.ReflTransGen Step

/-- The books balance, and the kept handle is the one on the rule matching everything, if there is one. -/
structure Sound (work : Workspace) : Prop where
  balanced : work.store.Balanced work.roots
  kept_iff : ∀ rule, work.store.rules[Shape.anything]? = some rule ↔ work.kept = some rule

theorem Sound.live_iff {work : Workspace} (sound : work.Sound) (node : Handle) :
    work.store.Lists node ↔ work.Live node :=
  sound.balanced.lists_iff node

theorem start_sound : start.Sound where
  balanced := by
    refine ⟨[], ?_, ?_, ?_, ?_, ?_, ?_, ?_, ?_⟩ <;>
      simp [start, Store.empty, Store.count, Store.tokens, roots]
  kept_iff := by simp [start, Store.empty]

/-- Constructors other than that of the rule matching everything leave it alone. -/
theorem Sound.of_balanced {before after : Workspace} (sound : before.Sound)
    (kept : after.kept = before.kept) (balanced : after.store.Balanced after.roots)
    (anything : ∀ id, after.store.Lists (.rule (.anything id)) →
      before.store.Lists (.rule (.anything id))) : after.Sound := by
  refine ⟨balanced, fun rule => ⟨fun found => ?_, fun same => ?_⟩⟩
  · obtain ⟨nodes, ledger⟩ := balanced
    have shaped := ((ledger.rule_iff _ _).1 found).2
    cases rule with
    | anything id =>
      rw [kept]
      exact (sound.kept_iff _).1 (anything id found)
    | test | fuzzy | no | junction => simp [Rule.shape] at shaped
  · have listed : after.store.Lists (.rule rule) :=
      balanced.lists_held (List.mem_append_left _ (by simp [same]))
    obtain ⟨nodes, ledger⟩ := sound.balanced
    have shaped := ((ledger.rule_iff _ _).1 ((sound.kept_iff rule).2 (kept ▸ same))).2
    rwa [← shaped]

/-- The handles that a constructor takes over are there to be taken. -/
theorem Sound.taken {work : Workspace} (sound : work.Sound) {taken rest : List Holding}
    (given : work.held.Perm (taken ++ rest)) :
    work.store.Balanced (taken.map Holding.handle ++
      (work.kept.toList.map .rule ++ rest.map Holding.handle)) := by
  refine sound.balanced.permute (((given.map Holding.handle).append_left _).trans ?_)
  rw [List.map_append]
  exact List.perm_append_comm_assoc _ _ _

/-- A constructor that balances the books, given the handles it takes over. -/
theorem Sound.gain {work : Workspace} (sound : work.Sound) (taken : List Holding) {rest : List Holding}
    {construct : Build Rule} {origin : Expression} (given : work.held.Perm (taken ++ rest))
    (balanced : ∀ others, work.store.Balanced (taken.map Holding.handle ++ others) →
      (construct work.store).2.Balanced (.rule (construct work.store).1 :: others))
    (anything : ∀ id, (construct work.store).2.Lists (.rule (.anything id)) →
      work.store.Lists (.rule (.anything id))) : (work.gain rest construct origin).Sound := by
  refine sound.of_balanced rfl ?_ anything
  exact (balanced _ (sound.taken given)).permute List.perm_middle.symm

theorem Sound.clone {work : Workspace} (sound : work.Sound) {holding : Holding}
    (live : work.Live holding.handle) :
    Sound ⟨work.store.clone holding.handle, work.kept, holding :: work.held⟩ := by
  refine sound.of_balanced rfl ?_ fun id => (Store.Shrunk.retain _ _).subset _
  apply (sound.balanced.clone ((sound.live_iff _).2 live)).permute
  exact List.perm_middle.symm

theorem Sound.drop {work : Workspace} (sound : work.Sound) {holding : Holding} {rest : List Holding}
    (taken : work.held.Perm (holding :: rest)) :
    Sound ⟨work.store.drop holding.handle, work.kept, rest⟩ := by
  refine sound.of_balanced rfl ?_ fun id => (Store.Shrunk.drop _ _).subset _
  refine Store.Balanced.drop (sound.balanced.permute ?_)
  apply ((taken.map Holding.handle).append_left _).trans
  exact List.perm_middle

theorem Sound.anything {work : Workspace} (sound : work.Sound) :
    Sound ⟨(Store.anything work.store).2, work.kept <|> some (Store.anything work.store).1,
      .rule (Store.anything work.store).1 .anything :: work.held⟩ := by
  cases kept : work.kept with
  | some rule =>
    obtain ⟨same, balanced⟩ := sound.balanced.anything_known ((sound.kept_iff rule).2 kept)
    rw [same]
    refine sound.of_balanced (by simp [kept]) ?_ ?_
    · apply balanced.permute
      simp only [roots, kept]
      exact List.perm_middle.symm
    · intro id listed
      have found := (sound.kept_iff rule).2 kept
      obtain ⟨nodes, ledger⟩ := sound.balanced
      rw [Store.anything, ledger.findRule?_eq, found] at listed
      exact listed
  | none =>
    have absent : work.store.rules[Shape.anything]? = none := by
      rw [Option.eq_none_iff_forall_ne_some]
      intro rule found
      rw [(sound.kept_iff rule).1 found] at kept
      contradiction
    obtain ⟨same, balanced⟩ := sound.balanced.anything_new absent
    rw [same]
    have listed := balanced.lists_held List.mem_cons_self
    refine ⟨balanced.permute ?_, ?_⟩
    · simp only [roots, kept]
      exact List.Perm.refl _
    · intro rule
      rw [Store.lists_rule, Rule.shape] at listed
      rw [listed]
      exact Iff.rfl

theorem Step.sound {before after : Workspace} (step : Step before after) (sound : before.Sound) :
    after.Sound := by
  cases step with
  | atom value =>
    refine sound.of_balanced rfl ?_ ?_
    · exact (sound.balanced.atom value).permute List.perm_middle.symm
    · intro id listed
      rcases Store.atom_lists _ _ listed with old | same
      · exact old
      · cases same
  | anything => exact sound.anything
  | test sense key atom taken =>
    refine sound.gain _ taken ?_ fun id => Store.intern_anything (by simp [Rule.shape])
    intro others balanced
    exact Store.Balanced.test (by simpa [Function.comp_def] using balanced)
  | fuzzy atom taken =>
    exact sound.gain [.atom atom] taken (fun others => Store.Balanced.fuzzy)
      fun id => Store.intern_anything (by simp [Rule.shape])
  | no operand origin taken =>
    exact sound.gain [.rule operand origin] taken (fun others => Store.Balanced.no)
      fun id => Store.intern_anything (by simp [Rule.shape])
  | junction kind first more taken =>
    refine sound.gain _ taken ?_ fun id => Store.junction_anything
    intro others balanced
    apply Store.Balanced.junction (by simp)
    simpa [Function.comp_def] using balanced
  | clone member =>
    exact sound.clone (.root (List.mem_append_right _ (List.mem_map_of_mem member)))
  | clonePart live =>
    rename_i part
    have cloned : Sound ⟨before.store.clone (Holding.onPart part).handle, before.kept,
        Holding.onPart part :: before.held⟩ := sound.clone (by simpa using live)
    simpa using cloned
  | drop taken => exact sound.drop taken

theorem Step.later {before after : Workspace} (step : Step before after) :
    before.store.Later after.store := by
  cases step with
  | atom value => exact Store.atom_later _ _
  | anything => exact Store.anything_later _
  | test | fuzzy | no => exact Store.intern_later rfl
  | junction => exact Store.junction_later _ _ _
  | clone | clonePart => exact (Store.Shrunk.retain _ _).later
  | drop => exact (Store.Shrunk.drop _ _).later

theorem Run.sound {before after : Workspace} (run : Run before after) (sound : before.Sound) :
    after.Sound := by
  induction run with
  | refl => exact sound
  | tail _ step ih => exact step.sound ih

/-- The kept handle is never given up. -/
theorem Run.kept {before after : Workspace} (run : Run before after) {rule : Rule}
    (kept : before.kept = some rule) : after.kept = some rule := by
  induction run with
  | refl => exact kept
  | tail _ step ih =>
    cases step with
    | anything => simp [ih]
    | atom | test | fuzzy | no | junction | clone | clonePart | drop => exact ih

theorem Run.later {before after : Workspace} (run : Run before after) :
    before.store.Later after.store := by
  induction run with
  | refl => exact Store.Later.refl _
  | tail _ step ih => exact ih.trans step.later

end Workspace

namespace Expression

theorem build_atomless (sense : Sense) (key : Option String) (store : Store) :
    (test sense key none).build store = Store.test sense key none store := by
  rw [build]

theorem build_test (sense : Sense) (key : Option String) (atom : Atom) (store : Store) :
    (test sense key (some atom)).build store =
      Store.test sense key (some (Store.atom atom store).1) (Store.atom atom store).2 := by
  rw [build]
  rfl

theorem build_fuzzy (atom : Atom) (store : Store) :
    (fuzzy atom).build store = Store.fuzzy (Store.atom atom store).1 (Store.atom atom store).2 := by
  rw [build]
  rfl

theorem build_no (operand : Expression) (store : Store) :
    (no operand).build store = Store.no (operand.build store).1 (operand.build store).2 := by
  rw [build]
  rfl

theorem build_junction (kind : Junction) (first : Expression) (rest : List Expression) (store : Store) :
    (junction kind first rest).build store =
      Store.junction kind ((first.build store).1 :: (build.buildAll rest (first.build store).2).1)
        (build.buildAll rest (first.build store).2).2 := by
  rw [build]
  rfl

theorem buildAll_cons (operand : Expression) (rest : List Expression) (store : Store) :
    build.buildAll (operand :: rest) store =
      ((operand.build store).1 :: (build.buildAll rest (operand.build store).2).1,
        (build.buildAll rest (operand.build store).2).2) := by
  rw [build.buildAll]
  rfl

end Expression

namespace Workspace

mutual

/-- Building an expression is a run of steps, at whose end one more handle is held. -/
theorem Sound.build_runs {work : Workspace} (sound : work.Sound) (expression : Expression) :
    ∃ kept, Run work ⟨(expression.build work.store).2, kept,
      .rule (expression.build work.store).1 expression :: work.held⟩ := by
  cases expression with
  | anything => exact ⟨_, .single (.anything work)⟩
  | test sense key atom =>
    cases atom with
    | none =>
      rw [Expression.build_atomless]
      exact ⟨_, .single (.test sense key none (List.Perm.refl _))⟩
    | some atom =>
      rw [Expression.build_test]
      have built := @Step.test (work.withAtom atom) work.held sense key
        (some (Store.atom atom work.store).1) (List.Perm.refl _)
      simp only [Option.map, Store.atom_value sound.balanced] at built
      exact ⟨_, .tail (.single (.atom work atom)) built⟩
  | fuzzy atom =>
    rw [Expression.build_fuzzy]
    have built := @Step.fuzzy (work.withAtom atom) work.held (Store.atom atom work.store).1
      (List.Perm.refl _)
    rw [Store.atom_value sound.balanced] at built
    exact ⟨_, .tail (.single (.atom work atom)) built⟩
  | no operand =>
    obtain ⟨kept, run⟩ := sound.build_runs operand
    rw [Expression.build_no]
    exact ⟨kept, .tail run (.no _ operand (List.Perm.refl _))⟩
  | junction kind first rest =>
    obtain ⟨kept, run⟩ := sound.build_runs first
    obtain ⟨laterKept, given, rules, origins, later⟩ := (run.sound sound).buildAll_runs rest
    rw [Expression.build_junction, ← rules]
    refine ⟨laterKept, .tail (run.trans later) ?_⟩
    have taken : ((given.map fun pair => Holding.rule pair.1 pair.2).reverse ++
        .rule (first.build work.store).1 first :: work.held).Perm
          ((((first.build work.store).1, first) :: given).map (fun pair => .rule pair.1 pair.2) ++
            work.held) := by
      rw [List.map_cons, List.cons_append]
      refine List.perm_middle.trans (List.Perm.cons _ ?_)
      exact (List.reverse_perm _).append_right _
    have built := @Step.junction ⟨(Expression.build.buildAll rest (first.build work.store).2).2,
      laterKept, _⟩ _ kind ((first.build work.store).1, first) given taken
    rw [origins] at built
    exact built

theorem Sound.buildAll_runs {work : Workspace} (sound : work.Sound) (expressions : List Expression) :
    ∃ kept, ∃ given : List (Rule × Expression),
      given.map Prod.fst = (Expression.build.buildAll expressions work.store).1 ∧
      given.map Prod.snd = expressions ∧
      Run work ⟨(Expression.build.buildAll expressions work.store).2, kept,
        (given.map fun pair => .rule pair.1 pair.2).reverse ++ work.held⟩ := by
  cases expressions with
  | nil => exact ⟨work.kept, [], rfl, rfl, .refl⟩
  | cons operand rest =>
    obtain ⟨kept, run⟩ := sound.build_runs operand
    obtain ⟨laterKept, given, rules, origins, later⟩ := (run.sound sound).buildAll_runs rest
    rw [Expression.buildAll_cons]
    refine ⟨laterKept, ((operand.build work.store).1, operand) :: given, ?_, ?_, run.trans ?_⟩
    · rw [List.map_cons, rules]
    · rw [List.map_cons, origins]
    · simpa using later

end

end Workspace

end EventRouting
