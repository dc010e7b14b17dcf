import EventRouting.Proofs.Rule.Registers

set_option autoImplicit false

namespace EventRouting

namespace Handle

variable {node whole : Handle} {first second roots : List Handle} {rule : Rule}

theorem reachable_append_iff :
    Reachable (first ++ second) node ↔ Reachable first node ∨ Reachable second node := by
  constructor
  · intro known
    induction known with
    | root held => exact (List.mem_append.1 held).imp .root .root
    | part _ inside ih => exact ih.imp (.part · inside) (.part · inside)
  · exact fun known => known.elim (·.mono (List.subset_append_left _ _))
      (·.mono (List.subset_append_right _ _))

theorem Reachable.trans (outer : Reachable roots whole) (inner : Reachable [whole] node) :
    Reachable roots node := by
  induction inner with
  | root held => rwa [List.mem_singleton.1 held]
  | part _ inside ih => exact .part ih inside

theorem reachable_self (node : Handle) : Reachable [node] node := .root (List.mem_singleton.2 rfl)

/-- A rule is got at from a rule through its operands. -/
theorem reachable_rule_iff {made : Rule} :
    Reachable [.rule rule] (.rule made) ↔
      made = rule ∨ ∃ operand ∈ rule.operands, Reachable [.rule operand] (.rule made) := by
  constructor
  · suffices general : ∀ node, Reachable [.rule rule] node → node = .rule rule ∨
        (∃ operand ∈ rule.operands, Reachable [.rule operand] node) ∨
          ∃ shared, node = .atom shared by
      simpa using general (.rule made)
    intro node known
    induction known with
    | root held => exact .inl (List.mem_singleton.1 held)
    | part _ inside ih =>
      rcases ih with rfl | ⟨operand, member, known⟩ | ⟨shared, rfl⟩
      · rcases List.mem_append.1 inside with inside | inside
        · obtain ⟨shared, -, rfl⟩ := List.mem_map.1 inside
          exact .inr (.inr ⟨shared, rfl⟩)
        · obtain ⟨operand, member, rfl⟩ := List.mem_map.1 inside
          exact .inr (.inl ⟨operand, member, reachable_self _⟩)
      · exact .inr (.inl ⟨operand, member, .part known inside⟩)
      · simp at inside
  · rintro (rfl | ⟨operand, inside, known⟩)
    · exact reachable_self _
    · refine Reachable.trans (.part (reachable_self _) ?_) known
      exact List.mem_append_right _ (List.mem_map_of_mem inside)

end Handle

theorem Rule.operandsOf_other {kind : Junction} {rule : Rule} (other : rule.isJunction kind = false) :
    rule.operandsOf kind = [rule] := by
  cases rule with
  | junction id own operands => exact if_neg (by simpa [isJunction] using other)
  | anything | test | fuzzy | no => rfl

theorem Rule.operandsOf_own {kind : Junction} {rule : Rule} (own : rule.isJunction kind = true) :
    rule.operandsOf kind = rule.operands := by
  cases rule with
  | junction id other operands => exact if_pos (by simpa [isJunction] using own)
  | anything | test | fuzzy | no => simp [isJunction] at own

/-- A junction hands on what its arguments contribute. -/
theorem Store.Balanced.mem_operandsOf_junction {store : Store} {held : List Handle} {kind : Junction}
    {rules : List Rule} (balanced : Balanced store (rules.map .rule ++ held)) (some : rules ≠ [])
    (operand : Rule) : operand ∈ (Store.junction kind rules store).1.operandsOf kind ↔
      ∃ rule ∈ rules, operand ∈ rule.operandsOf kind := by
  have result := balanced.junction_result kind some
  obtain ⟨nodes, ledger⟩ := balanced
  have known := ledger.rules_mem
  obtain ⟨members, -⟩ := ledger.junctionOperands_spec kind known
  rw [← members]
  rcases result with only | ⟨id, made, -⟩
  · obtain ⟨rule, inside, contributed⟩ := (members _).1 (only ▸ List.mem_cons_self)
    have other := (Rule.operandsOf_flat kind (ledger.flat _ (known rule inside))).2.2 _ contributed
    rw [Rule.operandsOf_other other, ← only]
  · rw [made, Rule.operandsOf, if_pos rfl]

theorem Expression.build_pair (kind : Junction) (left right : Expression) (store : Store) :
    (junction kind left [right]).build store =
      Store.junction kind [(left.build store).1, (right.build (left.build store).2).1]
        (right.build (left.build store).2).2 := by
  rw [build_junction, buildAll_cons]
  rfl

open Handle

namespace Workspace

variable {work middle before after : Workspace} {rule operand left right : Rule} {expression : Expression}
  {register : Register}

/-- A rule came into hand, and nothing else is in use than before but its parts. -/
structure Adds (work : Workspace) (rule : Rule) (after : Workspace) : Prop where
  run : Run work after
  held : ∃ origin, after.held = .rule rule origin :: work.held
  live_iff : ∀ node, after.Live node ↔ work.Live node ∨ Reachable [.rule rule] node

/-- It is enough to look at the handle that is kept. -/
theorem Adds.of_kept {origin : Expression} (run : Run work after)
    (held : after.held = .rule rule origin :: work.held)
    (kept : ∀ made, after.kept = some made → work.Live (.rule made) ∨ Reachable [.rule rule]
      (.rule made)) :
    Adds work rule after := by
  refine ⟨run, ⟨origin, held⟩, fun node => ⟨fun live => ?_, ?_⟩⟩
  · rw [Live, roots, held, List.map_cons, List.append_cons, reachable_append_iff,
      reachable_append_iff] at live
    rcases live with (live | live) | live
    · induction live with
      | root member =>
        obtain ⟨made, same, rfl⟩ := List.mem_map.1 member
        exact kept made (Option.mem_toList.1 same)
      | part _ inside ih => exact ih.imp (.part · inside) (.part · inside)
    · exact .inr live
    · exact .inl (live.mono (List.subset_append_right _ _))
  · rintro (live | live)
    · refine live.mono fun root member => ?_
      rcases List.mem_append.1 member with member | member
      · obtain ⟨made, same, rfl⟩ := List.mem_map.1 member
        have later := Run.kept run (Option.mem_toList.1 same)
        exact List.mem_append_left _ (List.mem_map.2 ⟨made, Option.mem_toList.2 later, rfl⟩)
      · rw [roots, held]
        exact List.mem_append_right _ (List.mem_cons_of_mem _ member)
    · refine live.mono fun root member => ?_
      rw [List.mem_singleton.1 member, roots, held]
      exact List.mem_append_right _ List.mem_cons_self

theorem live_of_kept {made : Rule} (kept : work.kept = some made) : work.Live (.rule made) :=
  .root (List.mem_append_left _ (List.mem_map.2 ⟨made, Option.mem_toList.2 kept, rfl⟩))

/-- Building what has no operands takes nothing over. -/
theorem adds_leaf (work : Workspace) (alone : expression.operands = []) :
    ∃ after, after.store = (expression.build work.store).2 ∧
      Adds work (expression.build work.store).1 after := by
  have same {made built : Rule} (kept : work.kept = some made) :
      work.Live (.rule made) ∨ Reachable [.rule built] (.rule made) :=
    .inl (live_of_kept kept)
  cases expression with
  | anything =>
    refine ⟨_, rfl, Adds.of_kept (.single (.anything work)) rfl fun made kept => ?_⟩
    simp only [Option.orElse_eq_orElse, Option.orElse_eq_or, Option.or_eq_some_iff] at kept
    rcases kept with old | ⟨-, new⟩
    · exact same old
    · rw [← Option.some.inj new]
      exact .inr (reachable_self _)
  | test sense key atom =>
    cases atom with
    | none =>
      rw [Expression.build_atomless]
      exact ⟨_, rfl, Adds.of_kept (.single (.test sense key none (List.Perm.refl _))) rfl fun made =>
        same⟩
    | some atom =>
      rw [Expression.build_test]
      have built := @Step.test (work.withAtom atom) work.held sense key
        (some (Store.atom atom work.store).1) (List.Perm.refl _)
      exact ⟨_, rfl, Adds.of_kept (.tail (.single (.atom work atom)) built) rfl fun made => same⟩
  | fuzzy atom =>
    rw [Expression.build_fuzzy]
    have built := @Step.fuzzy (work.withAtom atom) work.held (Store.atom atom work.store).1
      (List.Perm.refl _)
    exact ⟨_, rfl, Adds.of_kept (.tail (.single (.atom work atom)) built) rfl fun made => same⟩
  | no | junction => contradiction

theorem Sound.kept_eq (sound : work.Sound) (kept : work.kept = some rule) :
    ∃ id, rule = .anything id := by
  obtain ⟨nodes, ledger⟩ := sound.balanced
  have shaped := ((ledger.rule_iff _ _).1 ((sound.kept_iff rule).2 kept)).2
  cases rule with
  | anything id => exact ⟨id, rfl⟩
  | test | fuzzy | no | junction => simp [Rule.shape] at shaped

/-- The rule that was added is taken over by a denial of it. -/
theorem Adds.no (adds : Adds work operand middle) (sound : middle.Sound) :
    ∃ after, after.store = (Store.no operand middle.store).2 ∧ Run middle after ∧
      Adds work (Store.no operand middle.store).1 after ∧
      (Store.no operand middle.store).1.operands = [operand] := by
  obtain ⟨run, ⟨origin, held⟩, live_iff⟩ := adds
  have taken : middle.held.Perm ([.rule operand origin] ++ work.held) := held ▸ List.Perm.refl _
  have step := Step.no operand origin taken
  obtain ⟨id, made⟩ := Store.intern_renumber (.no middle.store.next operand) (sound.taken taken)
  have operands : (Store.no operand middle.store).1.operands = [operand] := congrArg Rule.operands made
  refine ⟨_, rfl, .single step, Adds.of_kept (.tail run step) rfl fun known kept => ?_, operands⟩
  refine ((live_iff _).1 (live_of_kept kept)).imp_right fun inside => reachable_rule_iff.2 (.inr ?_)
  exact ⟨operand, operands ▸ List.mem_cons_self, inside⟩

theorem reachable_operandsOf {kind : Junction} (member : operand ∈ rule.operandsOf kind) :
    Reachable [.rule rule] (.rule operand) := by
  rcases Rule.mem_operandsOf member with rfl | inside
  · exact reachable_self _
  · exact .part (reachable_self _) inside

/-- What is got at from a rule, but is not a junction, is got at from what the rule contributes. -/
theorem reachable_contribution {kind : Junction} {made : Rule} (known : Reachable [.rule rule] (.rule made))
    (leaf : made.isJunction kind = false) :
    ∃ operand ∈ rule.operandsOf kind, Reachable [.rule operand] (.rule made) := by
  by_cases own : rule.isJunction kind = true
  · obtain rfl | inside := reachable_rule_iff.1 known
    · simp [own] at leaf
    · rwa [Rule.operandsOf_own own]
  · rw [Rule.operandsOf_other (by simpa using own)]
    exact ⟨rule, List.mem_cons_self, known⟩

/-- Two rules that were added one after the other are taken over by a junction of them. -/
theorem Adds.junction {first second : Workspace} (kind : Junction) (early : Adds work left first)
    (late : Adds first right second) (sound : second.Sound) :
    ∃ after, after.store = (Store.junction kind [left, right] second.store).2 ∧ Run second after ∧
      Adds work (Store.junction kind [left, right] second.store).1 after ∧
      ∀ operand, operand ∈ (Store.junction kind [left, right] second.store).1.operandsOf kind ↔
        operand ∈ left.operandsOf kind ∨ operand ∈ right.operandsOf kind := by
  obtain ⟨run, ⟨origin, held⟩, live_iff⟩ := early
  obtain ⟨later, ⟨otherOrigin, heldSecond⟩, liveSecond⟩ := late
  have taken : second.held.Perm ([.rule left origin, .rule right otherOrigin] ++ work.held) := by
    rw [heldSecond, held]
    exact List.Perm.swap _ _ _
  have step := Step.junction kind (left, origin) [(right, otherOrigin)] taken
  have balanced : second.store.Balanced ([left, right].map .rule ++
      (second.kept.toList.map .rule ++ work.held.map Holding.handle)) := sound.taken taken
  have members (operand : Rule) :
      operand ∈ (Store.junction kind [left, right] second.store).1.operandsOf kind ↔
        operand ∈ left.operandsOf kind ∨ operand ∈ right.operandsOf kind := by
    rw [balanced.mem_operandsOf_junction (by simp)]
    simp
  refine ⟨_, rfl, .single step, Adds.of_kept (.tail (run.trans later) step) rfl fun made kept =>
    ?_, members⟩
  have leaf : made.isJunction kind = false := by
    obtain ⟨id, rfl⟩ := sound.kept_eq kept
    rfl
  have inherits {given : Rule} (contributes : ∀ operand ∈ given.operandsOf kind,
      operand ∈ (Store.junction kind [left, right] second.store).1.operandsOf kind)
      (known : Reachable [.rule given] (.rule made)) :
      Reachable [.rule (Store.junction kind [left, right] second.store).1] (.rule made) := by
    obtain ⟨operand, member, inside⟩ := reachable_contribution known leaf
    exact Reachable.trans (reachable_operandsOf (contributes operand member)) inside
  rcases (liveSecond _).1 (live_of_kept kept) with known | known
  · exact ((live_iff _).1 known).imp_right
      (inherits fun operand inside => (members operand).2 (.inl inside))
  · exact .inr (inherits (fun operand inside => (members operand).2 (.inr inside)) known)

theorem Sound.expression_junction {id : Nat} {kind : Junction} {operands : List Rule} (sound : work.Sound)
    (live : work.Live (.rule (.junction id kind operands))) :
    ∃ first rest, operands = first :: rest ∧ (Rule.junction id kind operands).expression =
      .junction kind first.expression (rest.map Rule.expression) := by
  cases operands with
  | nil => exact absurd live (sound.junction_inhabited id kind)
  | cons first rest => exact ⟨first, rest, rfl, Rule.expression_junction id kind first rest⟩

theorem Sound.operands_expression (sound : work.Sound) (live : work.Live (.rule rule)) :
    rule.expression.operands = rule.operands.map Rule.expression := by
  cases rule with
  | anything | test | fuzzy | no => rfl
  | junction =>
    obtain ⟨first, rest, rfl, shape⟩ := sound.expression_junction live
    rw [shape]
    rfl

theorem Sound.operand_below (sound : work.Sound) (live : work.Live (.rule rule))
    (inside : operand ∈ rule.operands) : operand.id < rule.id :=
  sound.shared.parts_below _ _ live
    (List.mem_append_right _ (List.mem_map_of_mem (f := Handle.rule) inside))

/-- What holds of the operands of the junctions in use holds throughout their expressions. -/
theorem Sound.throughout {property : Junction → List Expression → Prop} (sound : work.Sound)
    (holds : ∀ id kind operands, work.Live (.rule (.junction id kind operands)) →
      property kind (operands.map Rule.expression)) (live : work.Live (.rule rule)) :
    rule.expression.Throughout property := by
  induction rule using Rule.induct with
  | anything id => exact .anything
  | test id sense key atom => exact .test _ _ _
  | fuzzy id atom => exact .fuzzy _
  | no id operand ih => exact .no (ih (live.operand List.mem_cons_self))
  | junction id kind operands ih =>
    have here := holds id kind operands live
    obtain ⟨first, rest, rfl, shape⟩ := sound.expression_junction live
    rw [shape]
    refine .junction here fun operand inside => ?_
    obtain ⟨part, member, rfl⟩ := List.mem_map.1 (List.map_cons ▸ inside)
    exact ih part member (live.operand member)

theorem Sound.isJunction_expression (sound : work.Sound) (live : work.Live (.rule rule)) (kind : Junction) :
    rule.expression.isJunction kind = rule.isJunction kind := by
  cases rule with
  | anything | test | fuzzy | no => rfl
  | junction =>
    obtain ⟨first, rest, rfl, shape⟩ := sound.expression_junction live
    rw [shape]
    rfl

/-- The operands of a junction in use are in use, under ascending numbers. -/
theorem Sound.operands_ascend {id : Nat} {kind : Junction} {operands : List Rule} (sound : work.Sound)
    (live : work.Live (.rule (.junction id kind operands))) :
    operands.Pairwise fun left right => work.Live (.rule left) ∧ work.Live (.rule right) ∧
    left.id < right.id := by
  obtain ⟨nodes, ledger⟩ := sound.balanced
  have ascending := (ledger.flat _ ((ledger.mem_iff_reachable _).2 live)).2.1
  refine ascending.imp_of_mem fun inLeft inRight less => ?_
  exact ⟨live.operand inLeft, live.operand inRight, less⟩

theorem Sound.flat (sound : work.Sound) (live : work.Live (.rule rule)) : rule.expression.Flat := by
  refine sound.throughout (fun id kind operands live => ?_) live
  have ascend := sound.operands_ascend live
  obtain ⟨nodes, ledger⟩ := sound.balanced
  obtain ⟨many, -, kinds⟩ := ledger.flat _ ((ledger.mem_iff_reachable _).2 live)
  refine ⟨by simpa using many, ?_, List.pairwise_map.2 (ascend.imp ?_)⟩
  · intro expression inside
    obtain ⟨operand, member, rfl⟩ := List.mem_map.1 inside
    rw [sound.isJunction_expression (live.operand member)]
    exact kinds operand member
  · rintro left right ⟨inLeft, inRight, less⟩ same
    rw [sound.canonical_injective inLeft inRight same] at less
    exact Nat.lt_irrefl _ less

/-- A rule in use is in normal form. -/
theorem Sound.form_eq (sound : work.Sound) (live : work.Live (.rule rule)) :
    rule.form = rule.expression.normal := by
  induction rule using Rule.induct with
  | anything | test | fuzzy => rfl
  | no id operand ih => exact congrArg Form.no (ih (live.operand List.mem_cons_self))
  | junction id kind operands ih =>
    have flat := sound.flat live
    obtain ⟨first, rest, rfl, shape⟩ := sound.expression_junction live
    rw [shape] at flat ⊢
    rw [flat.normal_junction, Rule.form_junction, ← List.map_cons, List.map_map]
    exact congrArg _ (List.map_congr_left fun operand inside => ih operand inside (live.operand inside))

/-- What a rule in use is made of is in use, under numbers up to its own. -/
theorem Sound.parts_live (sound : work.Sound) (live : work.Live (.rule rule)) {made : CanonicalRule}
    (inside : made ∈ rule.expression.parts) :
    ∃ part, work.Live (.rule part) ∧ part.id ≤ rule.id ∧ part.canonical = made := by
  induction number : rule.id using Nat.strongRecOn generalizing rule with
  | ind number ih =>
    subst number
    rw [Expression.parts_eq, sound.operands_expression live, List.flatMap_map] at inside
    rcases List.mem_append.1 inside with inside | same
    · obtain ⟨operand, member, inside⟩ := List.mem_flatMap.1 inside
      have below := sound.operand_below live member
      obtain ⟨part, known, upTo, same⟩ := ih operand.id below (live.operand member) inside rfl
      exact ⟨part, known, Nat.le_trans upTo (Nat.le_of_lt below), same⟩
    · exact ⟨rule, live, Nat.le_refl _, (List.mem_singleton.1 same).symm⟩

theorem Sound.layered (sound : work.Sound) (live : work.Live (.rule rule)) : rule.expression.Layered := by
  refine sound.throughout (fun id kind operands live => ?_) live
  refine List.pairwise_map.2 ((sound.operands_ascend live).imp ?_)
  rintro left right ⟨inLeft, inRight, less⟩ inside
  obtain ⟨part, known, upTo, same⟩ := sound.parts_live inLeft inside
  rw [sound.canonical_injective known inRight same] at upTo
  exact Nat.not_lt.2 upTo less

/-- The register lists the rules in use in the order of their numbers. -/
structure Records (work : Workspace) (register : Register) : Prop where
  mem_iff : ∀ made, made ∈ register ↔ ∃ rule, work.Live (.rule rule) ∧ rule.canonical = made
  ordered : ∀ left right, work.Live (.rule left) → work.Live (.rule right) → left.id < right.id →
    register.idxOf left.canonical < register.idxOf right.canonical

theorem Records.inOrder (records : Records work register) (sound : work.Sound)
    (live : work.Live (.rule rule)) :
    rule.expression.InOrder register := by
  refine sound.throughout (fun id kind operands live => ?_) live
  rw [Register.Ascending, List.pairwise_map, List.pairwise_map]
  refine (sound.operands_ascend live).imp ?_
  rintro left right ⟨inLeft, inRight, less⟩
  exact records.ordered left right inLeft inRight less

/-- A rule that came up since stands behind all others. -/
theorem Records.enter (records : Records before register) (sound : before.Sound) (run : Run before after)
    (live_iff : ∀ other, after.Live (.rule other) ↔ before.Live (.rule other) ∨ other = rule) :
    Records after (register.enter rule.canonical) := by
  have listed {known : Rule} (old : before.Live (.rule known)) : known.canonical ∈ register :=
    (records.mem_iff _).2 ⟨known, old, rfl⟩
  by_cases known : before.Live (.rule rule)
  · have same (other : Rule) : after.Live (.rule other) ↔ before.Live (.rule other) := by
      rw [live_iff]
      exact or_iff_left_of_imp fun equal => equal ▸ known
    rw [Register.enter_known (listed known)]
    exact ⟨by simpa only [same] using records.mem_iff, by simpa only [same] using records.ordered⟩
  · have soundAfter := run.sound sound
    have live : after.Live (.rule rule) := (live_iff rule).2 (.inr rfl)
    have new : rule.canonical ∉ register := by
      intro inside
      obtain ⟨other, old, same⟩ := (records.mem_iff _).1 inside
      exact known (soundAfter.canonical_injective ((live_iff other).2 (.inl old)) live same ▸ old)
    have above : before.store.next ≤ rule.id :=
      (run.later.fresh _ ((soundAfter.live_iff _).2 live)).resolve_left fun old =>
        known ((sound.live_iff _).1 old)
    have early := Register.prefix_enter register rule.canonical
    refine ⟨fun made => ?_, fun left right inLeft inRight less => ?_⟩
    · rw [Register.mem_enter, records.mem_iff]
      simp only [live_iff, or_and_right, exists_or, exists_eq_left, @eq_comm _ made]
    · rcases (live_iff left).1 inLeft with oldLeft | rfl
      · rcases (live_iff right).1 inRight with oldRight | rfl
        · obtain ⟨more, longer⟩ := early
          rw [← longer, List.idxOf_append_of_mem (listed oldLeft),
            List.idxOf_append_of_mem (listed oldRight)]
          exact records.ordered left right oldLeft oldRight less
        · exact Register.idxOf_lt_of_prefix early (listed oldLeft) new
      · rcases (live_iff right).1 inRight with oldRight | rfl
        · have below := sound.chronicle.below right oldRight
          omega
        · exact absurd less (Nat.lt_irrefl _)

theorem Sound.canonical_build (sound : work.Sound) (told : work.Told) (expression : Expression) :
    (expression.build work.store).1.canonical = expression.canonical := by
  obtain ⟨after, run, -, made, live, -⟩ := sound.built told expression
  rw [(run.sound sound).form_eq live] at made
  exact Expression.canonical_eq_iff.2 made

theorem Adds.live (adds : Adds work rule after) : after.Live (.rule rule) :=
  (adds.live_iff _).2 (.inr (reachable_self _))

/-- The rule of a flat expression is made of the rules of its operands. -/
theorem Adds.resembles (adds : Adds work rule after) (sound : work.Sound) (flat : expression.Flat)
    (same : rule.canonical = expression.canonical) : rule.expression.Resembles expression :=
  ((adds.run.sound sound).flat adds.live).resembles flat same

theorem Adds.isJunction (adds : Adds work rule after) (sound : work.Sound) (flat : expression.Flat)
    (same : rule.canonical = expression.canonical) (kind : Junction) :
    rule.isJunction kind = expression.isJunction kind := by
  rw [← (adds.run.sound sound).isJunction_expression adds.live,
    (adds.resembles sound flat same).isJunction]

/-- The whole is entered last, when all its operands are there. -/
theorem Adds.records (adds : Adds work rule after) (soundMiddle : middle.Sound) (run : Run middle after)
    (same : rule.canonical = expression.canonical)
    (records : Records middle (Expression.enrollAll register expression.operands))
    (live_iff : ∀ other, middle.Live (.rule other) ↔
      work.Live (.rule other) ∨ ∃ operand ∈ rule.operands, Reachable [.rule operand] (.rule other)) :
    Records after (Expression.enroll register expression) := by
  rw [Expression.enroll_eq, ← same]
  refine records.enter soundMiddle run fun other => ?_
  rw [adds.live_iff, live_iff, reachable_rule_iff, or_assoc, or_comm (a := other = rule)]

/-- Built with junctions of two operands, the expression adds its parts to the register, in any state. -/
def Enrolls (expression : Expression) : Prop :=
  ∀ work register, work.Sound → work.Told → Records work register →
    ∃ after, after.store = (expression.grouped.build work.store).2 ∧
      Adds work (expression.grouped.build work.store).1 after ∧
      Records after (Expression.enroll register expression)

theorem Sound.canonical_grouped (sound : work.Sound) (told : work.Told) (expression : Expression) :
    (expression.grouped.build work.store).1.canonical = expression.canonical :=
  (sound.canonical_build told _).trans (Expression.canonical_eq_iff.2 expression.grouped_agrees)

/-- When all operands of a junction are there, they are listed, and nothing else is new. -/
theorem Sound.chain {kind : Junction} {first : Expression} {rest : List Expression}
    (enrolls : ∀ operand ∈ first :: rest, Enrolls operand)
    (flat : ∀ operand ∈ first :: rest, operand.Flat ∧ operand.isJunction kind = false)
    (sound : work.Sound) (told : work.Told) (records : Records work register) :
    let built := (Expression.chain kind first.grouped (rest.map Expression.grouped)).build work.store
    ∃ middle after, after.store = built.2 ∧ Run work middle ∧ Run middle after ∧
      Adds work built.1 after ∧
      Records middle (Expression.enrollAll register (first :: rest)) ∧
      ∀ other, middle.Live (.rule other) ↔ work.Live (.rule other) ∨
        ∃ operand ∈ built.1.operandsOf kind, Reachable [.rule operand] (.rule other) := by
  induction rest generalizing first work register with
  | nil =>
    obtain ⟨after, store, adds, records⟩ :=
      enrolls first List.mem_cons_self work register sound told records
    obtain ⟨flat, other⟩ := flat first List.mem_cons_self
    have alone := Rule.operandsOf_other
      ((adds.isJunction sound flat (sound.canonical_grouped told first) kind).trans other)
    refine ⟨after, after, store, adds.run, .refl, adds, records, fun made => ?_⟩
    simp only [List.map_nil, Expression.chain, alone, List.mem_singleton, exists_eq_left]
    exact adds.live_iff _
  | cons next rest ih =>
    obtain ⟨one, store, adds, records⟩ :=
      enrolls first List.mem_cons_self work register sound told records
    obtain ⟨flatFirst, other⟩ := flat first List.mem_cons_self
    have alone := Rule.operandsOf_other
      ((adds.isJunction sound flatFirst (sound.canonical_grouped told first) kind).trans other)
    have soundOne := adds.run.sound sound
    obtain ⟨middle, two, storeTwo, early, late, addsRest, recordsRest, live_iff⟩ :=
      ih (fun operand inside => enrolls operand (List.mem_cons_of_mem _ inside))
        (fun operand inside => flat operand (List.mem_cons_of_mem _ inside)) soundOne
        (adds.run.told sound told) records
    -- The junction of the rest is only a step on the way: it hands on its operands and may be gone
    -- afterwards.
    obtain ⟨after, storeAfter, step, addsAll, members⟩ :=
      adds.junction kind addsRest (addsRest.run.sound soundOne)
    rw [storeTwo, store] at storeAfter addsAll members
    rw [store] at live_iff
    rw [List.map_cons, Expression.chain, Expression.build_pair]
    refine ⟨middle, after, storeAfter, adds.run.trans early, late.trans step, addsAll, recordsRest,
      fun made => ?_⟩
    rw [live_iff, adds.live_iff]
    simp only [members, alone, List.mem_singleton, or_and_right, exists_or, exists_eq_left, or_assoc]

theorem enrolls_leaf (flat : expression.Flat) (alone : expression.operands = [])
    (itself : expression.grouped = expression) : Enrolls expression := by
  intro work register sound told records
  rw [itself]
  obtain ⟨after, store, adds⟩ := adds_leaf work alone
  have same := sound.canonical_build told expression
  have none : (expression.build work.store).1.operands = [] := by
    refine List.eq_nil_iff_forall_not_mem.2 fun made inside => ?_
    have listed := List.mem_map_of_mem (f := Expression.canonical)
      (List.mem_map_of_mem (f := Rule.expression) inside)
    rw [← (adds.run.sound sound).operands_expression adds.live,
      (adds.resembles sound flat same).operands_mem, alone] at listed
    exact List.not_mem_nil listed
  refine ⟨after, store, adds, adds.records sound adds.run same (by rwa [alone]) fun made => ?_⟩
  simp [none]

/-- Every flat expression does. -/
theorem enrolls_of_flat (flat : expression.Flat) : Enrolls expression := by
  induction expression using Expression.induct with
  | anything => exact enrolls_leaf flat rfl rfl
  | test => exact enrolls_leaf flat rfl rfl
  | fuzzy => exact enrolls_leaf flat rfl rfl
  | no operand ih =>
    intro work register sound told records
    obtain ⟨middle, store, adds, records⟩ :=
      ih (flat.operand _ List.mem_cons_self) work register sound told records
    have same := sound.canonical_grouped told (.no operand)
    obtain ⟨after, storeAfter, step, addsAll, operands⟩ := adds.no (adds.run.sound sound)
    rw [store] at storeAfter addsAll operands
    rw [Expression.grouped, Expression.build_no] at same ⊢
    refine ⟨after, storeAfter, addsAll,
      addsAll.records (adds.run.sound sound) step same records fun made => ?_⟩
    rw [adds.live_iff, operands]
    simp
  | junction kind first rest ih =>
    intro work register sound told records
    have flats := flat.operand
    have kinds : ∀ operand ∈ first :: rest, operand.Flat ∧ operand.isJunction kind = false := by
      cases flat with
      | junction here => exact fun operand inside => ⟨flats operand inside, here.2.1 operand inside⟩
    have same := sound.canonical_grouped told (.junction kind first rest)
    rw [Expression.grouped_junction] at same ⊢
    obtain ⟨middle, after, store, early, late, adds, records, live_iff⟩ :=
      sound.chain (fun operand inside => ih operand inside (flats operand inside)) kinds told records
    have own := (adds.isJunction sound flat same kind).trans (beq_self_eq_true kind)
    rw [Rule.operandsOf_own own] at live_iff
    exact ⟨after, store, adds, adds.records (early.sound sound) late same records live_iff⟩

/-- A program that holds nothing, whatever it has done before. -/
structure Fresh (work : Workspace) : Prop where
  run : Run start work
  held : work.held = []

/-- The rules in use when nothing is held: the one matching everything, if it was ever asked for. -/
def known (work : Workspace) : Register := if work.kept.isSome then [Expression.anything.canonical] else []

theorem fresh_start : start.Fresh := ⟨.refl, rfl⟩

theorem closed_known (work : Workspace) : Expression.Closed work.known := by
  intro expression flat inside operand part
  unfold known at inside
  split at inside
  · cases flat.resembles .anything (List.mem_singleton.1 inside) with
    | leaf => exact absurd part List.not_mem_nil
  · exact absurd inside List.not_mem_nil

theorem Fresh.live_iff (fresh : work.Fresh) : work.Live (.rule rule) ↔ work.kept = some rule := by
  refine ⟨fun live => ?_, live_of_kept⟩
  rw [Live, roots, fresh.held, List.map_nil, List.append_nil] at live
  cases kept : work.kept with
  | none => simp [kept, not_reachable_nil] at live
  | some made =>
    obtain ⟨id, rfl⟩ := (fresh.run.sound start_sound).kept_eq kept
    rw [kept] at live
    obtain rfl | ⟨operand, inside, -⟩ := reachable_rule_iff.1 live
    · rfl
    · exact absurd inside List.not_mem_nil

theorem Fresh.records (fresh : work.Fresh) : Records work work.known := by
  refine ⟨fun made => ?_, fun left right inLeft inRight less => ?_⟩
  · simp only [fresh.live_iff, known]
    cases kept : work.kept with
    | none => simp
    | some rule =>
      obtain ⟨id, rfl⟩ := (fresh.run.sound start_sound).kept_eq kept
      simp [eq_comm, Rule.canonical, Rule.expression]
  · rw [fresh.live_iff] at inLeft inRight
    obtain rfl := Option.some.inj (inLeft.symm.trans inRight)
    exact absurd less (Nat.lt_irrefl _)

end Workspace

end EventRouting
