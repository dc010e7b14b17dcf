import EventRouting.Proofs.Rule.Verdicts

set_option autoImplicit false

namespace EventRouting

namespace Workspace

variable {event : Event} {work before after : Workspace} {verdicts : Verdicts} {known : Rule → Prop}

theorem Sound.junction_inhabited (sound : work.Sound) (id : Nat) (kind : Junction) :
    ¬work.Live (.rule (.junction id kind [])) := by
  intro live
  obtain ⟨nodes, ledger⟩ := sound.balanced
  have flat := ledger.flat _ ((ledger.mem_iff_reachable _).2 live)
  simp [Handle.Flat, Rule.Flat] at flat

theorem Live.operand {rule operand : Rule} (live : work.Live (.rule rule))
    (inside : operand ∈ rule.operands) : work.Live (.rule operand) :=
  .part live (List.mem_append_right _ (List.mem_map_of_mem inside))

theorem live_of_held {rule : Rule} {origin : Expression} (inside : .rule rule origin ∈ work.held) :
    work.Live (.rule rule) :=
  .root (List.mem_append_right _ (List.mem_map.2 ⟨_, inside, rfl⟩))

/-- Rules told apart by number, among them those in use; none has a number that is still to be given. -/
structure Chronicle (work : Workspace) (known : Rule → Prop) : Prop where
  family : Rule.Family known
  live : ∀ rule, work.Live (.rule rule) → known rule
  below : ∀ rule, known rule → rule.id < work.store.next

theorem Sound.chronicle (sound : work.Sound) : work.Chronicle fun rule => work.Live (.rule rule) := by
  obtain ⟨nodes, ledger⟩ := sound.balanced
  refine ⟨⟨fun rule live operand inside => live.operand inside, ?_, sound.junction_inhabited⟩,
    fun rule live => live, ?_⟩
  · intro left right inLeft inRight
    exact ledger.rule_unique ((ledger.mem_iff_reachable _).2 inLeft)
      ((ledger.mem_iff_reachable _).2 inRight)
  · intro rule live
    exact ledger.below _ ((ledger.mem_iff_reachable _).2 live)

/-- What is in use after a step was known before it, or has a number that was not given before. -/
theorem Chronicle.step (chronicle : before.Chronicle known) (sound : before.Sound)
    (step : Step before after) : after.Chronicle fun rule => known rule ∨ after.Live (.rule rule) := by
  have soundAfter := step.sound sound
  have own := soundAfter.chronicle
  have old {rule : Rule} (live : after.Live (.rule rule)) : known rule ∨ before.store.next ≤ rule.id :=
    (step.later.fresh _ ((soundAfter.live_iff _).2 live)).imp_left
      fun listed => chronicle.live rule ((sound.live_iff _).1 listed)
  have apart {left right : Rule} (inLeft : known left) (inRight : after.Live (.rule right))
      (same : left.id = right.id) : left = right := by
    rcases old inRight with inBoth | fresh
    · exact chronicle.family.unique left right inLeft inBoth same
    · have given := chronicle.below left inLeft
      omega
  refine ⟨⟨?_, ?_, ?_⟩, fun rule => Or.inr, ?_⟩
  · intro rule member operand inside
    exact member.imp (chronicle.family.operands rule · operand inside)
      (own.family.operands rule · operand inside)
  · intro left right inLeft inRight same
    rcases inLeft with inLeft | inLeft <;> rcases inRight with inRight | inRight
    · exact chronicle.family.unique left right inLeft inRight same
    · exact apart inLeft inRight same
    · exact (apart inRight inLeft same.symm).symm
    · exact own.family.unique left right inLeft inRight same
  · intro id kind member
    exact member.elim (chronicle.family.inhabited id kind) (own.family.inhabited id kind)
  · intro rule member
    rcases member with member | live
    · exact Nat.lt_of_lt_of_le (chronicle.below rule member) step.later.next_le
    · exact own.below rule live

/-- A program with a memory of verdicts on one event, empty at first. -/
inductive Judged (event : Event) : Workspace → Verdicts → Prop where
  | fresh {work : Workspace} (run : Run start work) : Judged event work ∅
  | step {before after : Workspace} {verdicts : Verdicts} (judged : Judged event before verdicts)
    (step : Step before after) : Judged event after verdicts
  | judge {work : Workspace} {verdicts : Verdicts} {rule : Rule} (judged : Judged event work verdicts)
    (live : work.Live (.rule rule)) : Judged event work (rule.matchWith event verdicts).2

theorem Judged.run (judged : Judged event work verdicts) : Run start work := by
  induction judged with
  | fresh run => exact run
  | step _ step ih => exact .tail ih step
  | judge _ _ ih => exact ih

theorem Judged.steps (judged : Judged event before verdicts) (run : Run before after) :
    Judged event after verdicts := by
  induction run with
  | refl => exact judged
  | tail _ step ih => exact .step ih step

/-- The memory stays truthful for all rules that have been in use. -/
theorem Judged.truthful (judged : Judged event work verdicts) :
    ∃ known, work.Chronicle known ∧ Rule.Truthful event known verdicts := by
  induction judged with
  | fresh run => exact ⟨_, (run.sound start_sound).chronicle, Rule.truthful_empty _ _⟩
  | step judged step ih =>
    obtain ⟨known, chronicle, truthful⟩ := ih
    exact ⟨_, chronicle.step (judged.run.sound start_sound) step, truthful.mono fun rule => Or.inl⟩
  | judge judged live ih =>
    obtain ⟨known, chronicle, truthful⟩ := ih
    refine ⟨known, chronicle, ?_⟩
    rw [Rule.matchWith_eq_judge]
    exact (chronicle.family.judgedTruly (chronicle.live _ live) _ truthful).2

theorem Judged.matchWith_live (judged : Judged event work verdicts) {rule : Rule}
    (live : work.Live (.rule rule)) : (rule.matchWith event verdicts).1 = rule.holds event := by
  obtain ⟨known, chronicle, truthful⟩ := judged.truthful
  rw [Rule.matchWith_eq_judge]
  exact (chronicle.family.judgedTruly (chronicle.live _ live) _ truthful).1

theorem Told.holds (told : work.Told) {rule : Rule} {origin : Expression}
    (held : .rule rule origin ∈ work.held) (event : Event) : rule.holds event = origin.holds event :=
  Rule.holds_eq_of_same (told rule origin held) event

theorem Sound.holds_expression (sound : work.Sound) {rule : Rule} (live : work.Live (.rule rule))
    (event : Event) : rule.expression.holds event = rule.holds event := by
  obtain ⟨nodes, ledger⟩ := sound.balanced
  exact (Rule.holds_eq_of_same (ledger.form_expression ((ledger.mem_iff_reachable _).2 live)) event).symm

/-- A rule that is built gets the verdict of its expression, with the memory of what was judged before. -/
theorem Judged.matchWith_build (judged : Judged event work verdicts) (expression : Expression) :
    ((expression.build work.store).1.matchWith event verdicts).1 = expression.holds event := by
  have sound := judged.run.sound start_sound
  obtain ⟨kept, built⟩ := sound.build_runs expression
  have told := built.told sound (judged.run.told start_sound start_told)
  rw [(judged.steps built).matchWith_live (live_of_held List.mem_cons_self), told.holds List.mem_cons_self]

/-- A rule that is built takes the events of its expression. -/
theorem isMatch_build (run : Run start work) (expression : Expression) (event : Event) :
    (expression.build work.store).1.isMatch event = expression.holds event :=
  (Judged.fresh run).matchWith_build expression

/-- Whatever was built, dropped and judged before, and with the memory of all of it, a rule gets the
verdict of the expression it was asked for with, as written; so does a part of a rule, and a rule that is
built now. -/
theorem matchWith_eq_holds (judged : Judged event work verdicts) :
    (∀ rule origin, .rule rule origin ∈ work.held →
      (rule.matchWith event verdicts).1 = origin.holds event) ∧
    (∀ rule, work.Live (.rule rule) →
      (rule.matchWith event verdicts).1 = rule.expression.holds event) ∧
    ∀ expression : Expression,
      ((expression.build work.store).1.matchWith event verdicts).1 = expression.holds event := by
  have sound := judged.run.sound start_sound
  have told := judged.run.told start_sound start_told
  refine ⟨?_, ?_, ?_⟩
  · intro rule origin held
    rw [judged.matchWith_live (live_of_held held), told.holds held]
  · intro rule live
    rw [judged.matchWith_live live, sound.holds_expression live]
  · intro expression
    obtain ⟨kept, run⟩ := sound.build_runs expression
    have built := judged.steps run
    rw [built.matchWith_live (live_of_held List.mem_cons_self),
      (run.told sound told).holds List.mem_cons_self]

/-- The memory holds a verdict on a rule that was dropped; the rule is built again, and judged again. -/
theorem matchWith_eq_holds_rebuilt :
    let expression := Expression.both (.no (.fuzzy (.string "a"))) .anything
    let built := expression.build start.store
    let verdicts := (built.1.matchWith .empty ∅).2
    let again := expression.build (built.2.drop (.rule built.1))
    (again.1.matchWith .empty verdicts).1 = true := by
  intro expression built verdicts again
  obtain ⟨kept, run⟩ := start_sound.build_runs expression
  have judged := Judged.judge (.fresh run : Judged .empty _ ∅) (live_of_held List.mem_cons_self)
  have dropped := Judged.step judged (.drop (List.Perm.refl _))
  exact (matchWith_eq_holds dropped).2.2 expression

end Workspace

end EventRouting
