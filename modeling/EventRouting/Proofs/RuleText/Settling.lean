import EventRouting.Proofs.RuleText.Grouping

set_option autoImplicit false

namespace EventRouting

namespace Workspace

variable {work : Workspace} {expression : Expression}

/-- In a fresh session a rule is written in the order of the text it was read from. -/
theorem Fresh.build_grouped (fresh : work.Fresh) (flat : expression.Flat) :
    let built := expression.grouped.build work.store
    ∃ after, Run start after ∧ after.Live (.rule built.1) ∧
      built.1.canonical = expression.canonical ∧
      built.1.expression.InOrder (Expression.enroll work.known expression) := by
  intro built
  have sound := fresh.run.sound start_sound
  have told := fresh.run.told start_sound start_told
  obtain ⟨after, -, adds, records⟩ := enrolls_of_flat flat work work.known sound told fresh.records
  exact ⟨after, fresh.run.trans adds.run, adds.live, sound.canonical_grouped told expression,
    records.inOrder (adds.run.sound sound) adds.live⟩

end Workspace

namespace RuleText

open Workspace

theorem scanned_of_canonical {first second : Workspace} {rule next : Rule} (sound : first.Sound)
    (live : first.Live (.rule rule)) (soundNext : second.Sound) (liveNext : second.Live (.rule next))
    (same : next.canonical = rule.canonical) (scanned : rule.form.Every Scanned) :
    next.form.Every Scanned := by
  apply scanned.of_same
  rw [sound.form_eq live, soundNext.form_eq liveNext]
  exact Expression.canonical_eq_iff.1 same

/-- A rule that looks for a word. -/
abbrev word (text : String) : Expression := .fuzzy (.string text)

theorem read?_words :
    RuleText.read? "a and b or b" = some (.either (.both (word "a") (word "b")) (word "b")) ∧
      RuleText.read? "b or a and b" = some (.either (word "b") (.both (word "a") (word "b"))) := by
  have a : Reading .unary (word "a") ['a'] :=
    (LeafText.bare (by decide) (List.forall_mem_singleton.2 rfl) (by decide) (by decide)
      (by decide)).readsOperand
  have b : Reading .unary (word "b") ['b'] :=
    (LeafText.bare (by decide) (List.forall_mem_singleton.2 rfl) (by decide) (by decide)
      (by decide)).readsOperand
  have both := @reading_link .and _ _ _ _ 0 [] a (@Reading.loosen _ _ 1 2 b (by decide))
  have first := @reading_link .or _ _ _ _ 0 [] both (@Reading.loosen _ _ 0 2 b (by decide))
  have second := @reading_link .or _ _ _ _ 0 [] (@Reading.loosen _ _ 1 2 b (by decide))
    (@Reading.loosen _ _ 0 1 both (by decide))
  exact ⟨read?_of_readsWhole (Reading.whole first), read?_of_readsWhole (Reading.whole second)⟩

/-- A rule is read back from its text in a fresh session as a rule of the same normal form. It is written
as before exactly if the operands of each junction stood in the order in which they were completed; and
however it is written, the next session writes it in the same way. -/
theorem text_settles {first second third : Workspace} {text : String} {expression : Expression}
    (run : Run start first) (freshSecond : second.Fresh) (freshThird : third.Fresh)
    (alike : second.kept.isSome = third.kept.isSome) (read : RuleText.read? text = some expression) :
    let rule := (expression.build first.store).1
    ∃ again, RuleText.read? (write rule) = some again ∧
      let next := (again.build second.store).1
      next.canonical = rule.canonical ∧
      (write next = write rule ↔
        rule.expression.InOrder (Expression.enroll second.known rule.expression)) ∧
      ∃ last, RuleText.read? (write next) = some last ∧
        write (last.build third.store).1 = write next := by
  intro rule
  have sound := run.sound start_sound
  have told := run.told start_sound start_told
  obtain ⟨one, toOne, -, form, live, -⟩ := sound.built told expression
  have soundOne := toOne.sound sound
  have flat := soundOne.flat live
  have scanned : rule.form.Every Scanned := (scanned_of_read? read).of_same form
  obtain ⟨two, toTwo, liveNext, same, ordered⟩ := freshSecond.build_grouped flat
  refine ⟨rule.expression.grouped, read?_write soundOne live scanned, ?_⟩
  intro next
  have soundTwo := toTwo.sound start_sound
  have flatNext := soundTwo.flat liveNext
  have scannedNext : next.form.Every Scanned :=
    scanned_of_canonical soundOne live soundTwo liveNext same scanned
  refine ⟨same, ?_, next.expression.grouped, read?_write soundTwo liveNext scannedNext, ?_⟩
  · rw [write_eq_iff soundOne live scanned soundTwo liveNext scannedNext]
    refine ⟨fun equal => ?_, fun inOrder => ordered.unique inOrder flatNext flat same⟩
    have itself : next.expression.InOrder (Expression.enroll second.known rule.expression) := ordered
    rwa [show next.expression = rule.expression from equal] at itself
  · obtain ⟨three, toThree, liveLast, sameLast, orderedLast⟩ := freshThird.build_grouped flatNext
    have soundThree := toThree.sound start_sound
    have scannedLast := scanned_of_canonical soundTwo liveNext soundThree liveLast sameLast scannedNext
    rw [write_eq_iff soundTwo liveNext scannedNext soundThree liveLast scannedLast]
    have registers : third.known = second.known := by rw [known, known, alike]
    rw [registers] at orderedLast
    exact (soundOne.layered live).settled flat (closed_known second) flatNext ordered same
      (soundThree.flat liveLast) orderedLast sameLast

open Expression in
/-- A text that changes once, when all sessions are new. -/
theorem text_settles_words :
    let rule := ((either (both (word "a") (word "b")) (word "b")).build start.store).1
    ∃ again, RuleText.read? (write rule) = some again ∧
      ∃ last, RuleText.read? (write (again.build start.store).1) = some last ∧
        write (last.build start.store).1 = write (again.build start.store).1 := by
  obtain ⟨again, reread, -, -, settled⟩ := text_settles .refl fresh_start fresh_start rfl read?_words.1
  exact ⟨again, reread, settled⟩

/-- The text that a fresh session writes, given an expression in its order and a rule that looks like it. -/
theorem write_ordered {work : Workspace} {expression ordered : Expression} (rule : Rule)
    (fresh : work.Fresh)
    (flat : expression.Flat) (itself : expression.grouped = expression) (flatOrdered : ordered.Flat)
    (inOrder : ordered.InOrder (Expression.enroll work.known expression))
    (same : ordered.canonical = expression.canonical) (formed : rule.form = ordered.normal) :
    write (expression.build work.store).1 = write rule := by
  obtain ⟨after, run, live, made, ascending⟩ := fresh.build_grouped flat
  have sound := run.sound start_sound
  have equal := ascending.unique inOrder (sound.flat live) flatOrdered (made.trans same.symm)
  have forms := (sound.form_eq live).trans ((congrArg Expression.normal equal).trans formed.symm)
  rw [itself] at forms
  rw [write, write, (writeBefore_of_form forms).2]

/-- The first session completes `b` after `a` and before the conjunction, the second one before `a`. -/
theorem text_unsettled : ∃ expression again,
    RuleText.read? "a and b or b" = some expression ∧
      write (expression.build start.store).1 = "b or a and b" ∧
      RuleText.read? "b or a and b" = some again ∧
      write (again.build start.store).1 = "b or b and a" := by
  have flatFirst : (Expression.either (.both (word "a") (word "b")) (word "b")).Flat :=
    .pair (by decide) (.pair (by decide) (.fuzzy _) (.fuzzy _)) (.fuzzy _)
  have flatSecond : (Expression.either (word "b") (.both (word "a") (word "b"))).Flat :=
    .pair (by decide) (.fuzzy _) (.pair (by decide) (.fuzzy _) (.fuzzy _))
  have flatThird : (Expression.either (word "b") (.both (word "b") (word "a"))).Flat :=
    .pair (by decide) (.fuzzy _) (.pair (by decide) (.fuzzy _) (.fuzzy _))
  have inOrder : (Expression.either (word "b") (.both (word "a") (word "b"))).InOrder
      (Expression.enroll start.known (.either (.both (word "a") (word "b")) (word "b"))) :=
    .pair (by decide +kernel) (.fuzzy _) (.pair (by decide +kernel) (.fuzzy _) (.fuzzy _))
  have inOrderAgain : (Expression.either (word "b") (.both (word "b") (word "a"))).InOrder
      (Expression.enroll start.known (.either (word "b") (.both (word "a") (word "b")))) :=
    .pair (by decide +kernel) (.fuzzy _) (.pair (by decide +kernel) (.fuzzy _) (.fuzzy _))
  refine ⟨_, _, read?_words.1, ?_, read?_words.2, ?_⟩
  · rw [write_ordered (.junction 0 .or [.fuzzy 0 ⟨0, .string "b"⟩, .junction 0 .and
      [.fuzzy 0 ⟨0, .string "a"⟩, .fuzzy 0 ⟨0, .string "b"⟩]]) fresh_start flatFirst
      rfl flatSecond inOrder (by decide +kernel) rfl]
    decide +kernel
  · rw [write_ordered (.junction 0 .or [.fuzzy 0 ⟨0, .string "b"⟩, .junction 0 .and
      [.fuzzy 0 ⟨0, .string "b"⟩, .fuzzy 0 ⟨0, .string "a"⟩]]) fresh_start flatSecond
      rfl flatThird inOrderAgain (by decide +kernel) rfl]
    decide +kernel

end RuleText

end EventRouting
