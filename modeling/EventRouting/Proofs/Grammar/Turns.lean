import EventRouting.Proofs.Grammar.Budget

set_option autoImplicit false

namespace EventRouting.Grammar

variable {Name Value : Type} [DecidableEq Name] {definitions : Definitions Name Value}
  {turn : Turn Name Value} {result : Except GrammarError (Outcome Value)}

/-- After some turns there is a result. -/
def Turn.Ends (definitions : Definitions Name Value) (turn : Turn Name Value)
    (result : Except GrammarError (Outcome Value)) : Prop :=
  ∃ count, (Turn.next definitions)^[count] turn = .ended result

/-- After any number of turns there is more to do. -/
def Turn.Endless (definitions : Definitions Name Value) (turn : Turn Name Value) : Prop :=
  ∀ count, ∃ action frames, (Turn.next definitions)^[count] turn = .goes action frames

theorem Turn.endless_iff : turn.Endless definitions ↔ ∀ result, ¬ turn.Ends definitions result := by
  constructor
  · rintro endless result ⟨count, ended⟩
    obtain ⟨action, frames, goes⟩ := endless count
    exact absurd (goes.symm.trans ended) (by simp)
  · intro none count
    cases stands : (Turn.next definitions)^[count] turn with
    | ended result => exact absurd ⟨count, stands⟩ (none result)
    | goes action frames => exact ⟨action, frames, rfl⟩

theorem Turn.ended_next (count : Nat) :
    (Turn.next definitions)^[count] (.ended result) = .ended result :=
  Function.iterate_fixed rfl count

/-- The machine itself counts no calls. -/
theorem enter_ne_endless (grammar : Grammar Name Value) (cursor : Cursor)
    (frames : List (Frame Name Value)) :
    enter definitions grammar cursor frames ≠ .ended (.error .endless) := by
  unfold enter
  split
  · simp
  · next error failed =>
    unfold start at failed
    split at failed
    case h_7 name =>
      split at failed
      · contradiction
      · rw [← Except.error.inj failed]
        simp
    all_goals contradiction

theorem Turn.next_ne_endless (sane : turn ≠ .ended (.error .endless)) :
    turn.next definitions ≠ .ended (.error .endless) := by
  fun_cases Turn.next definitions turn with
  | case1 result => exact sane
  | case2 child cursor frame frames => exact enter_ne_endless child cursor (frame :: frames)
  | case3 outcome => simp
  | case4 outcome frame frames => simp

theorem Turn.Ends.ne_endless (ends : turn.Ends definitions result)
    (sane : turn ≠ .ended (.error .endless)) : result ≠ .error .endless := by
  obtain ⟨count, ended⟩ := ends
  rintro rfl
  induction count generalizing turn with
  | zero => exact sane ended
  | succ count ih => exact ih (Turn.next_ne_endless sane) ended

omit [DecidableEq Name] in
/-- A turn needs one call by name at most. -/
theorem callsLeft_of_lt {depth count : Nat} (room : count < depth) (action : Action Name Value)
    (frames : List (Frame Name Value)) :
    ∃ left, callsLeft depth action frames = some left ∧ count ≤ left := by
  cases action with
  | answer outcome =>
    cases frames with
    | nil => exact ⟨depth, rfl, room.le⟩
    | cons frame frames =>
      refine ⟨_, rfl, ?_⟩
      cases frame <;> simp only [Frame.outside] <;> omega
  | call child cursor frame =>
    cases frame with
    | forward =>
      cases depth with
      | zero => contradiction
      | succ depth => exact ⟨depth, rfl, Nat.le_of_lt_succ room⟩
    | _ => exact ⟨depth, rfl, room.le⟩

theorem loop_goes {depth left : Nat} {action : Action Name Value} {frames : List (Frame Name Value)}
    (room : callsLeft depth action frames = some left) :
    loop definitions depth (.goes action frames) =
      loop definitions left ((Turn.goes action frames).next definitions) := by
  rw [loop]
  split
  · next full => rw [full] at room; contradiction
  · next other found => rw [Option.some.inj (found.symm.trans room)]

theorem loop_eq_of_ended {count depth : Nat} (ended : (Turn.next definitions)^[count] turn = .ended result)
    (room : count ≤ depth) : loop definitions depth turn = result := by
  induction count generalizing depth turn with
  | zero =>
    obtain rfl : turn = .ended result := ended
    rw [loop]
  | succ count ih =>
    cases turn with
    | ended early =>
      obtain rfl : early = result := by simpa [Turn.ended_next] using ended
      rw [loop]
    | goes action frames =>
      obtain ⟨left, opened, enough⟩ := callsLeft_of_lt room action frames
      rw [loop_goes opened]
      exact ih ended enough

theorem ends_of_loop {depth : Nat} (looped : loop definitions depth turn = result)
    (enough : result ≠ .error .endless) : turn.Ends definitions result := by
  fun_induction loop definitions depth turn with
  | case1 depth early => exact ⟨0, congrArg Turn.ended looped⟩
  | case2 => exact absurd looped.symm enough
  | case3 depth action frames left room ih =>
    obtain ⟨count, ended⟩ := ih looped
    exact ⟨count + 1, ended⟩

theorem ends_iff_derives (definitions : Definitions Name Value) (grammar : Grammar Name Value)
    (cursor : Cursor) (result : Except GrammarError (Outcome Value)) :
    (enter definitions grammar cursor []).Ends definitions result ↔
      Derives definitions grammar cursor result := by
  constructor
  · rintro ⟨count, ended⟩
    have looped := loop_eq_of_ended ended le_rfl
    rw [loop_eq_meaning, enter_meaning] at looped
    exact derives_of_evaluate looped
      (Turn.Ends.ne_endless ⟨count, ended⟩ (enter_ne_endless grammar cursor []))
  · intro derived
    have evaluated := derived.evaluate_eq
    rw [← enter_meaning, ← loop_eq_meaning] at evaluated
    refine ends_of_loop evaluated ?_
    rintro rfl
    exact absurd derived.error_eq_unset (by decide)

/-- The machine ends with what the rules of inference derive and with nothing else, and goes on for ever
where they derive nothing. With a budget of calls it has the same results, and says so where it would go
on for ever. -/
theorem machine_ends_iff_derives (definitions : Definitions Name Value) (grammar : Grammar Name Value)
    (text : List Char) :
    (∀ result, (enter definitions grammar (.start text) []).Ends definitions result ↔
      Derives definitions grammar (.start text) result) ∧
    ((enter definitions grammar (.start text) []).Endless definitions ↔
      ∀ result, ¬ Derives definitions grammar (.start text) result) ∧
    ∀ result, run definitions grammar text = result ↔
      Derives definitions grammar (.start text) result ∨
        result = .error .endless ∧ ∀ other, ¬ Derives definitions grammar (.start text) other := by
  refine ⟨ends_iff_derives definitions grammar (.start text), ?_, fun result => ?_⟩
  · rw [Turn.endless_iff]
    exact forall_congr' fun result => not_congr (ends_iff_derives definitions grammar (.start text) result)
  · rw [run_eq_evaluate]
    exact evaluate_eq_iff_derives definitions grammar (.start text) result

end EventRouting.Grammar
