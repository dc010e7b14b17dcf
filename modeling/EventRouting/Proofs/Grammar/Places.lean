import EventRouting.Proofs.Grammar.Inversion
import EventRouting.Proofs.Grammar.Turns

set_option autoImplicit false

namespace EventRouting

namespace Cursor

/-- The place in the encoded text. -/
def offset (cursor : Cursor) : String.Pos.Raw := (String.ofList cursor.behind.reverse).rawEndPos

/-- A place in a text stands between two of its characters, or at an end. -/
theorem isValid_offset {text : String} {cursor : Cursor} (inside : cursor.text = text.toList) :
    cursor.offset.IsValid text := by
  rw [String.Pos.Raw.isValid_iff_exists_append]
  refine ⟨String.ofList cursor.behind.reverse, String.ofList cursor.ahead, ?_, rfl⟩
  rw [← String.ofList_append, ← text.ofList_toList, ← inside, Cursor.text]

/-- Reading on keeps the property of a place. -/
def Onward (inside : Cursor → Prop) : Prop :=
  ∀ count cursor, inside cursor → inside (cursor.advance count)

theorem onward_text (text : List Char) : Onward (·.text = text) :=
  fun count cursor inside => (cursor.text_advance count).trans inside

theorem onward_ahead (most : Nat) : Onward (·.ahead.length ≤ most) :=
  fun count cursor inside => (cursor.spans_advance count).length_le.trans inside

theorem Onward.and {first second : Cursor → Prop} (left : Onward first) (right : Onward second) :
    Onward fun cursor => first cursor ∧ second cursor :=
  fun count cursor inside => ⟨left count cursor inside.1, right count cursor inside.2⟩

/-- Two places in one text with as much ahead are the same. -/
theorem eq_of_text {first second : Cursor} (same : first.text = second.text)
    (length : first.ahead.length = second.ahead.length) : first = second := by
  obtain ⟨behind, ahead⟩ := List.append_inj' same length
  cases first
  cases second
  exact congrArg₂ Cursor.mk (List.reverse_injective behind) ahead

end Cursor

namespace Grammar

variable {Name Value : Type}

/-- All scans that the grammar itself is made of have the property. -/
inductive EveryScan (property : (Cursor → Option (Value × Nat)) → Prop) :
    Grammar Name Value → Prop where
  | scan {read : Cursor → Option (Value × Nat)} (holds : property read) : EveryScan property (.scan read)
  | sequence {parts : List (Grammar Name Value)} {collect : List Value → Value}
    (every : ∀ part ∈ parts, EveryScan property part) : EveryScan property (.sequence parts collect)
  | union {alternatives : List (Grammar Name Value)}
    (every : ∀ alternative ∈ alternatives, EveryScan property alternative) :
    EveryScan property (.union alternatives)
  | transform {inner : Grammar Name Value} {change : Value → Option Value}
    (inside : EveryScan property inner) : EveryScan property (.transform inner change)
  | forward {name : Name} : EveryScan property (.forward name)
  | step {head : Grammar Name Value} {tails : List (Grammar Name Value × (Value → Value → Value))}
    (first : EveryScan property head) (every : ∀ tail ∈ tails, EveryScan property tail.1) :
    EveryScan property (.step head tails)

namespace EveryScan

variable {property : (Cursor → Option (Value × Nat)) → Prop} {inner first second : Grammar Name Value}

theorem of_forall (always : ∀ read, property read) (grammar : Grammar Name Value) :
    EveryScan property grammar := by
  induction grammar using parts_induction with
  | scan read => exact .scan (always read)
  | sequence parts collect ih => exact .sequence ih
  | union alternatives ih => exact .union ih
  | transform inner change ih => exact .transform ih
  | forward name => exact .forward
  | step head tails ihHead ihTails => exact .step ihHead ihTails

theorem map {change : Value → Value} (every : EveryScan property inner) :
    EveryScan property (inner.map change) :=
  .transform every

theorem maybe {present : Value → Value} {absent : Value} (every : EveryScan property inner)
    (nothing : EveryScan property (.epsilon absent : Grammar Name Value)) :
    EveryScan property (inner.maybe present absent) :=
  .union (List.forall_mem_cons.2 ⟨every.map, List.forall_mem_singleton.2 nothing⟩)

variable [Inhabited Value]

theorem andThen (front : EveryScan property first) (back : EveryScan property second) :
    EveryScan property (first.andThen second) :=
  .sequence (List.forall_mem_cons.2 ⟨front, List.forall_mem_singleton.2 back⟩)

theorem andSkip (front : EveryScan property first) (back : EveryScan property second) :
    EveryScan property (first.andSkip second) :=
  .sequence (List.forall_mem_cons.2 ⟨front, List.forall_mem_singleton.2 back⟩)

end EveryScan

section Keeping

variable (property : (Cursor → Option (Value × Nat)) → Prop) (inside : Cursor → Prop)

def Frame.Keeps : Frame Name Value → Prop
  | sequence rest _ _ => ∀ part ∈ rest, EveryScan property part
  | union rest start => (∀ alternative ∈ rest, EveryScan property alternative) ∧ inside start
  | transform _ => True
  | forward => True
  | head tails => ∀ tail ∈ tails, EveryScan property tail.1
  | tail _ _ start rest => (∀ tail ∈ rest, EveryScan property tail.1) ∧ inside start

def Action.Keeps : Action Name Value → Prop
  | call child cursor frame => EveryScan property child ∧ inside cursor ∧ frame.Keeps property inside
  | answer outcome => ∀ found ∈ outcome, inside found.2

/-- Everything still to be done keeps to the property and to the places. -/
def Turn.Keeps : Turn Name Value → Prop
  | ended _ => True
  | goes action frames => action.Keeps property inside ∧ ∀ frame ∈ frames, frame.Keeps property inside

end Keeping

section Steps

variable {property : (Cursor → Option (Value × Nat)) → Prop} {inside : Cursor → Prop}

theorem keeps_tryTail {tails : List (Grammar Name Value × (Value → Value → Value))} (left : Value)
    {cursor : Cursor} (every : ∀ tail ∈ tails, EveryScan property tail.1) (here : inside cursor) :
    (tryTail left cursor tails).Keeps property inside := by
  cases tails with
  | nil => simp [tryTail, Action.Keeps]
  | cons tail rest =>
    rw [List.forall_mem_cons] at every
    exact ⟨every.1, here, every.2, here⟩

theorem Frame.Keeps.resume {frame : Frame Name Value} {outcome : Outcome Value}
    (keeps : frame.Keeps property inside) (stays : ∀ found ∈ outcome, inside found.2) :
    (frame.resume outcome).Keeps property inside := by
  cases frame with
  | sequence rest collect done =>
    cases outcome with
    | none => cases rest <;> exact stays
    | some found =>
      cases rest with
      | nil => simpa [Frame.resume, Action.Keeps] using stays
      | cons part rest =>
        obtain ⟨first, others⟩ := List.forall_mem_cons.1 keeps
        exact ⟨first, stays found rfl, others⟩
  | union rest start =>
    cases outcome with
    | some found => cases rest <;> exact stays
    | none =>
      cases rest with
      | nil => exact stays
      | cons alternative rest =>
        obtain ⟨every, here⟩ := keeps
        rw [List.forall_mem_cons] at every
        exact ⟨every.1, here, every.2, here⟩
  | transform change => exact stays_bind inside stays change
  | forward => exact stays
  | head tails =>
    cases outcome with
    | none => exact stays
    | some found => exact keeps_tryTail found.1 keeps (stays found rfl)
  | tail combine left start rest =>
    cases outcome with
    | none => exact keeps_tryTail left keeps.1 keeps.2
    | some found => simpa [Frame.resume, Action.Keeps] using stays

variable [DecidableEq Name] {definitions : Definitions Name Value}

theorem EveryScan.start (onward : Cursor.Onward inside)
    (set : ∀ name grammar, definitions.find? name = some grammar → EveryScan property grammar)
    {grammar : Grammar Name Value} {cursor : Cursor} {action : Action Name Value}
    (every : EveryScan property grammar) (here : inside cursor)
    (started : start definitions grammar cursor = .ok action) : action.Keeps property inside := by
  cases every with
  | @scan read holds =>
    obtain rfl := Except.ok.inj started
    intro found scanned
    obtain ⟨⟨value, count⟩, -, rfl⟩ := Option.map_eq_some_iff.1 scanned
    exact onward count cursor here
  | @sequence parts collect every =>
    cases parts with
    | nil =>
      obtain rfl := Except.ok.inj started
      simpa [Action.Keeps] using here
    | cons part rest =>
      obtain rfl := Except.ok.inj started
      rw [List.forall_mem_cons] at every
      exact ⟨every.1, here, every.2⟩
  | @union alternatives every =>
    cases alternatives with
    | nil =>
      obtain rfl := Except.ok.inj started
      simp [Action.Keeps]
    | cons alternative rest =>
      obtain rfl := Except.ok.inj started
      rw [List.forall_mem_cons] at every
      exact ⟨every.1, here, every.2, here⟩
  | transform every =>
    obtain rfl := Except.ok.inj started
    exact ⟨every, here, trivial⟩
  | @forward name =>
    rw [Grammar.start] at started
    split at started
    · next grammar found =>
      obtain rfl := Except.ok.inj started
      exact ⟨set name grammar found, here, trivial⟩
    · contradiction
  | step first every =>
    obtain rfl := Except.ok.inj started
    exact ⟨first, here, every⟩

theorem EveryScan.enter (onward : Cursor.Onward inside)
    (set : ∀ name grammar, definitions.find? name = some grammar → EveryScan property grammar)
    {grammar : Grammar Name Value} {cursor : Cursor} {frames : List (Frame Name Value)}
    (every : EveryScan property grammar) (here : inside cursor)
    (below : ∀ frame ∈ frames, frame.Keeps property inside) :
    (Grammar.enter definitions grammar cursor frames).Keeps property inside := by
  rw [Grammar.enter]
  split
  · next action started => exact ⟨every.start onward set here started, below⟩
  · trivial

theorem Turn.Keeps.next (onward : Cursor.Onward inside)
    (set : ∀ name grammar, definitions.find? name = some grammar → EveryScan property grammar)
    {turn : Turn Name Value} (keeps : turn.Keeps property inside) :
    (turn.next definitions).Keeps property inside := by
  fun_cases Turn.next definitions turn with
  | case1 result => trivial
  | case2 child cursor frame frames =>
    obtain ⟨⟨every, here, waiting⟩, below⟩ := keeps
    exact every.enter onward set here (List.forall_mem_cons.2 ⟨waiting, below⟩)
  | case3 outcome => trivial
  | case4 outcome frame frames =>
    obtain ⟨stays, below⟩ := keeps
    rw [List.forall_mem_cons] at below
    exact ⟨below.1.resume stays, below.2⟩

/-- Whatever the machine does after it has begun at one of the places. -/
theorem EveryScan.keeps (onward : Cursor.Onward inside)
    (set : ∀ name grammar, definitions.find? name = some grammar → EveryScan property grammar)
    {grammar : Grammar Name Value} {cursor : Cursor} (every : EveryScan property grammar)
    (here : inside cursor) (count : Nat) :
    ((Turn.next definitions)^[count] (Grammar.enter definitions grammar cursor [])).Keeps
      property inside := by
  induction count with
  | zero => exact every.enter onward set here (by simp)
  | succ count ih =>
    rw [Function.iterate_succ_apply']
    exact ih.next onward set

end Steps

section Below

variable [DecidableEq Name] {definitions : Definitions Name Value}

/-- The frames below the ones in use make no difference until these are gone. -/
theorem Turn.next_append {action later : Action Name Value}
    {frames remaining : List (Frame Name Value)} (base : List (Frame Name Value))
    (goes : (Turn.goes action frames).next definitions = .goes later remaining) :
    (Turn.goes action (frames ++ base)).next definitions = .goes later (remaining ++ base) := by
  cases action with
  | call child cursor frame =>
    rw [Turn.next, enter] at goes ⊢
    cases started : start definitions child cursor with
    | error error =>
      rw [started] at goes
      contradiction
    | ok action =>
      rw [started] at goes
      obtain ⟨rfl, rfl⟩ := Turn.goes.inj goes
      rfl
  | answer outcome =>
    cases frames with
    | nil => contradiction
    | cons frame frames =>
      obtain ⟨rfl, rfl⟩ := Turn.goes.inj goes
      rfl

theorem Turn.goes_of_iterate_succ {count : Nat} {turn : Turn Name Value} {action : Action Name Value}
    {frames : List (Frame Name Value)}
    (goes : (Turn.next definitions)^[count + 1] turn = .goes action frames) :
    ∃ early before, (Turn.next definitions)^[count] turn = .goes early before ∧
      (Turn.goes early before).next definitions = .goes action frames := by
  rw [Function.iterate_succ_apply'] at goes
  cases stands : (Turn.next definitions)^[count] turn with
  | ended result =>
    rw [stands] at goes
    contradiction
  | goes early before =>
    rw [stands] at goes
    exact ⟨early, before, rfl, goes⟩

theorem Turn.iterate_append {count : Nat} {action later : Action Name Value}
    {frames remaining : List (Frame Name Value)} (base : List (Frame Name Value))
    (goes : (Turn.next definitions)^[count] (.goes action frames) = .goes later remaining) :
    (Turn.next definitions)^[count] (.goes action (frames ++ base)) = .goes later (remaining ++ base) := by
  induction count generalizing later remaining with
  | zero =>
    obtain ⟨rfl, rfl⟩ := Turn.goes.inj goes
    rfl
  | succ count ih =>
    obtain ⟨early, before, stood, step⟩ := Turn.goes_of_iterate_succ goes
    rw [Function.iterate_succ_apply', ih stood]
    exact Turn.next_append base step

/-- A call that ends makes no call of itself where it stands, however deep inside. -/
theorem Turn.Ends.not_returns {grammar : Grammar Name Value} {cursor : Cursor}
    {result : Except GrammarError (Outcome Value)}
    (ends : (enter definitions grammar cursor []).Ends definitions result) (count : Nat)
    (frame : Frame Name Value) (frames : List (Frame Name Value)) :
    (Turn.next definitions)^[count] (enter definitions grammar cursor []) ≠
      .goes (.call grammar cursor frame) frames := by
  intro returns
  obtain ⟨total, ended⟩ := ends
  -- What follows the return is a shorter run to the end of the same call.
  induction total using Nat.strong_induction_on generalizing result with
  | _ total ih =>
    have later : count < total := by
      by_contra early
      obtain ⟨more, rfl⟩ := Nat.exists_eq_add_of_le' (Nat.le_of_not_lt early)
      rw [Function.iterate_add_apply, ended, Turn.ended_next] at returns
      contradiction
    obtain ⟨left, rfl⟩ := Nat.exists_eq_add_of_le' later
    rw [Function.iterate_add_apply, Function.iterate_succ_apply', returns, Turn.next] at ended
    cases stands : (Turn.next definitions)^[left] (enter definitions grammar cursor []) with
    | ended early => exact ih left (by omega) stands
    | goes action remaining =>
      cases started : start definitions grammar cursor with
      | error error =>
        rw [enter, started, Turn.ended_next] at stands
        contradiction
      | ok first =>
        rw [enter, started] at stands ended
        have lower := Turn.iterate_append (frame :: frames) stands
        rw [List.nil_append] at lower
        exact absurd (ended.symm.trans lower) (by simp)

/-- A call that ends calls the same grammar only further on. -/
theorem Turn.Ends.shorter_of_return {grammar : Grammar Name Value} {cursor place : Cursor}
    {result : Except GrammarError (Outcome Value)} {count : Nat} {frame : Frame Name Value}
    {frames : List (Frame Name Value)}
    (ends : (enter definitions grammar cursor []).Ends definitions result)
    (returns : (Turn.next definitions)^[count] (enter definitions grammar cursor []) =
      .goes (.call grammar place frame) frames) : place.ahead.length < cursor.ahead.length := by
  have onward := (Cursor.onward_text cursor.text).and (Cursor.onward_ahead cursor.ahead.length)
  have every : ∀ grammar : Grammar Name Value, EveryScan (fun _ => True) grammar :=
    .of_forall fun _ => trivial
  have set : ∀ name grammar, definitions.find? name = some grammar →
      EveryScan (fun _ => True) grammar :=
    fun _ grammar _ => every grammar
  have keeps := (every grammar).keeps onward set ⟨rfl, le_rfl⟩ count
  rw [returns] at keeps
  obtain ⟨⟨-, ⟨same, notBefore⟩, -⟩, -⟩ := keeps
  apply Nat.lt_of_le_of_ne notBefore
  intro length
  rw [Cursor.eq_of_text same length] at returns
  exact ends.not_returns count frame frames returns

end Below

end Grammar

end EventRouting
