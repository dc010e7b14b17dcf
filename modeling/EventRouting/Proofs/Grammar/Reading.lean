import EventRouting.Grammar.Combinators
import EventRouting.Grammar.Machine

set_option autoImplicit false

namespace EventRouting

namespace Counted

variable {Value : Type}

@[simp] theorem result_answer (outcome : Outcome Value) : (answer outcome).result = .ok outcome := rfl

@[simp] theorem result_tick (counted : Counted Value) : counted.tick.result = counted.result := rfl

theorem result_andThen {first : Counted Value} {outcome : Outcome Value}
    (ended : first.result = .ok outcome) (next : Outcome Value → Counted Value) :
    (first.andThen next).result = (next outcome).result := by
  rw [andThen, ended]

theorem result_andThen_error {first : Counted Value} {error : GrammarError}
    (failed : first.result = .error error) (next : Outcome Value → Counted Value) :
    (first.andThen next).result = .error error := by
  rw [andThen, failed]

end Counted

theorem Cursor.advance_append (behind text rest : List Char) :
    (Cursor.mk behind (text ++ rest)).advance text.length = ⟨text.reverse ++ behind, rest⟩ := by
  induction text generalizing behind with
  | nil => simp [Cursor.advance]
  | cons c more ih =>
    rw [List.cons_append, List.length_cons, Cursor.advance, ih]
    simp

namespace Grammar

variable {Name Value : Type} [DecidableEq Name]

/-- With `least` calls inside each other, or more, the grammar comes to the outcome. -/
def Reads (definitions : Definitions Name Value) (grammar : Grammar Name Value) (cursor : Cursor)
    (least : Nat) (outcome : Outcome Value) : Prop :=
  ∀ depth, least ≤ depth → (evaluate definitions depth grammar cursor).result = .ok outcome

/-- The same for the tails of a step, after its head. -/
def ReadsAfter (definitions : Definitions Name Value) (left : Value) (cursor : Cursor)
    (tails : List (Grammar Name Value × (Value → Value → Value))) (least : Nat)
    (outcome : Outcome Value) : Prop :=
  ∀ depth, least ≤ depth →
    (evaluateWith.afterHead (callAt definitions depth) left cursor tails).result = .ok outcome

variable {definitions : Definitions Name Value} {cursor after : Cursor} {least : Nat}
  {outcome : Outcome Value}

theorem Reads.mono {grammar : Grammar Name Value} {more : Nat} (bound : least ≤ more)
    (reads : Reads definitions grammar cursor least outcome) :
    Reads definitions grammar cursor more outcome :=
  fun depth deep => reads depth (Nat.le_trans bound deep)

theorem Reads.scan (read : Cursor → Option (Value × Nat)) :
    Reads definitions (.scan read) cursor least (scanFrom read cursor) :=
  fun _ _ => rfl

theorem Reads.transform {inner : Grammar Name Value} {change : Value → Option Value}
    (reads : Reads definitions inner cursor least outcome) :
    Reads definitions (.transform inner change) cursor least
      (outcome.bind fun found => (change found.1).map (·, found.2)) := by
  intro depth deep
  have ended := reads depth deep
  rw [evaluate] at ended ⊢
  rw [evaluateWith, Counted.result_tick, Counted.result_andThen ended]
  rfl

theorem Reads.map {inner : Grammar Name Value} (change : Value → Value)
    (reads : Reads definitions inner cursor least outcome) :
    Reads definitions (inner.map change) cursor least
      (outcome.map fun found => (change found.1, found.2)) := by
  cases outcome with
  | none => exact reads.transform
  | some found => exact reads.transform

theorem Reads.map_none {inner : Grammar Name Value} {change : Value → Value}
    (reads : Reads definitions inner cursor least none) :
    Reads definitions (inner.map change) cursor least none :=
  reads.map change

theorem Reads.forward {name : Name} {grammar : Grammar Name Value}
    (found : definitions.find? name = some grammar)
    (reads : Reads definitions grammar cursor least outcome) :
    Reads definitions (.forward name) cursor (least + 1) outcome := by
  intro depth deep
  obtain ⟨depth, rfl⟩ : ∃ inner, depth = inner + 1 := ⟨depth - 1, by omega⟩
  have ended := reads depth (by omega)
  rw [evaluate] at ended ⊢
  have called : (callAt definitions (depth + 1) name cursor).result = .ok outcome := by
    rw [callAt, found]
    exact ended
  rw [evaluateWith, Counted.result_tick, Counted.result_andThen called]
  rfl

theorem Reads.union_nil : Reads definitions (.union []) cursor least none :=
  fun _ _ => rfl

theorem Reads.union_here {alternative : Grammar Name Value} {rest : List (Grammar Name Value)}
    {found : Value × Cursor} (reads : Reads definitions alternative cursor least (some found)) :
    Reads definitions (.union (alternative :: rest)) cursor least (some found) := by
  intro depth deep
  have ended := reads depth deep
  rw [evaluate] at ended ⊢
  rw [evaluateWith, Counted.result_tick, evaluateWith.inOrder, Counted.result_andThen ended]
  rfl

theorem Reads.union_next {alternative : Grammar Name Value} {rest : List (Grammar Name Value)}
    (fails : Reads definitions alternative cursor least none)
    (reads : Reads definitions (.union rest) cursor least outcome) :
    Reads definitions (.union (alternative :: rest)) cursor least outcome := by
  intro depth deep
  have failed := fails depth deep
  have ended := reads depth deep
  rw [evaluate] at failed ended ⊢
  rw [evaluateWith, Counted.result_tick] at ended ⊢
  rw [evaluateWith.inOrder, Counted.result_andThen failed]
  exact ended

theorem Reads.sequence_nil {collect : List Value → Value} :
    Reads definitions (.sequence [] collect) cursor least (some (collect [], cursor)) :=
  fun _ _ => rfl

omit [DecidableEq Name] in
/-- The values read before the rest only matter for what is made of all of them. -/
theorem inSequence_done (call : Name → Cursor → Counted Value) (collect : List Value → Value)
    (rest : List (Grammar Name Value)) (done : List Value) (cursor : Cursor) :
    evaluateWith.inSequence call collect rest done cursor =
      evaluateWith.inSequence call (fun values => collect (done.reverse ++ values)) rest [] cursor := by
  suffices general : ∀ more : List Value,
      evaluateWith.inSequence call collect rest (more ++ done) cursor =
        evaluateWith.inSequence call (fun values => collect (done.reverse ++ values)) rest more cursor from
    general []
  induction rest generalizing cursor with
  | nil =>
    intro more
    rw [evaluateWith.inSequence, evaluateWith.inSequence, List.reverse_append]
  | cons part rest ih =>
    intro more
    rw [evaluateWith.inSequence, evaluateWith.inSequence]
    congr
    funext outcome
    cases outcome with
    | none => rfl
    | some found => exact congrArg Counted.tick (ih found.2 (found.1 :: more))

theorem Reads.sequence_cons {part : Grammar Name Value} {rest : List (Grammar Name Value)}
    {collect : List Value → Value} {value : Value}
    (first : Reads definitions part cursor least (some (value, after)))
    (reads : Reads definitions (.sequence rest fun values => collect (value :: values)) after least
      outcome) :
    Reads definitions (.sequence (part :: rest) collect) cursor least outcome := by
  intro depth deep
  have started := first depth deep
  have ended := reads depth deep
  rw [evaluate] at started ended ⊢
  rw [evaluateWith, Counted.result_tick] at ended ⊢
  rw [evaluateWith.inSequence, Counted.result_andThen started, Counted.result_tick, inSequence_done]
  exact ended

theorem Reads.sequence_none {part : Grammar Name Value} {rest : List (Grammar Name Value)}
    {collect : List Value → Value} (fails : Reads definitions part cursor least none) :
    Reads definitions (.sequence (part :: rest) collect) cursor least none := by
  intro depth deep
  have failed := fails depth deep
  rw [evaluate] at failed ⊢
  rw [evaluateWith, Counted.result_tick, evaluateWith.inSequence, Counted.result_andThen failed]
  rfl

theorem Reads.step {head : Grammar Name Value}
    {tails : List (Grammar Name Value × (Value → Value → Value))} {left : Value}
    (first : Reads definitions head cursor least (some (left, after)))
    (reads : ReadsAfter definitions left after tails least outcome) :
    Reads definitions (.step head tails) cursor least outcome := by
  intro depth deep
  have started := first depth deep
  rw [evaluate] at started ⊢
  rw [evaluateWith, Counted.result_tick, Counted.result_andThen started, Counted.result_tick]
  exact reads depth deep

theorem ReadsAfter.nil {left : Value} : ReadsAfter definitions left cursor [] least none :=
  fun _ _ => rfl

theorem ReadsAfter.here {left right : Value} {tail : Grammar Name Value}
    {combine : Value → Value → Value} {rest : List (Grammar Name Value × (Value → Value → Value))}
    (reads : Reads definitions tail cursor least (some (right, after))) :
    ReadsAfter definitions left cursor ((tail, combine) :: rest) least
      (some (combine left right, after)) := by
  intro depth deep
  have ended := reads depth deep
  rw [evaluate] at ended
  rw [evaluateWith.afterHead, Counted.result_andThen ended]
  rfl

theorem ReadsAfter.next {left : Value} {tail : Grammar Name Value} {combine : Value → Value → Value}
    {rest : List (Grammar Name Value × (Value → Value → Value))}
    (fails : Reads definitions tail cursor least none)
    (reads : ReadsAfter definitions left cursor rest least outcome) :
    ReadsAfter definitions left cursor ((tail, combine) :: rest) least outcome := by
  intro depth deep
  have failed := fails depth deep
  rw [evaluate] at failed
  rw [evaluateWith.afterHead, Counted.result_andThen failed]
  exact reads depth deep

theorem Reads.epsilon (value : Value) :
    Reads definitions (.epsilon value) cursor least (some (value, cursor)) :=
  Reads.scan _

theorem Reads.maybe_some {inner : Grammar Name Value} {present : Value → Value} {absent value : Value}
    (reads : Reads definitions inner cursor least (some (value, after))) :
    Reads definitions (inner.maybe present absent) cursor least (some (present value, after)) :=
  Reads.union_here (reads.map present)

theorem Reads.maybe_none {inner : Grammar Name Value} {present : Value → Value} {absent : Value}
    (fails : Reads definitions inner cursor least none) :
    Reads definitions (inner.maybe present absent) cursor least (some (absent, cursor)) :=
  Reads.union_next (fails.map present) (Reads.union_here (Reads.epsilon absent))

section Pairs

variable [Inhabited Value] {first second : Grammar Name Value} {value other : Value} {last : Cursor}

theorem Reads.andThen (front : Reads definitions first cursor least (some (value, after)))
    (back : Reads definitions second after least (some (other, last))) :
    Reads definitions (first.andThen second) cursor least (some (other, last)) :=
  Reads.sequence_cons front (Reads.sequence_cons back Reads.sequence_nil)

theorem Reads.andThen_first (fails : Reads definitions first cursor least none) :
    Reads definitions (first.andThen second) cursor least none :=
  Reads.sequence_none fails

theorem Reads.andThen_second (front : Reads definitions first cursor least (some (value, after)))
    (fails : Reads definitions second after least none) :
    Reads definitions (first.andThen second) cursor least none :=
  Reads.sequence_cons front (Reads.sequence_none fails)

theorem Reads.andSkip (front : Reads definitions first cursor least (some (value, after)))
    (back : Reads definitions second after least (some (other, last))) :
    Reads definitions (first.andSkip second) cursor least (some (value, last)) :=
  Reads.sequence_cons front (Reads.sequence_cons back Reads.sequence_nil)

end Pairs

theorem parse_eq (grammar : Grammar Name Value) (text : List Char) :
    parse definitions grammar text =
      (evaluate definitions (budget definitions text) grammar (.start text)).result.map
        (·.map fun found => (found.1, found.2.ahead)) := by
  rw [parse, run_eq_evaluate]

/-- What a grammar reads within the budget is what parsing gives. -/
theorem parse_eq_of_reads {grammar : Grammar Name Value} {text : List Char}
    (reads : Reads definitions grammar (.start text) least outcome)
    (enough : least ≤ budget definitions text) :
    parse definitions grammar text = .ok (outcome.map fun found => (found.1, found.2.ahead)) := by
  rw [parse_eq, reads _ enough]
  rfl

end Grammar

end EventRouting
