import EventRouting.Grammar

set_option autoImplicit false

/- A frame is what remains to be done once the grammar under way has answered, so that deeply nested text
takes no deep recursion. The loop ends because each turn takes at least one off the steps that the meaning
counts. -/
namespace EventRouting.Grammar

variable {Name Value : Type}

/-- What waits for an answer. -/
inductive Frame (Name Value : Type) where
  | sequence (rest : List (Grammar Name Value)) (collect : List Value → Value) (done : List Value)
  | union (rest : List (Grammar Name Value)) (start : Cursor)
  | transform (change : Value → Option Value)
  | forward
  | head (tails : List (Grammar Name Value × (Value → Value → Value)))
  | tail (combine : Value → Value → Value) (left : Value) (start : Cursor)
      (rest : List (Grammar Name Value × (Value → Value → Value)))

/-- What a turn leads to: a grammar to start, with a frame that waits for it, or an answer. -/
inductive Action (Name Value : Type) where
  | call (child : Grammar Name Value) (cursor : Cursor) (frame : Frame Name Value)
  | answer (outcome : Outcome Value)

/-- The first of the tails from where the head ended. -/
def tryTail (left : Value) (cursor : Cursor) :
    List (Grammar Name Value × (Value → Value → Value)) → Action Name Value
  | [] => .answer none
  | (tail, combine) :: rest => .call tail cursor (.tail combine left cursor rest)

/-- What a frame does with an answer. -/
def Frame.resume (frame : Frame Name Value) (outcome : Outcome Value) : Action Name Value :=
  match frame, outcome with
  | sequence _ _ _, none => .answer none
  | sequence [] collect done, some (value, cursor) =>
    .answer (some (collect (value :: done).reverse, cursor))
  | sequence (part :: rest) collect done, some (value, cursor) =>
    .call part cursor (.sequence rest collect (value :: done))
  | union _ _, some found => .answer (some found)
  | union [] _, none => .answer none
  | union (alternative :: rest) start, none => .call alternative start (.union rest start)
  | transform change, outcome =>
    .answer (outcome.bind fun found => (change found.1).map (·, found.2))
  | forward, outcome => .answer outcome
  | head tails, some (left, cursor) => tryTail left cursor tails
  | head _, none => .answer none
  | tail combine left _ _, some (right, cursor) => .answer (some (combine left right, cursor))
  | tail _ left start rest, none => tryTail left start rest

/-- The calls left inside a frame: one less inside a call by name. -/
def Frame.inside : Frame Name Value → Nat → Option Nat
  | forward, 0 => none
  | forward, depth + 1 => some depth
  | _, depth => some depth

/-- The calls left outside a frame: one more once a call by name has answered. -/
def Frame.outside : Frame Name Value → Nat → Nat
  | forward, depth => depth + 1
  | _, depth => depth

theorem Frame.outside_inside {frame : Frame Name Value} {depth inner : Nat}
    (room : frame.inside depth = some inner) : frame.outside inner = depth := by
  cases frame with
  | forward =>
    cases depth with
    | zero => contradiction
    | succ depth => rw [← Option.some.inj room, outside]
  | _ => exact (Option.some.inj room).symm

/-- Where the machine stands after a turn. -/
inductive Turn (Name Value : Type) where
  | ended (result : Except GrammarError (Outcome Value))
  | goes (action : Action Name Value) (frames : List (Frame Name Value))

/-- The calls left after a turn, if there were enough for it. -/
def callsLeft (depth : Nat) : Action Name Value → List (Frame Name Value) → Option Nat
  | .call _ _ frame, _ => frame.inside depth
  | .answer _, [] => some depth
  | .answer _, frame :: _ => some (frame.outside depth)

variable [DecidableEq Name]

/-- The first thing a grammar does at a place. -/
def start (definitions : Definitions Name Value) (grammar : Grammar Name Value) (cursor : Cursor) :
    Except GrammarError (Action Name Value) :=
  match grammar with
  | scan read => .ok (.answer (scanFrom read cursor))
  | sequence [] collect => .ok (.answer (some (collect [], cursor)))
  | sequence (part :: rest) collect => .ok (.call part cursor (.sequence rest collect []))
  | union [] => .ok (.answer none)
  | union (alternative :: rest) => .ok (.call alternative cursor (.union rest cursor))
  | transform inner change => .ok (.call inner cursor (.transform change))
  | forward name =>
    match definitions.find? name with
    | some grammar => .ok (.call grammar cursor .forward)
    | none => .error .unset
  | step head tails => .ok (.call head cursor (.head tails))

/-- Starts a grammar for the frames that wait for it. -/
def enter (definitions : Definitions Name Value) (grammar : Grammar Name Value) (cursor : Cursor)
    (frames : List (Frame Name Value)) : Turn Name Value :=
  match start definitions grammar cursor with
  | .ok action => .goes action frames
  | .error error => .ended (.error error)

/-- One turn of the machine. -/
def Turn.next (definitions : Definitions Name Value) : Turn Name Value → Turn Name Value
  | ended result => ended result
  | goes (.call child cursor frame) frames => enter definitions child cursor (frame :: frames)
  | goes (.answer outcome) [] => ended (.ok outcome)
  | goes (.answer outcome) (frame :: frames) => goes (frame.resume outcome) frames

/-- What the meaning of a grammar makes of an answer where the frame stands. -/
def Frame.meaning (definitions : Definitions Name Value) (depth : Nat) (frame : Frame Name Value)
    (outcome : Outcome Value) : Counted Value :=
  match frame, outcome with
  | sequence rest collect done, some (value, cursor) =>
    evaluateWith.inSequence (callAt definitions depth) collect rest (value :: done) cursor
  | sequence _ _ _, none => .answer none
  | union _ _, some found => .answer (some found)
  | union rest start, none => evaluateWith.inOrder (callAt definitions depth) rest start
  | transform change, outcome =>
    .answer (outcome.bind fun found => (change found.1).map (·, found.2))
  | forward, outcome => .answer outcome
  | head tails, some (left, cursor) =>
    evaluateWith.afterHead (callAt definitions depth) left cursor tails
  | head _, none => .answer none
  | tail combine left _ _, some (right, cursor) => .answer (some (combine left right, cursor))
  | tail _ left start rest, none => evaluateWith.afterHead (callAt definitions depth) left start rest

/-- The meaning of an action on its own. -/
def Action.meaning (definitions : Definitions Name Value) (depth : Nat) :
    Action Name Value → Counted Value
  | call child cursor frame =>
    match frame.inside depth with
    | none => ⟨0, .error .endless⟩
    | some inner => (evaluate definitions inner child cursor).andThen fun outcome =>
      (frame.meaning definitions depth outcome).tick
  | answer outcome => .answer outcome

/-- The meaning of an answer for the frames that wait for it. -/
def unwind (definitions : Definitions Name Value) (depth : Nat) :
    List (Frame Name Value) → Outcome Value → Counted Value
  | [], outcome => .answer outcome
  | frame :: frames, outcome =>
    (frame.meaning definitions (frame.outside depth) outcome).tick.andThen
      (unwind definitions (frame.outside depth) frames)

def Turn.meaning (definitions : Definitions Name Value) (depth : Nat) : Turn Name Value → Counted Value
  | ended result => ⟨0, result⟩
  | goes action frames =>
    ((action.meaning definitions depth).andThen (unwind definitions depth frames)).tick

section Meaning

variable (definitions : Definitions Name Value) (depth : Nat)

theorem inSequence_cons (part : Grammar Name Value) (rest : List (Grammar Name Value))
    (collect : List Value → Value) (done : List Value) (cursor : Cursor) :
    evaluateWith.inSequence (callAt definitions depth) collect (part :: rest) done cursor =
      (Action.call part cursor (.sequence rest collect done)).meaning definitions depth := by
  simp only [evaluateWith.inSequence, Action.meaning, Frame.inside, evaluate]
  congr
  funext outcome
  cases outcome <;> rfl

theorem inOrder_cons (alternative : Grammar Name Value) (rest : List (Grammar Name Value))
    (cursor : Cursor) : evaluateWith.inOrder (callAt definitions depth) (alternative :: rest) cursor =
      (Action.call alternative cursor (.union rest cursor)).meaning definitions depth := by
  simp only [evaluateWith.inOrder, Action.meaning, Frame.inside, evaluate]
  congr
  funext outcome
  cases outcome <;> rfl

theorem afterHead_eq_tryTail (tails : List (Grammar Name Value × (Value → Value → Value)))
    (left : Value) (cursor : Cursor) :
    evaluateWith.afterHead (callAt definitions depth) left cursor tails =
      (tryTail left cursor tails).meaning definitions depth := by
  cases tails with
  | nil => rfl
  | cons tail rest =>
    simp only [evaluateWith.afterHead, tryTail, Action.meaning, Frame.inside, evaluate]
    congr
    funext outcome
    cases outcome <;> rfl

theorem Frame.meaning_eq_resume (frame : Frame Name Value) (outcome : Outcome Value) :
    frame.meaning definitions depth outcome = (frame.resume outcome).meaning definitions depth := by
  cases frame with
  | sequence rest collect done =>
    cases outcome with
    | none => cases rest <;> rfl
    | some found =>
      cases rest with
      | nil => rfl
      | cons part rest => exact inSequence_cons definitions depth part rest collect _ found.2
  | union rest start =>
    cases outcome with
    | none =>
      cases rest with
      | nil => rfl
      | cons alternative rest => exact inOrder_cons definitions depth alternative rest start
    | some found => cases rest <;> rfl
  | transform change => rfl
  | forward => rfl
  | head tails =>
    cases outcome with
    | none => rfl
    | some found => exact afterHead_eq_tryTail definitions depth tails found.1 found.2
  | tail combine left start rest =>
    cases outcome with
    | none => exact afterHead_eq_tryTail definitions depth rest left start
    | some found => rfl

/-- Starting a grammar is the first step of its meaning. -/
theorem evaluate_eq_start {grammar : Grammar Name Value} {cursor : Cursor} {action : Action Name Value}
    (started : start definitions grammar cursor = .ok action) :
    evaluate definitions depth grammar cursor = (action.meaning definitions depth).tick := by
  cases grammar with
  | scan read => exact Except.ok.inj started ▸ rfl
  | sequence parts collect =>
    cases parts with
    | nil => exact Except.ok.inj started ▸ rfl
    | cons part rest =>
      rw [evaluate, evaluateWith, inSequence_cons, Except.ok.inj started]
  | union alternatives =>
    cases alternatives with
    | nil => exact Except.ok.inj started ▸ rfl
    | cons alternative rest =>
      rw [evaluate, evaluateWith, inOrder_cons, Except.ok.inj started]
  | transform inner change => exact Except.ok.inj started ▸ rfl
  | forward name =>
    rw [start] at started
    split at started
    · next grammar found =>
      rw [evaluate, evaluateWith, ← Except.ok.inj started, Action.meaning]
      cases depth <;> rw [callAt, found] <;> rfl
    · contradiction
  | step head tails =>
    rw [evaluate, evaluateWith, ← Except.ok.inj started]
    simp only [Action.meaning, Frame.inside, evaluate]
    congr
    funext outcome
    cases outcome <;> rfl

theorem evaluate_eq_error {grammar : Grammar Name Value} {cursor : Cursor} {error : GrammarError}
    (failed : start definitions grammar cursor = .error error) :
    evaluate definitions depth grammar cursor = ⟨1, .error error⟩ := by
  unfold start at failed
  split at failed
  case h_7 name =>
    split at failed
    · contradiction
    · next absent =>
      rw [evaluate, evaluateWith, ← Except.error.inj failed]
      cases depth <;> rw [callAt, absent] <;> rfl
  all_goals contradiction

/-- A turn leaves the result and takes a step, or more. -/
theorem Turn.next_meaning {action : Action Name Value} {frames : List (Frame Name Value)} {left : Nat}
    (room : callsLeft depth action frames = some left) :
    (((goes action frames).next definitions).meaning definitions left).steps <
        ((goes action frames).meaning definitions depth).steps ∧
      (((goes action frames).next definitions).meaning definitions left).result =
        ((goes action frames).meaning definitions depth).result := by
  cases action with
  | answer outcome =>
    cases frames with
    | nil => exact ⟨Nat.lt_succ_self _, rfl⟩
    | cons frame frames =>
      obtain rfl := Option.some.inj room
      have move : (goes (.answer outcome) (frame :: frames)).meaning definitions depth =
          ((goes (frame.resume outcome) frames).meaning definitions (frame.outside depth)).tick := by
        rw [meaning, Action.meaning, Counted.answer_andThen, unwind, Counted.tick_andThen,
          Frame.meaning_eq_resume, meaning]
      exact ⟨Counted.steps_lt move, Counted.result_eq move⟩
  | call child cursor frame =>
    have opened : (goes (.call child cursor frame) frames).meaning definitions depth =
        ((evaluate definitions left child cursor).andThen
          (unwind definitions left (frame :: frames))).tick := by
      have room : frame.inside depth = some left := room
      rw [meaning, Action.meaning, room]
      dsimp only
      rw [Counted.andThen_assoc]
      congr
      funext outcome
      rw [unwind, Frame.outside_inside room]
    rw [opened, next, enter]
    split
    · next action started =>
      rw [evaluate_eq_start definitions left started, Counted.tick_andThen, meaning]
      exact ⟨Nat.lt_succ_self _, rfl⟩
    · next error failed =>
      rw [evaluate_eq_error definitions left failed]
      exact ⟨Nat.zero_lt_succ _, rfl⟩

end Meaning

/-- Turns until the machine ends, with at most `depth` calls by name inside each other. -/
def loop (definitions : Definitions Name Value) (depth : Nat) (turn : Turn Name Value) :
    Except GrammarError (Outcome Value) :=
  match turn with
  | .ended result => result
  | .goes action frames =>
    match _room : callsLeft depth action frames with
    | none => .error .endless
    | some left => loop definitions left ((Turn.goes action frames).next definitions)
termination_by (turn.meaning definitions depth).steps
decreasing_by exact (Turn.next_meaning definitions depth _room).1

theorem loop_eq_meaning (definitions : Definitions Name Value) (depth : Nat) (turn : Turn Name Value) :
    loop definitions depth turn = (turn.meaning definitions depth).result := by
  fun_induction loop definitions depth turn with
  | case1 => rfl
  | case2 depth action frames full =>
    cases action with
    | answer outcome => cases frames <;> contradiction
    | call child cursor frame =>
      have full : frame.inside depth = none := full
      rw [Turn.meaning, Action.meaning, full]
      rfl
  | case3 depth action frames left room ih => exact ih.trans (Turn.next_meaning definitions depth room).2

/-- The outcome of a grammar at the start of a text. -/
def run (definitions : Definitions Name Value) (grammar : Grammar Name Value) (text : List Char) :
    Except GrammarError (Outcome Value) :=
  loop definitions (budget definitions text) (enter definitions grammar (.start text) [])

theorem enter_meaning (definitions : Definitions Name Value) (depth : Nat)
    (grammar : Grammar Name Value) (cursor : Cursor) :
    ((enter definitions grammar cursor []).meaning definitions depth).result =
      (evaluate definitions depth grammar cursor).result := by
  rw [enter]
  split
  · next action started =>
    have nothing : unwind definitions depth [] = Counted.answer := funext fun outcome => rfl
    rw [evaluate_eq_start definitions depth started, Turn.meaning, nothing, Counted.andThen_answer]
  · next error failed =>
    rw [evaluate_eq_error definitions depth failed]
    rfl

theorem run_eq_evaluate (definitions : Definitions Name Value) (grammar : Grammar Name Value)
    (text : List Char) : run definitions grammar text =
      (evaluate definitions (budget definitions text) grammar (.start text)).result := by
  rw [run, loop_eq_meaning, enter_meaning]

/-- Reads a prefix of a text: its value and what is left, or no match. -/
def parse (definitions : Definitions Name Value) (grammar : Grammar Name Value) (text : List Char) :
    Except GrammarError (Option (Value × List Char)) :=
  (run definitions grammar text).map (·.map fun found => (found.1, found.2.ahead))

end EventRouting.Grammar
