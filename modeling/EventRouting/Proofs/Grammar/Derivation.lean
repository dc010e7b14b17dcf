import EventRouting.Proofs.Grammar.Reading

set_option autoImplicit false

namespace EventRouting

namespace Grammar

variable {Name Value : Type}

@[elab_as_elim]
theorem parts_induction {motive : Grammar Name Value → Prop} (scan : ∀ read, motive (.scan read))
    (sequence : ∀ parts collect, (∀ part ∈ parts, motive part) → motive (.sequence parts collect))
    (union : ∀ alternatives, (∀ alternative ∈ alternatives, motive alternative) →
      motive (.union alternatives))
    (transform : ∀ inner change, motive inner → motive (.transform inner change))
    (forward : ∀ name, motive (.forward name))
    (step : ∀ head tails, motive head → (∀ tail ∈ tails, motive tail.1) →
      motive (.step head tails))
    (grammar : Grammar Name Value) : motive grammar :=
  match grammar with
  | .scan read => scan read
  | .sequence parts collect => sequence parts collect fun part _ =>
    parts_induction scan sequence union transform forward step part
  | .union alternatives => union alternatives fun alternative _ =>
    parts_induction scan sequence union transform forward step alternative
  | .transform inner change => transform inner change
    (parts_induction scan sequence union transform forward step inner)
  | .forward name => forward name
  | .step head tails => step head tails
    (parts_induction scan sequence union transform forward step head) fun tail inside =>
      have : sizeOf tail.1 < sizeOf tails :=
        Nat.lt_trans (Nat.lt_add_right _ (Nat.lt_add_of_pos_left Nat.one_pos))
          (List.sizeOf_lt_of_mem inside)
      parts_induction scan sequence union transform forward step tail.1
termination_by sizeOf grammar

variable [DecidableEq Name]

/-- What a grammar comes to at a place. An error of a part is an error of the whole. -/
inductive Derives (definitions : Definitions Name Value) :
    Grammar Name Value → Cursor → Except GrammarError (Outcome Value) → Prop where
  | scan {read : Cursor → Option (Value × Nat)} {cursor : Cursor} :
    Derives definitions (.scan read) cursor (.ok (scanFrom read cursor))
  | sequenceDone {collect : List Value → Value} {cursor : Cursor} :
    Derives definitions (.sequence [] collect) cursor (.ok (some (collect [], cursor)))
  /-- The first part that fails is the end of a sequence. -/
  | sequenceStop {part : Grammar Name Value} {rest : List (Grammar Name Value)}
    {collect : List Value → Value} {cursor : Cursor} {result : Except GrammarError (Outcome Value)}
    (first : Derives definitions part cursor result) (stops : ∀ found, result ≠ .ok (some found)) :
    Derives definitions (.sequence (part :: rest) collect) cursor result
  /-- The rest begins where the first part ended. -/
  | sequenceNext {part : Grammar Name Value} {rest : List (Grammar Name Value)}
    {collect : List Value → Value} {cursor after : Cursor} {value : Value}
    {result : Except GrammarError (Outcome Value)}
    (first : Derives definitions part cursor (.ok (some (value, after))))
    (others : Derives definitions (.sequence rest fun values => collect (value :: values)) after result) :
    Derives definitions (.sequence (part :: rest) collect) cursor result
  | unionNone {alternatives : List (Grammar Name Value)} {cursor : Cursor}
    (fail : ∀ alternative ∈ alternatives, Derives definitions alternative cursor (.ok none)) :
    Derives definitions (.union alternatives) cursor (.ok none)
  /-- The first alternative that does not fail, each from where the union began. -/
  | unionFirst {failed rest : List (Grammar Name Value)} {alternative : Grammar Name Value}
    {cursor : Cursor} {result : Except GrammarError (Outcome Value)}
    (fail : ∀ other ∈ failed, Derives definitions other cursor (.ok none))
    (first : Derives definitions alternative cursor result) (settles : result ≠ .ok none) :
    Derives definitions (.union (failed ++ alternative :: rest)) cursor result
  | transform {inner : Grammar Name Value} {change : Value → Option Value} {cursor : Cursor}
    {outcome : Outcome Value} (ended : Derives definitions inner cursor (.ok outcome)) :
    Derives definitions (.transform inner change) cursor
      (.ok (outcome.bind fun found => (change found.1).map (·, found.2)))
  | transformError {inner : Grammar Name Value} {change : Value → Option Value} {cursor : Cursor}
    {error : GrammarError} (broke : Derives definitions inner cursor (.error error)) :
    Derives definitions (.transform inner change) cursor (.error error)
  | forward {name : Name} {grammar : Grammar Name Value} {cursor : Cursor}
    {result : Except GrammarError (Outcome Value)} (found : definitions.find? name = some grammar)
    (ended : Derives definitions grammar cursor result) :
    Derives definitions (.forward name) cursor result
  | unset {name : Name} {cursor : Cursor} (absent : definitions.find? name = none) :
    Derives definitions (.forward name) cursor (.error .unset)
  | stepStop {head : Grammar Name Value}
    {tails : List (Grammar Name Value × (Value → Value → Value))} {cursor : Cursor}
    {result : Except GrammarError (Outcome Value)} (first : Derives definitions head cursor result)
    (stops : ∀ found, result ≠ .ok (some found)) :
    Derives definitions (.step head tails) cursor result
  | stepNone {head : Grammar Name Value}
    {tails : List (Grammar Name Value × (Value → Value → Value))}
    {cursor after : Cursor} {left : Value}
    (first : Derives definitions head cursor (.ok (some (left, after))))
    (fail : ∀ tail ∈ tails, Derives definitions tail.1 after (.ok none)) :
    Derives definitions (.step head tails) cursor (.ok none)
  /-- The first tail that does not fail, each from where the head ended. -/
  | stepFirst {head tail : Grammar Name Value}
    {failed rest : List (Grammar Name Value × (Value → Value → Value))}
    {combine : Value → Value → Value} {cursor after last : Cursor} {left right : Value}
    (first : Derives definitions head cursor (.ok (some (left, after))))
    (fail : ∀ other ∈ failed, Derives definitions other.1 after (.ok none))
    (reads : Derives definitions tail after (.ok (some (right, last)))) :
    Derives definitions (.step head (failed ++ (tail, combine) :: rest)) cursor
      (.ok (some (combine left right, last)))
  | stepError {head tail : Grammar Name Value}
    {failed rest : List (Grammar Name Value × (Value → Value → Value))}
    {combine : Value → Value → Value} {cursor after : Cursor} {left : Value} {error : GrammarError}
    (first : Derives definitions head cursor (.ok (some (left, after))))
    (fail : ∀ other ∈ failed, Derives definitions other.1 after (.ok none))
    (broke : Derives definitions tail after (.error error)) :
    Derives definitions (.step head (failed ++ (tail, combine) :: rest)) cursor (.error error)

namespace Derives

variable {definitions : Definitions Name Value} {cursor after : Cursor}
  {result : Except GrammarError (Outcome Value)}

/-- Only a name that is not set is an error. -/
theorem error_eq_unset {grammar : Grammar Name Value} {error : GrammarError}
    (derived : Derives definitions grammar cursor (.error error)) : error = .unset := by
  generalize same : Except.error error = result at derived
  induction derived with
  | sequenceStop _ _ ih => exact ih same
  | sequenceNext _ _ _ ih => exact ih same
  | unionFirst _ _ _ _ ih => exact ih same
  | transformError _ ih => exact ih same
  | forward _ _ ih => exact ih same
  | unset => exact Except.error.inj same
  | stepStop _ _ ih => exact ih same
  | stepError _ _ _ _ _ ih => exact ih same
  | _ => contradiction

end Derives

/-- The result is one of these, unless calls ran out. -/
def Backed (results : Except GrammarError (Outcome Value) → Prop) (counted : Counted Value) : Prop :=
  counted.result ≠ .error .endless → results counted.result

omit [DecidableEq Name] in
theorem Backed.andThen {before results : Except GrammarError (Outcome Value) → Prop}
    {first : Counted Value} {next : Outcome Value → Counted Value} (backed : Backed before first)
    (broken : ∀ error, before (.error error) → results (.error error))
    (more : ∀ outcome, before (.ok outcome) → Backed results (next outcome)) :
    Backed results (first.andThen next) := by
  intro enough
  cases ended : first.result with
  | error error =>
    rw [Counted.result_andThen_error ended] at enough ⊢
    exact broken error (ended ▸ backed (ended ▸ enough))
  | ok outcome =>
    have early : before (.ok outcome) := ended ▸ backed (by simp [ended])
    rw [Counted.result_andThen ended] at enough ⊢
    exact more outcome early enough

section Backing

variable {definitions : Definitions Name Value} {call : Name → Cursor → Counted Value}

/-- What the grammar evaluates to is derived, wherever it begins. -/
def Explained (definitions : Definitions Name Value) (call : Name → Cursor → Counted Value)
    (grammar : Grammar Name Value) : Prop :=
  ∀ cursor, Backed (Derives definitions grammar cursor) (grammar.evaluateWith call cursor)

theorem backed_inSequence {parts : List (Grammar Name Value)}
    (explained : ∀ part ∈ parts, Explained definitions call part) (collect : List Value → Value)
    (cursor : Cursor) : Backed (Derives definitions (.sequence parts collect) cursor)
      (evaluateWith.inSequence call collect parts [] cursor) := by
  induction parts generalizing collect cursor with
  | nil => exact fun _ => .sequenceDone
  | cons part rest ih =>
    rw [List.forall_mem_cons] at explained
    rw [evaluateWith.inSequence]
    refine (explained.1 cursor).andThen (fun error broke => .sequenceStop broke (by simp)) ?_
    intro outcome first
    cases outcome with
    | none => exact fun _ => .sequenceStop first (by simp)
    | some found =>
      intro enough
      have others := ih explained.2 (fun values => collect (found.1 :: values)) found.2
      rw [Counted.result_tick, inSequence_done] at enough ⊢
      exact .sequenceNext first (others enough)

theorem backed_inOrder (failed : List (Grammar Name Value)) {rest : List (Grammar Name Value)}
    {cursor : Cursor}
    (explained : ∀ alternative ∈ rest, Explained definitions call alternative)
    (fail : ∀ other ∈ failed, Derives definitions other cursor (.ok none)) :
    Backed (Derives definitions (.union (failed ++ rest)) cursor)
      (evaluateWith.inOrder call rest cursor) := by
  induction rest generalizing failed with
  | nil => exact fun _ => .unionNone (by simpa using fail)
  | cons alternative rest ih =>
    rw [List.forall_mem_cons] at explained
    rw [evaluateWith.inOrder]
    refine (explained.1 cursor).andThen (fun error broke => .unionFirst fail broke (by simp)) ?_
    intro outcome first
    cases outcome with
    | none =>
      have others := ih _ explained.2
        (List.forall_mem_append.2 ⟨fail, List.forall_mem_singleton.2 first⟩)
      rwa [← List.append_cons] at others
    | some found => exact fun _ => .unionFirst fail first (by simp)

theorem backed_afterHead {head : Grammar Name Value} {cursor after : Cursor} {left : Value}
    (failed : List (Grammar Name Value × (Value → Value → Value)))
    {rest : List (Grammar Name Value × (Value → Value → Value))}
    (first : Derives definitions head cursor (.ok (some (left, after))))
    (explained : ∀ tail ∈ rest, Explained definitions call tail.1)
    (fail : ∀ other ∈ failed, Derives definitions other.1 after (.ok none)) :
    Backed (Derives definitions (.step head (failed ++ rest)) cursor)
      (evaluateWith.afterHead call left after rest) := by
  induction rest generalizing failed with
  | nil => exact fun _ => .stepNone first (by simpa using fail)
  | cons tail rest ih =>
    rw [List.forall_mem_cons] at explained
    rw [evaluateWith.afterHead]
    refine (explained.1 after).andThen (fun error broke => .stepError first fail broke) ?_
    intro outcome reads
    cases outcome with
    | none =>
      have others := ih _ explained.2
        (List.forall_mem_append.2 ⟨fail, List.forall_mem_singleton.2 reads⟩)
      rwa [← List.append_cons] at others
    | some found => exact fun _ => .stepFirst first fail reads

theorem explained_of_calls
    (calls : ∀ name cursor, Backed (Derives definitions (.forward name) cursor) (call name cursor))
    (grammar : Grammar Name Value) : Explained definitions call grammar := by
  induction grammar using parts_induction with
  | scan read => exact fun cursor _ => .scan
  | sequence parts collect ih =>
    intro cursor
    rw [evaluateWith]
    exact backed_inSequence ih collect cursor
  | union alternatives ih =>
    intro cursor
    rw [evaluateWith]
    exact backed_inOrder [] ih (by simp)
  | transform inner change ih =>
    intro cursor
    rw [evaluateWith]
    exact (ih cursor).andThen (fun error broke => .transformError broke) fun outcome ended _ =>
      .transform ended
  | forward name =>
    intro cursor
    rw [evaluateWith]
    exact (calls name cursor).andThen (fun error broke => broke) fun outcome ended _ => ended
  | step head tails ihHead ihTails =>
    intro cursor
    rw [evaluateWith]
    refine (ihHead cursor).andThen (fun error broke => .stepStop broke (by simp)) ?_
    intro outcome first
    cases outcome with
    | none => exact fun _ => .stepStop first (by simp)
    | some found => exact backed_afterHead [] first ihTails (by simp)

/-- To whatever depth calls are followed. -/
theorem backed_callAt (definitions : Definitions Name Value) (depth : Nat) (name : Name)
    (cursor : Cursor) : Backed (Derives definitions (.forward name) cursor)
      (callAt definitions depth name cursor) := by
  induction depth generalizing name cursor with
  | zero =>
    intro enough
    rw [callAt] at enough ⊢
    cases found : definitions.find? name with
    | none => exact .unset found
    | some grammar => simp [found] at enough
  | succ depth ih =>
    rw [callAt]
    split
    · next grammar found =>
      exact fun enough => .forward found (explained_of_calls ih grammar cursor enough)
    · next absent => exact fun _ => .unset absent

theorem derives_of_evaluate {depth : Nat} {grammar : Grammar Name Value} {cursor : Cursor}
    {result : Except GrammarError (Outcome Value)}
    (ended : (evaluate definitions depth grammar cursor).result = result)
    (enough : result ≠ .error .endless) : Derives definitions grammar cursor result := by
  subst ended
  exact explained_of_calls (backed_callAt definitions depth) grammar cursor enough

end Backing

end Grammar

end EventRouting
