import EventRouting.Proofs.Grammar.Reading

set_option autoImplicit false

namespace EventRouting

theorem Counted.andThen_eq_ok {Value : Type} {first : Counted Value}
    {next : Outcome Value → Counted Value}
    {outcome : Outcome Value} (ended : (first.andThen next).result = .ok outcome) :
    ∃ early, first.result = .ok early ∧ (next early).result = .ok outcome := by
  unfold Counted.andThen at ended
  split at ended
  · rename_i early same
    exact ⟨early, same, ended⟩
  · contradiction

namespace Grammar

variable {Name Value : Type} {property : Value → Prop}

/-- Whatever comes out has the property. -/
def Keeps (property : Value → Prop) (counted : Counted Value) : Prop :=
  ∀ value after, counted.result = .ok (some (value, after)) → property value

/-- The values of a grammar have the property, if those of the grammars it calls have it. -/
def Gives (property : Value → Prop) (grammar : Grammar Name Value) : Prop :=
  ∀ call : Name → Cursor → Counted Value, (∀ name cursor, Keeps property (call name cursor)) →
    ∀ cursor, Keeps property (evaluateWith call grammar cursor)

theorem Gives.scan {read : Cursor → Option (Value × Nat)}
    (known : ∀ cursor value count, read cursor = some (value, count) → property value) :
    Gives property (.scan read : Grammar Name Value) := by
  intro call _ cursor value after ended
  have scanned := Except.ok.inj ended
  rw [scanFrom, Option.map_eq_some_iff] at scanned
  obtain ⟨⟨found, count⟩, read, same⟩ := scanned
  obtain ⟨rfl, -⟩ := Prod.mk.inj same
  exact known cursor found count read

theorem Gives.transform {inner : Grammar Name Value} {change : Value → Option Value}
    (gives : Gives property inner)
    (kept : ∀ value changed, property value → change value = some changed → property changed) :
    Gives property (.transform inner change) := by
  intro call calls cursor value after ended
  obtain ⟨outcome, early, late⟩ :=
    Counted.andThen_eq_ok (by rwa [evaluateWith, Counted.result_tick] at ended)
  have changed := Except.ok.inj late
  rw [Option.bind_eq_some_iff] at changed
  obtain ⟨⟨found, place⟩, rfl, same⟩ := changed
  rw [Option.map_eq_some_iff] at same
  obtain ⟨changed, same, pair⟩ := same
  obtain ⟨rfl, -⟩ := Prod.mk.inj pair
  exact kept found changed (gives call calls cursor found place early) same

theorem Gives.forward {name : Name} : Gives property (.forward name) := by
  intro call calls cursor value after ended
  obtain ⟨outcome, early, late⟩ :=
    Counted.andThen_eq_ok (by rwa [evaluateWith, Counted.result_tick] at ended)
  obtain rfl := Except.ok.inj late
  exact calls name cursor value after early

theorem Gives.union_nil : Gives property (.union [] : Grammar Name Value) := by
  intro call calls cursor value after ended
  exact absurd (Except.ok.inj ended) (by simp)

theorem Gives.union_cons {alternative : Grammar Name Value} {rest : List (Grammar Name Value)}
    (first : Gives property alternative) (others : Gives property (.union rest)) :
    Gives property (.union (alternative :: rest)) := by
  intro call calls cursor value after ended
  rw [evaluateWith, Counted.result_tick, evaluateWith.inOrder] at ended
  obtain ⟨outcome, early, late⟩ := Counted.andThen_eq_ok ended
  cases outcome with
  | none =>
    apply others call calls cursor value after
    rw [evaluateWith]
    exact late
  | some found =>
    obtain rfl := Option.some.inj (Except.ok.inj late)
    exact first call calls cursor value after early

theorem Gives.sequence {parts : List (Grammar Name Value)} {collect : List Value → Value}
    (gives : ∀ part ∈ parts, Gives property part)
    (kept : ∀ values, (∀ value ∈ values, property value) → property (collect values)) :
    Gives property (.sequence parts collect) := by
  intro call calls cursor value after ended
  rw [evaluateWith, Counted.result_tick] at ended
  suffices general : ∀ done cursor, (∀ value ∈ done, property value) →
      Keeps property (evaluateWith.inSequence call collect parts done cursor) from
    general [] cursor (by simp) value after ended
  clear ended
  induction parts with
  | nil =>
    intro done cursor known value after ended
    obtain ⟨rfl, -⟩ := Prod.mk.inj (Option.some.inj (Except.ok.inj ended))
    exact kept _ fun value inside => known value (List.mem_reverse.1 inside)
  | cons part rest ih =>
    intro done cursor known value after ended
    rw [evaluateWith.inSequence] at ended
    obtain ⟨outcome, early, late⟩ := Counted.andThen_eq_ok ended
    cases outcome with
    | none => exact absurd (Except.ok.inj late) (by simp)
    | some found =>
      refine ih (fun other inside => gives other (List.mem_cons_of_mem _ inside))
        (found.1 :: done) found.2 ?_
        value after late
      intro value inside
      rcases List.mem_cons.1 inside with rfl | inside
      · exact gives part List.mem_cons_self call calls cursor _ _ early
      · exact known value inside

theorem Gives.step {head : Grammar Name Value}
    {tails : List (Grammar Name Value × (Value → Value → Value))} (first : Gives property head)
    (gives : ∀ tail ∈ tails, Gives property tail.1)
    (kept : ∀ tail ∈ tails, ∀ left right, property left → property right →
      property (tail.2 left right)) :
    Gives property (.step head tails) := by
  intro call calls cursor value after ended
  rw [evaluateWith, Counted.result_tick] at ended
  obtain ⟨outcome, early, late⟩ := Counted.andThen_eq_ok ended
  cases outcome with
  | none => exact absurd (Except.ok.inj late) (by simp)
  | some found =>
    have left := first call calls cursor _ _ early
    rw [Counted.result_tick] at late
    clear ended early
    induction tails with
    | nil => exact absurd (Except.ok.inj late) (by simp)
    | cons tail rest ih =>
      rw [evaluateWith.afterHead] at late
      obtain ⟨outcome, early, late⟩ := Counted.andThen_eq_ok late
      cases outcome with
      | none =>
        exact ih (fun other inside => gives other (List.mem_cons_of_mem _ inside))
          (fun other inside => kept other (List.mem_cons_of_mem _ inside)) late
      | some more =>
        obtain ⟨rfl, -⟩ := Prod.mk.inj (Option.some.inj (Except.ok.inj late))
        exact kept tail List.mem_cons_self _ _ left
          (gives tail List.mem_cons_self call calls _ _ _ early)

theorem Gives.epsilon {value : Value} (known : property value) :
    Gives property (.epsilon value : Grammar Name Value) :=
  .scan fun _ _ _ same => (Prod.mk.inj (Option.some.inj same)).1 ▸ known

theorem Gives.map {inner : Grammar Name Value} {change : Value → Value} (gives : Gives property inner)
    (kept : ∀ value, property value → property (change value)) : Gives property (inner.map change) :=
  gives.transform fun value _ known same => Option.some.inj same ▸ kept value known

theorem Gives.maybe {inner : Grammar Name Value} {present : Value → Value} {absent : Value}
    (gives : Gives property inner) (kept : ∀ value, property value → property (present value))
    (known : property absent) : Gives property (inner.maybe present absent) :=
  .union_cons (gives.map kept) (.union_cons (.epsilon known) .union_nil)

section Pairs

variable [Inhabited Value] {first second : Grammar Name Value}

theorem Gives.andThen (front : Gives property first) (back : Gives property second)
    (known : property default) : Gives property (first.andThen second) := by
  refine .sequence (by simpa using ⟨front, back⟩) ?_
  intro values all
  split
  · exact all _ (by simp)
  · exact known

theorem Gives.andSkip (front : Gives property first) (back : Gives property second)
    (known : property default) : Gives property (first.andSkip second) := by
  refine .sequence (by simpa using ⟨front, back⟩) ?_
  intro values all
  split
  · exact all _ (by simp)
  · exact known

end Pairs

variable [DecidableEq Name] {definitions : Definitions Name Value}

/-- Calls keep the property, to any depth. -/
theorem keeps_callAt (gives : ∀ name grammar, definitions.find? name = some grammar →
      Gives property grammar)
    (depth : Nat) (name : Name) (cursor : Cursor) :
    Keeps property (callAt definitions depth name cursor) := by
  induction depth generalizing name cursor with
  | zero =>
    intro value after ended
    rw [callAt] at ended
    contradiction
  | succ depth ih =>
    rw [callAt]
    split
    · rename_i grammar found
      exact gives name grammar found _ ih cursor
    · intro value after ended
      contradiction

theorem property_of_parse {grammar : Grammar Name Value} {text rest : List Char} {value : Value}
    (gives : ∀ name grammar, definitions.find? name = some grammar → Gives property grammar)
    (start : Gives property grammar) (parsed : parse definitions grammar text = .ok (some (value, rest))) :
    property value := by
  rw [parse_eq] at parsed
  have keeps := start _ (keeps_callAt gives (budget definitions text)) (.start text)
  rw [← evaluate] at keeps
  cases ended : (evaluate definitions (budget definitions text) grammar (.start text)).result with
  | error error => rw [ended] at parsed; contradiction
  | ok outcome =>
    rw [ended] at parsed
    have same := Except.ok.inj parsed
    rw [Option.map_eq_some_iff] at same
    obtain ⟨⟨found, place⟩, rfl, pair⟩ := same
    obtain ⟨rfl, -⟩ := Prod.mk.inj pair
    exact keeps found place ended

end Grammar

end EventRouting
