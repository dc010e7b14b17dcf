import EventRouting.Proofs.Grammar.Inversion

set_option autoImplicit false

namespace EventRouting.Grammar

variable {Name Value : Type} [DecidableEq Name]

/-- From a place a grammar may call a name at another place. -/
inductive MayCall (definitions : Definitions Name Value) :
    Grammar Name Value → Cursor → Name → Cursor → Prop where
  | sequenceFirst {part : Grammar Name Value} {rest : List (Grammar Name Value)}
    {collect : List Value → Value} {cursor place : Cursor} {name : Name}
    (called : MayCall definitions part cursor name place) :
    MayCall definitions (.sequence (part :: rest) collect) cursor name place
  | sequenceNext {part : Grammar Name Value} {rest : List (Grammar Name Value)}
    {collect : List Value → Value} {cursor after place : Cursor} {value : Value} {name : Name}
    (first : Yields definitions part cursor value after)
    (called : MayCall definitions (.sequence rest fun values => collect (value :: values))
      after name place) :
    MayCall definitions (.sequence (part :: rest) collect) cursor name place
  | union {alternatives : List (Grammar Name Value)} {alternative : Grammar Name Value}
    {cursor place : Cursor} {name : Name} (inside : alternative ∈ alternatives)
    (called : MayCall definitions alternative cursor name place) :
    MayCall definitions (.union alternatives) cursor name place
  | transform {inner : Grammar Name Value} {change : Value → Option Value} {cursor place : Cursor}
    {name : Name} (called : MayCall definitions inner cursor name place) :
    MayCall definitions (.transform inner change) cursor name place
  | forward {name : Name} {cursor : Cursor} : MayCall definitions (.forward name) cursor name cursor
  | stepHead {head : Grammar Name Value} {tails : List (Grammar Name Value × (Value → Value → Value))}
    {cursor place : Cursor} {name : Name} (called : MayCall definitions head cursor name place) :
    MayCall definitions (.step head tails) cursor name place
  | stepTail {head : Grammar Name Value} {tails : List (Grammar Name Value × (Value → Value → Value))}
    {tail : Grammar Name Value × (Value → Value → Value)} {cursor after place : Cursor} {value : Value}
    {name : Name} (first : Yields definitions head cursor value after) (inside : tail ∈ tails)
    (called : MayCall definitions tail.1 after name place) :
    MayCall definitions (.step head tails) cursor name place

variable {definitions : Definitions Name Value} {cursor place : Cursor} {name : Name}

@[simp] theorem not_mayCall_scan {read : Cursor → Option (Value × Nat)} :
    ¬ MayCall definitions (.scan read) cursor name place := by
  intro called
  cases called

@[simp] theorem not_mayCall_sequence_nil {collect : List Value → Value} :
    ¬ MayCall definitions (.sequence [] collect) cursor name place := by
  intro called
  cases called

@[simp] theorem mayCall_sequence_cons {part : Grammar Name Value} {rest : List (Grammar Name Value)}
    {collect : List Value → Value} :
    MayCall definitions (.sequence (part :: rest) collect) cursor name place ↔
      MayCall definitions part cursor name place ∨
      ∃ value after, Yields definitions part cursor value after ∧
        MayCall definitions (.sequence rest fun values => collect (value :: values)) after name place := by
  constructor
  · intro called
    cases called with
    | sequenceFirst called => exact Or.inl called
    | sequenceNext first called => exact Or.inr ⟨_, _, first, called⟩
  · rintro (called | ⟨value, after, first, called⟩)
    · exact .sequenceFirst called
    · exact .sequenceNext first called

@[simp] theorem mayCall_union {alternatives : List (Grammar Name Value)} :
    MayCall definitions (.union alternatives) cursor name place ↔
      ∃ alternative ∈ alternatives, MayCall definitions alternative cursor name place := by
  constructor
  · intro called
    cases called with
    | union inside called => exact ⟨_, inside, called⟩
  · rintro ⟨alternative, inside, called⟩
    exact .union inside called

@[simp] theorem mayCall_transform {inner : Grammar Name Value} {change : Value → Option Value} :
    MayCall definitions (.transform inner change) cursor name place ↔
      MayCall definitions inner cursor name place := by
  constructor
  · intro called
    cases called with
    | transform called => exact called
  · exact .transform

@[simp] theorem mayCall_forward {other : Name} :
    MayCall definitions (.forward other) cursor name place ↔ name = other ∧ place = cursor := by
  constructor
  · intro called
    cases called
    exact ⟨rfl, rfl⟩
  · rintro ⟨rfl, rfl⟩
    exact .forward

@[simp] theorem mayCall_step {head : Grammar Name Value}
    {tails : List (Grammar Name Value × (Value → Value → Value))} :
    MayCall definitions (.step head tails) cursor name place ↔
      MayCall definitions head cursor name place ∨
      ∃ value after, Yields definitions head cursor value after ∧
        ∃ tail ∈ tails, MayCall definitions tail.1 after name place := by
  constructor
  · intro called
    cases called with
    | stepHead called => exact Or.inl called
    | stepTail first inside called => exact Or.inr ⟨_, _, first, _, inside, called⟩
  · rintro (called | ⟨value, after, first, tail, inside, called⟩)
    · exact .stepHead called
    · exact .stepTail first inside called

@[simp] theorem mayCall_map {inner : Grammar Name Value} {change : Value → Value} :
    MayCall definitions (inner.map change) cursor name place ↔
      MayCall definitions inner cursor name place :=
  mayCall_transform

@[simp] theorem mayCall_maybe {inner : Grammar Name Value} {present : Value → Value} {absent : Value} :
    MayCall definitions (inner.maybe present absent) cursor name place ↔
      MayCall definitions inner cursor name place := by
  simp [maybe, epsilon]

section Pairs

variable [Inhabited Value] {first second : Grammar Name Value}

@[simp] theorem mayCall_andThen :
    MayCall definitions (first.andThen second) cursor name place ↔
      MayCall definitions first cursor name place ∨
      ∃ value after, Yields definitions first cursor value after ∧
        MayCall definitions second after name place := by
  simp [andThen]

@[simp] theorem mayCall_andSkip :
    MayCall definitions (first.andSkip second) cursor name place ↔
      MayCall definitions first cursor name place ∨
      ∃ value after, Yields definitions first cursor value after ∧
        MayCall definitions second after name place := by
  simp [andSkip]

end Pairs

/-- All that the grammar may call from the place comes to a result. -/
def CallsEnd (definitions : Definitions Name Value) (grammar : Grammar Name Value)
    (cursor : Cursor) : Prop :=
  ∀ name place, MayCall definitions grammar cursor name place →
    ∃ result, Derives definitions (.forward name) place result

/-- The grammar comes to a result from wherever its calls do. -/
def Settles (definitions : Definitions Name Value) (grammar : Grammar Name Value) : Prop :=
  ∀ cursor, CallsEnd definitions grammar cursor → ∃ result, Derives definitions grammar cursor result

theorem settles_sequence {parts : List (Grammar Name Value)}
    (settles : ∀ part ∈ parts, Settles definitions part) (collect : List Value → Value) :
    Settles definitions (.sequence parts collect) := by
  induction parts generalizing collect with
  | nil => exact fun _ _ => ⟨_, .sequenceDone⟩
  | cons part rest ih =>
    rw [List.forall_mem_cons] at settles
    intro cursor ends
    obtain ⟨result, first⟩ := settles.1 cursor fun name place called =>
      ends name place (.sequenceFirst called)
    rcases result with error | _ | ⟨value, after⟩
    · exact ⟨_, .sequenceStop first (by simp)⟩
    · exact ⟨_, .sequenceStop first (by simp)⟩
    · obtain ⟨result, others⟩ := ih settles.2 (fun values => collect (value :: values)) after
        fun name place called => ends name place (.sequenceNext first called)
      exact ⟨result, .sequenceNext first others⟩

/-- The alternatives are gone through from the first that is not known to fail. -/
theorem derives_union_append (failed : List (Grammar Name Value)) {rest : List (Grammar Name Value)}
    (ended : ∀ alternative ∈ rest, ∃ result, Derives definitions alternative cursor result)
    (fail : ∀ other ∈ failed, Fails definitions other cursor) :
    ∃ result, Derives definitions (.union (failed ++ rest)) cursor result := by
  induction rest generalizing failed with
  | nil => exact ⟨_, .unionNone (by simpa using fail)⟩
  | cons alternative rest ih =>
    rw [List.forall_mem_cons] at ended
    obtain ⟨result, first⟩ := ended.1
    by_cases failing : result = .ok none
    · subst failing
      have more := ih (failed ++ [alternative]) ended.2
        (List.forall_mem_append.2 ⟨fail, List.forall_mem_singleton.2 first⟩)
      rwa [← List.append_cons] at more
    · exact ⟨result, .unionFirst fail first failing⟩

theorem derives_step_append {head : Grammar Name Value} {after : Cursor} {left : Value}
    (failed : List (Grammar Name Value × (Value → Value → Value)))
    {rest : List (Grammar Name Value × (Value → Value → Value))}
    (first : Yields definitions head cursor left after)
    (ended : ∀ tail ∈ rest, ∃ result, Derives definitions tail.1 after result)
    (fail : ∀ other ∈ failed, Fails definitions other.1 after) :
    ∃ result, Derives definitions (.step head (failed ++ rest)) cursor result := by
  induction rest generalizing failed with
  | nil => exact ⟨_, .stepNone first (by simpa using fail)⟩
  | cons tail rest ih =>
    rw [List.forall_mem_cons] at ended
    obtain ⟨result, reads⟩ := ended.1
    rcases result with error | _ | ⟨right, last⟩
    · exact ⟨_, .stepError first fail reads⟩
    · have more := ih (failed ++ [tail]) ended.2
        (List.forall_mem_append.2 ⟨fail, List.forall_mem_singleton.2 reads⟩)
      rwa [← List.append_cons] at more
    · exact ⟨_, .stepFirst first fail reads⟩

theorem settles (definitions : Definitions Name Value) (grammar : Grammar Name Value) :
    Settles definitions grammar := by
  induction grammar using parts_induction with
  | scan read => exact fun _ _ => ⟨_, .scan⟩
  | sequence parts collect ih => exact settles_sequence ih collect
  | union alternatives ih =>
    intro cursor ends
    refine derives_union_append [] (fun alternative inside => ?_) (by simp)
    exact ih alternative inside cursor fun name place called => ends name place (.union inside called)
  | transform inner change ih =>
    intro cursor ends
    obtain ⟨result, ended⟩ := ih cursor fun name place called => ends name place (.transform called)
    cases result with
    | error error => exact ⟨_, .transformError ended⟩
    | ok outcome => exact ⟨_, .transform ended⟩
  | forward name => exact fun cursor ends => ends name cursor .forward
  | step head tails ihHead ihTails =>
    intro cursor ends
    obtain ⟨result, first⟩ := ihHead cursor fun name place called => ends name place (.stepHead called)
    rcases result with error | _ | ⟨left, after⟩
    · exact ⟨_, .stepStop first (by simp)⟩
    · exact ⟨_, .stepStop first (by simp)⟩
    · refine derives_step_append [] first (fun tail inside => ?_) (by simp)
      exact ihTails tail inside after fun name place called =>
        ends name place (.stepTail first inside called)

/-- The later call may be made directly inside the earlier one. -/
def CallsInside (definitions : Definitions Name Value) (later earlier : Name × Cursor) : Prop :=
  ∃ grammar, definitions.find? earlier.1 = some grammar ∧
    MayCall definitions grammar earlier.2 later.1 later.2

/-- Where calls inside calls come to an end, so does everything. -/
theorem derives_of_wellFounded (wellFounded : WellFounded (CallsInside definitions))
    (grammar : Grammar Name Value) (cursor : Cursor) :
    ∃ result, Derives definitions grammar cursor result := by
  suffices calls : ∀ call : Name × Cursor, ∃ result,
    Derives definitions (.forward call.1) call.2 result from
    settles definitions grammar cursor fun name place _ => calls (name, place)
  intro call
  induction call using wellFounded.induction with
  | _ call ih =>
    cases found : definitions.find? call.1 with
    | none => exact ⟨_, .unset found⟩
    | some grammar =>
      obtain ⟨result, ended⟩ := settles definitions grammar call.2 fun name place called =>
        ih (name, place) ⟨grammar, found, called⟩
      exact ⟨result, .forward found ended⟩

/-- Where every name is set there is no error. -/
theorem Derives.eq_ok (set : ∀ name, definitions.find? name ≠ none) {grammar : Grammar Name Value}
    {result : Except GrammarError (Outcome Value)} (derived : Derives definitions grammar cursor result) :
    ∃ outcome, result = .ok outcome := by
  induction derived with
  | sequenceStop _ _ ih => exact ih
  | sequenceNext _ _ _ ih => exact ih
  | unionFirst _ _ _ _ ih => exact ih
  | transformError _ ih => exact ih
  | forward _ _ ih => exact ih
  | unset absent => exact absurd absent (set _)
  | stepStop _ _ ih => exact ih
  | stepError _ _ _ _ _ ih => exact ih
  | _ => exact ⟨_, rfl⟩

end EventRouting.Grammar
