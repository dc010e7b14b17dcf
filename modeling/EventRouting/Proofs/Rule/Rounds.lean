import EventRouting.Proofs.Rule.Judging

set_option autoImplicit false

namespace EventRouting

namespace Rule

/-- The rule itself, its operands, their operands, and so on. -/
inductive Within (root : Rule) : Rule → Prop where
  | self : Within root root
  | operand {whole part : Rule} (outer : Within root whole) (inside : part ∈ whole.operands) :
    Within root part

/-- Different parts have different numbers. -/
def ToldApart (root : Rule) : Prop :=
  ∀ left right, root.Within left → root.Within right → left.id = right.id → left = right

theorem size_lt_of_operand {whole part : Rule} (inside : part ∈ whole.operands) :
    part.size < whole.size := by
  have listed {parts : List Rule} (member : part ∈ parts) : part.size ≤ size.sizes parts := by
    induction parts with
    | nil => simp at member
    | cons first rest ih =>
      rw [size.sizes]
      rcases List.mem_cons.1 member with rfl | member
      · exact Nat.le_add_right _ _
      · exact Nat.le_trans (ih member) (Nat.le_add_left _ _)
  exact Nat.lt_of_le_of_lt (listed inside) whole.sizes_operands_lt

theorem Within.trans {root whole part : Rule} (outer : root.Within whole) (inner : whole.Within part) :
    root.Within part := by
  induction inner with
  | self => exact outer
  | operand _ inside ih => exact ih.operand inside

theorem Within.size_le {root part : Rule} (inside : root.Within part) : part.size ≤ root.size := by
  induction inside with
  | self => exact Nat.le_refl _
  | operand _ inside ih => exact Nat.le_trans (Nat.le_of_lt (size_lt_of_operand inside)) ih

/-- Parts of an operand have other numbers than the whole. -/
theorem ToldApart.id_ne {root : Rule} (apart : root.ToldApart) {whole operand part : Rule}
    (outer : root.Within whole) (inside : operand ∈ whole.operands) (within : operand.Within part) :
    whole.id ≠ part.id := by
  intro same
  have smaller := Nat.lt_of_le_of_lt within.size_le (size_lt_of_operand inside)
  rw [apart whole part outer ((outer.operand inside).trans within) same] at smaller
  exact Nat.lt_irrefl _ smaller

end Rule

/-- The parts of a rule in use are told apart by number. -/
theorem Workspace.Sound.toldApart {work : Workspace} (sound : work.Sound) {rule : Rule}
    (live : work.Live (.rule rule)) : rule.ToldApart := by
  have parts {part : Rule} (within : rule.Within part) : work.Live (.rule part) := by
    induction within with
    | self => exact live
    | operand _ inside ih => exact ih.operand inside
  intro left right inLeft inRight
  exact sound.chronicle.family.unique left right (parts inLeft) (parts inRight)

namespace Rule

/-- Where the loop stands: what to do next, who waits for a verdict, and the verdicts so far. -/
structure Standing where
  task : Task
  waiting : List Waiting
  verdicts : Verdicts

/-- One round, with the verdict that it stores. -/
inductive Round (event : Event) : Standing → List (Nat × Bool) → Standing → Prop where
  | known {rule : Rule} {waiting : List Waiting} {verdicts : Verdicts} {verdict : Bool}
    (found : verdicts[rule.id]? = some verdict) :
    Round event ⟨.judge rule, waiting, verdicts⟩ [] ⟨.answer verdict, waiting, verdicts⟩
  | leaf {rule : Rule} {waiting : List Waiting} {verdicts : Verdicts} (alone : rule.operands = [])
    (new : verdicts[rule.id]? = none) :
    Round event ⟨.judge rule, waiting, verdicts⟩ [(rule.id, rule.leafHolds event)]
      ⟨.answer (rule.leafHolds event), waiting, verdicts.insert rule.id (rule.leafHolds event)⟩
  | no {id : Nat} {operand : Rule} {waiting : List Waiting} {verdicts : Verdicts}
    (new : verdicts[id]? = none) :
    Round event ⟨.judge (no id operand), waiting, verdicts⟩ []
      ⟨.judge operand, .no id :: waiting, verdicts⟩
  | first {id : Nat} {kind : Junction} {operand : Rule} {rest : List Rule} {waiting : List Waiting}
    {verdicts : Verdicts} (new : verdicts[id]? = none) :
    Round event ⟨.judge (junction id kind (operand :: rest)), waiting, verdicts⟩ []
      ⟨.judge operand, .junction id kind rest :: waiting, verdicts⟩
  | next {id : Nat} {kind : Junction} {operand : Rule} {rest : List Rule} {waiting : List Waiting}
    {verdicts : Verdicts} {verdict : Bool} (unsettled : verdict ≠ kind.settling) :
    Round event ⟨.answer verdict, .junction id kind (operand :: rest) :: waiting, verdicts⟩ []
      ⟨.judge operand, .junction id kind rest :: waiting, verdicts⟩
  | denied {id : Nat} {waiting : List Waiting} {verdicts : Verdicts} {verdict : Bool} :
    Round event ⟨.answer verdict, .no id :: waiting, verdicts⟩ [(id, !verdict)]
      ⟨.answer !verdict, waiting, verdicts.insert id !verdict⟩
  | joined {id : Nat} {kind : Junction} {rest : List Rule} {waiting : List Waiting} {verdicts : Verdicts}
    {verdict : Bool} (settled : rest = [] ∨ verdict = kind.settling) :
    Round event ⟨.answer verdict, .junction id kind rest :: waiting, verdicts⟩ [(id, verdict)]
      ⟨.answer verdict, waiting, verdicts.insert id verdict⟩

/-- Any number of rounds, with the verdicts that they store one after the other. -/
inductive Rounds (event : Event) : Standing → List (Nat × Bool) → Standing → Prop where
  | refl (standing : Standing) : Rounds event standing [] standing
  | head {start middle last : Standing} {early late : List (Nat × Bool)}
    (round : Round event start early middle) (rounds : Rounds event middle late last) :
    Rounds event start (early ++ late) last

/-- The loop ends after some rounds, with what it gives. -/
theorem rounds_runTask (event : Event) (task : Task) (waiting : List Waiting) (verdicts : Verdicts) :
    ∃ stored, Rounds event ⟨task, waiting, verdicts⟩ stored
      ⟨.answer (runTask event task waiting verdicts).1, [],
        (runTask event task waiting verdicts).2⟩ := by
  induction task, waiting, verdicts using runTask.induct event with
  | case1 waiting verdicts rule verdict found ih =>
    obtain ⟨stored, rounds⟩ := ih
    rw [runTask_known found]
    exact ⟨_, .head (.known found) rounds⟩
  | case2 waiting verdicts id operand new ih =>
    obtain ⟨stored, rounds⟩ := ih
    rw [runTask_no new]
    exact ⟨_, .head (.no new) rounds⟩
  | case3 waiting verdicts id kind first rest new ih =>
    obtain ⟨stored, rounds⟩ := ih
    rw [runTask_junction new]
    exact ⟨_, .head (.first new) rounds⟩
  | case4 waiting verdicts rule notNo notJunction verdict new ih =>
    obtain ⟨stored, rounds⟩ := ih
    have alone : rule.operands = [] := by
      cases rule with
      | anything | test | fuzzy => rfl
      | no id operand => exact (notNo id operand rfl).elim
      | junction id kind operands =>
        cases operands with
        | nil => rfl
        | cons first rest => exact (notJunction id kind first rest rfl).elim
    rw [runTask_leaf alone new]
    exact ⟨_, .head (.leaf alone new) rounds⟩
  | case5 verdicts verdict =>
    rw [runTask]
    exact ⟨[], .refl _⟩
  | case6 verdicts verdict id waiting ih =>
    obtain ⟨stored, rounds⟩ := ih
    rw [runTask]
    exact ⟨_, .head .denied rounds⟩
  | case7 verdicts verdict id kind waiting ih =>
    obtain ⟨stored, rounds⟩ := ih
    rw [runTask]
    exact ⟨_, .head (.joined (Or.inl rfl)) rounds⟩
  | case8 verdicts id kind next rest waiting ih =>
    obtain ⟨stored, rounds⟩ := ih
    rw [runTask, if_pos rfl]
    exact ⟨_, .head (.joined (Or.inr rfl)) rounds⟩
  | case9 verdicts verdict id kind next rest waiting unsettled ih =>
    obtain ⟨stored, rounds⟩ := ih
    rw [runTask, if_neg unsettled]
    exact ⟨_, .head (.next unsettled) rounds⟩

variable {event : Event} {root : Rule} {before verdicts : Verdicts} {stored : List (Nat × Bool)}

/-- The parts whose verdicts are asked for, given the verdicts before and after: the rule, the operand of a
denial that is not known yet, and an operand of a junction that is not known yet, if no operand before it
settles the junction. -/
inductive Asks (before after : Verdicts) (root : Rule) : Rule → Prop where
  | root : Asks before after root root
  | no {id : Nat} {operand : Rule} (outer : Asks before after root (no id operand))
    (new : before[id]? = none) : Asks before after root operand
  | junction {id : Nat} {kind : Junction} {earlier later : List Rule} {operand : Rule}
    (outer : Asks before after root (junction id kind (earlier ++ operand :: later)))
    (new : before[id]? = none) (unsettled : ∀ other ∈ earlier, after[other.id]? = some !kind.settling) :
    Asks before after root operand

/-- The verdict on the rule is what the list waits for: each of those that wait has no verdict yet, and has
passed the operands before the one it waits for. -/
inductive Awaits (root : Rule) (verdicts : Verdicts) : Rule → List Waiting → Prop where
  | root : Awaits root verdicts root []
  | no {id : Nat} {operand : Rule} {waiting : List Waiting} (new : verdicts[id]? = none)
    (outer : Awaits root verdicts (no id operand) waiting) :
      Awaits root verdicts operand (.no id :: waiting)
  | junction {id : Nat} {kind : Junction} {earlier later : List Rule} {operand : Rule}
    {waiting : List Waiting} (new : verdicts[id]? = none)
    (passed : ∀ other ∈ earlier, verdicts[other.id]? = some !kind.settling)
    (outer : Awaits root verdicts (junction id kind (earlier ++ operand :: later)) waiting) :
    Awaits root verdicts operand (.junction id kind later :: waiting)

/-- The verdicts that were asked for to judge the rule are there. -/
def Settled (verdicts : Verdicts) : Rule → Prop
  | no _ operand => operand.id ∈ verdicts
  | junction _ kind operands =>
    ∃ done rest, operands = done ++ rest ∧ (∀ other ∈ done, other.id ∈ verdicts) ∧
      (rest = [] ∨ ∃ last ∈ done, verdicts[last.id]? = some kind.settling)
  | anything _ | test _ _ _ _ | fuzzy _ _ => True

/-- No verdict is lost or changed. -/
def Kept (before after : Verdicts) : Prop :=
  ∀ (id : Nat) (verdict : Bool), before[id]? = some verdict → after[id]? = some verdict

theorem kept_insert {id : Nat} (new : verdicts[id]? = none) (verdict : Bool) :
    Kept verdicts (verdicts.insert id verdict) := by
  intro other found same
  have different : id ≠ other := by
    rintro rfl
    rw [new] at same
    contradiction
  rw [Std.HashMap.getElem?_insert, if_neg (by simpa using different), same]

theorem Kept.new {after : Verdicts} (kept : Kept before after) {id : Nat} (new : after[id]? = none) :
    before[id]? = none := by
  cases found : before[id]? with
  | none => rfl
  | some verdict =>
    rw [kept id verdict found] at new
    contradiction

theorem Kept.mem {after : Verdicts} (kept : Kept before after) {id : Nat} (known : id ∈ before) :
    id ∈ after := by
  rw [Std.HashMap.mem_iff_isSome_getElem?, Option.isSome_iff_exists] at known ⊢
  obtain ⟨verdict, found⟩ := known
  exact ⟨verdict, kept id verdict found⟩

theorem mem_of_found {id : Nat} {verdict : Bool} (found : verdicts[id]? = some verdict) :
    id ∈ verdicts := by
  rw [Std.HashMap.mem_iff_isSome_getElem?, found]
  rfl

theorem Asks.mono {after later : Verdicts} (kept : Kept after later) {rule : Rule}
    (asks : Asks before after root rule) : Asks before later root rule := by
  induction asks with
  | root => exact .root
  | no _ new ih => exact .no ih new
  | junction _ new unsettled ih =>
    exact .junction ih new fun other inside => kept _ _ (unsettled other inside)

theorem Asks.within {after : Verdicts} {rule : Rule} (asks : Asks before after root rule) :
    root.Within rule := by
  induction asks with
  | root => exact .self
  | no _ _ ih => exact .operand ih (by simp [operands])
  | junction _ _ _ ih => exact .operand ih (by simp [operands])

theorem Awaits.asks {rule : Rule} {waiting : List Waiting} (kept : Kept before verdicts)
    (awaits : Awaits root verdicts rule waiting) : Asks before verdicts root rule := by
  induction awaits with
  | root => exact .root
  | no new _ ih => exact .no ih (kept.new new)
  | junction new passed _ ih => exact .junction ih (kept.new new) passed

theorem Awaits.within {rule : Rule} {waiting : List Waiting} (awaits : Awaits root verdicts rule waiting) :
    root.Within rule :=
  (awaits.asks fun _ _ found => found).within

/-- A verdict on a part of the rule is none on anyone that waits for the rule. -/
theorem Awaits.insert (apart : root.ToldApart) {rule part : Rule} {waiting : List Waiting}
    (awaits : Awaits root verdicts rule waiting) (within : rule.Within part)
    (new : verdicts[part.id]? = none) (verdict : Bool) :
    Awaits root (verdicts.insert part.id verdict) rule waiting := by
  have still {id : Nat} (unknown : verdicts[id]? = none) (different : id ≠ part.id) :
      (verdicts.insert part.id verdict)[id]? = none := by
    rw [Std.HashMap.getElem?_insert, if_neg (by simpa using different.symm), unknown]
  induction awaits with
  | root => exact .root
  | @no id operand waiting unknown outer ih =>
    have inside : operand ∈ (Rule.no id operand).operands := List.mem_singleton.2 rfl
    exact .no (still unknown (apart.id_ne outer.within inside within))
      (ih ((Within.self.operand inside).trans within))
  | @junction id kind earlier later operand waiting unknown passed outer ih =>
    have inside : operand ∈ (Rule.junction id kind (earlier ++ operand :: later)).operands :=
      List.mem_append_right _ List.mem_cons_self
    exact .junction (still unknown (apart.id_ne outer.within inside within))
      (fun other known => kept_insert new verdict _ _ (passed other known))
      (ih ((Within.self.operand inside).trans within))

/-- The rule at hand: it is to be judged, or its verdict is handed on. -/
def Standing.Holds (standing : Standing) (rule : Rule) : Prop :=
  match standing.task with
  | .judge other => other = rule
  | .answer verdict => standing.verdicts[rule.id]? = some verdict

/-- What holds after any number of rounds from the rule, with the verdicts stored so far: the rule at hand
is one that the list waits for; the memory is the one before with the stored verdicts, which are on
different parts without a verdict before; and each of them is on a part that was asked for, after its
operands. -/
structure Reached (root : Rule) (before : Verdicts) (stored : List (Nat × Bool)) (standing : Standing) :
    Prop where
  current : ∃ rule, Awaits root standing.verdicts rule standing.waiting ∧ standing.Holds rule
  entries : ∀ id verdict, standing.verdicts[id]? = some verdict ↔
    before[id]? = some verdict ∨ (id, verdict) ∈ stored
  once : (stored.map Prod.fst).Nodup
  fresh : ∀ id ∈ stored.map Prod.fst, before[id]? = none
  asked : ∀ id ∈ stored.map Prod.fst, ∃ part, part.id = id ∧
    Asks before standing.verdicts root part ∧
    Settled standing.verdicts part

theorem reached_start (root : Rule) (before : Verdicts) :
    Reached root before [] ⟨.judge root, [], before⟩ where
  current := ⟨root, .root, rfl⟩
  entries id verdict := by simp
  once := List.nodup_nil
  fresh id inside := by simp at inside
  asked id inside := by simp at inside

theorem Settled.mono {after : Verdicts} (kept : Kept verdicts after) {rule : Rule}
    (settled : Settled verdicts rule) : Settled after rule := by
  cases rule with
  | anything | test | fuzzy => trivial
  | no id operand => exact kept.mem settled
  | junction id kind operands =>
    obtain ⟨done, rest, whole, known, closed⟩ := settled
    refine ⟨done, rest, whole, fun other inside => kept.mem (known other inside), ?_⟩
    exact closed.imp_right fun ⟨last, inside, found⟩ => ⟨last, inside, kept _ _ found⟩

theorem Reached.kept {standing : Standing} (reached : Reached root before stored standing) :
    Kept before standing.verdicts :=
  fun id verdict found => (reached.entries id verdict).2 (.inl found)

/-- Nothing but the rule at hand changes. -/
theorem Reached.move {standing : Standing} (reached : Reached root before stored standing) {task : Task}
    {waiting : List Waiting} {rule : Rule} (awaits : Awaits root standing.verdicts rule waiting)
    (holds : Standing.Holds ⟨task, waiting, standing.verdicts⟩ rule) :
    Reached root before stored ⟨task, waiting, standing.verdicts⟩ :=
  { reached with current := ⟨rule, awaits, holds⟩ }

/-- A verdict is stored on a part that is asked for and has none, after its operands. -/
theorem Reached.store (apart : root.ToldApart) {standing : Standing}
    (reached : Reached root before stored standing) {waiting : List Waiting} {rule : Rule}
    (awaits : Awaits root standing.verdicts rule waiting) (new : standing.verdicts[rule.id]? = none)
    (settled : Settled standing.verdicts rule) (verdict : Bool) :
    Reached root before (stored ++ [(rule.id, verdict)])
      ⟨.answer verdict, waiting, standing.verdicts.insert rule.id verdict⟩ := by
  have kept := kept_insert new verdict
  have unstored : rule.id ∉ stored.map Prod.fst := by
    intro inside
    obtain ⟨⟨id, other⟩, member, rfl : id = rule.id⟩ := List.mem_map.1 inside
    have found := (reached.entries _ other).2 (.inr member)
    rw [new] at found
    contradiction
  refine ⟨⟨rule, awaits.insert apart .self new verdict, by simp [Standing.Holds]⟩, ?_, ?_, ?_, ?_⟩
  · intro id other
    rw [Std.HashMap.getElem?_insert, List.mem_append, List.mem_singleton, ← or_assoc, ← reached.entries]
    by_cases same : rule.id = id
    · subst same
      simp [new, eq_comm]
    · simp [same, Ne.symm same]
  · rw [List.map_append, List.map_singleton, ← List.concat_eq_append]
    exact reached.once.concat unstored
  · intro id inside
    rw [List.map_append, List.map_singleton, List.mem_append, List.mem_singleton] at inside
    rcases inside with earlier | rfl
    · exact reached.fresh id earlier
    · exact reached.kept.new new
  · intro id inside
    rw [List.map_append, List.map_singleton, List.mem_append, List.mem_singleton] at inside
    rcases inside with earlier | rfl
    · obtain ⟨part, same, asks, done⟩ := reached.asked id earlier
      exact ⟨part, same, asks.mono kept, done.mono kept⟩
    · exact ⟨rule, rfl, (awaits.asks reached.kept).mono kept, settled.mono kept⟩

theorem Reached.round (apart : root.ToldApart) {start next : Standing} {added : List (Nat × Bool)}
    (reached : Reached root before stored start) (round : Round event start added next) :
    Reached root before (stored ++ added) next := by
  obtain ⟨current, awaits, holds⟩ := reached.current
  cases round with
  | known found =>
    obtain rfl : _ = current := holds
    rw [List.append_nil]
    exact reached.move awaits found
  | @leaf rule waiting verdicts alone new =>
    obtain rfl : _ = current := holds
    have settled : Settled verdicts rule := by
      cases rule with
      | anything | test | fuzzy => trivial
      | no => contradiction
      | junction id kind operands =>
        obtain rfl : operands = [] := alone
        exact ⟨[], [], rfl, by simp, .inl rfl⟩
    exact reached.store apart awaits new settled _
  | no new =>
    obtain rfl : _ = current := holds
    rw [List.append_nil]
    exact reached.move (.no new awaits) rfl
  | first new =>
    obtain rfl : _ = current := holds
    rw [List.append_nil]
    exact reached.move (@Awaits.junction _ _ _ _ [] _ _ _ new (by simp) awaits) rfl
  | @next id kind operand rest waiting verdicts verdict unsettled =>
    cases awaits with
    | @junction _ _ earlier _ _ _ new passed outer =>
      rw [List.append_nil]
      rw [List.append_cons] at outer
      refine reached.move (.junction new ?_ outer) rfl
      intro other inside
      rcases List.mem_append.1 inside with inside | inside
      · exact passed other inside
      · obtain rfl := List.mem_singleton.1 inside
        rw [← Bool.eq_not_of_ne unsettled]
        exact holds
  | denied =>
    cases awaits with
    | no new outer => exact reached.store apart outer new (mem_of_found holds) _
  | @joined id kind rest waiting verdicts verdict settled =>
    cases awaits with
    | @junction _ _ earlier _ _ _ new passed outer =>
      refine reached.store apart outer new ⟨earlier ++ [current], rest, by simp, ?_, ?_⟩ _
      · intro other inside
        rcases List.mem_append.1 inside with inside | inside
        · exact mem_of_found (passed other inside)
        · obtain rfl := List.mem_singleton.1 inside
          exact mem_of_found holds
      · rcases settled with last | same
        · exact .inl last
        · exact .inr ⟨current, by simp, by rw [← same]; exact holds⟩

theorem Reached.rounds (apart : root.ToldApart) {start last : Standing} {added : List (Nat × Bool)}
    (reached : Reached root before stored start) (rounds : Rounds event start added last) :
    Reached root before (stored ++ added) last := by
  induction rounds generalizing stored with
  | refl => rwa [List.append_nil]
  | head round _ ih =>
    rw [← List.append_assoc]
    exact ih (reached.round apart round)

/-- When the rule has its verdict, so has every part that is asked for. -/
theorem Reached.complete (apart : root.ToldApart) {verdict : Bool}
    (reached : Reached root before stored ⟨.answer verdict, [], verdicts⟩) {part : Rule}
    (asks : Asks before verdicts root part) : part.id ∈ verdicts := by
  have settled {rule : Rule} (inner : Asks before verdicts root rule) (new : before[rule.id]? = none)
      (known : rule.id ∈ verdicts) : Settled verdicts rule := by
    rw [Std.HashMap.mem_iff_isSome_getElem?, Option.isSome_iff_exists] at known
    obtain ⟨value, found⟩ := known
    rcases (reached.entries _ _).1 found with old | added
    · rw [new] at old
      contradiction
    · obtain ⟨other, same, asked, done⟩ := reached.asked _ (List.mem_map_of_mem added)
      rwa [apart other rule asked.within inner.within same] at done
  induction asks with
  | root =>
    obtain ⟨rule, awaits, holds⟩ := reached.current
    cases awaits
    exact mem_of_found holds
  | no outer new ih => exact settled outer new ih
  | @junction id kind earlier later operand outer new unsettled ih =>
    obtain ⟨done, rest, whole, known, closed⟩ := settled outer new ih
    have passed {last : Rule} (inside : last ∈ earlier) : verdicts[last.id]? ≠ some kind.settling := by
      rw [unsettled last inside]
      simp
    -- The operand comes before the first that is left, or the one that settles the junction comes before
    -- it.
    rcases List.append_eq_append_iff.1 whole with ⟨between, rfl, split⟩ | ⟨between, rfl, rfl⟩
    · cases between with
      | nil =>
        rcases closed with rfl | ⟨last, inside, found⟩
        · contradiction
        · rw [List.append_nil] at inside
          exact absurd found (passed inside)
      | cons first between =>
        obtain rfl := (List.cons.inj split).1
        exact known operand (List.mem_append_right _ List.mem_cons_self)
    · rcases closed with none | ⟨last, inside, found⟩
      · simp at none
      · exact absurd found (passed (List.mem_append_left _ inside))

/-- The loop judges as the recursion does, and leaves the same memory, whatever is remembered at the
start. When the parts of the rule are told apart by number, the rounds of the loop store verdicts one
after the other so that no part gets two, what was remembered stays, and a part gets a verdict exactly if
it had none and is asked for. -/
theorem matchWith_rounds (rule : Rule) (event : Event) (before : Verdicts) :
    rule.matchWith event before = rule.judge event before ∧
    (rule.ToldApart → ∃ stored,
      Rounds event ⟨.judge rule, [], before⟩ stored
        ⟨.answer (rule.matchWith event before).1, [], (rule.matchWith event before).2⟩ ∧
      (stored.map Prod.fst).Nodup ∧
      (∀ id verdict, (rule.matchWith event before).2[id]? = some verdict ↔
        before[id]? = some verdict ∨ (id, verdict) ∈ stored) ∧
      ∀ id, id ∈ stored.map Prod.fst ↔ before[id]? = none ∧
        ∃ part, part.id = id ∧ Asks before (rule.matchWith event before).2 rule part) := by
  refine ⟨matchWith_eq_judge event before rule, fun apart => ?_⟩
  obtain ⟨stored, rounds⟩ := rounds_runTask event (.judge rule) [] before
  have reached := (reached_start rule before).rounds apart rounds
  rw [List.nil_append] at reached
  refine ⟨stored, rounds, reached.once, reached.entries, fun id => ⟨fun inside => ?_, ?_⟩⟩
  · obtain ⟨part, same, asks, -⟩ := reached.asked id inside
    exact ⟨reached.fresh id inside, part, same, asks⟩
  · rintro ⟨new, part, rfl, asks⟩
    have known := reached.complete apart asks
    rw [Std.HashMap.mem_iff_isSome_getElem?, Option.isSome_iff_exists] at known
    obtain ⟨verdict, found⟩ := known
    rcases (reached.entries _ _).1 found with old | added
    · rw [new] at old
      contradiction
    · exact List.mem_map_of_mem added

/-- The denial, a part of the rule, is remembered with a wrong verdict: the rule, which holds on every
event, fails by it, and the rounds store a verdict on each of the other two parts. -/
theorem matchWith_rounds_shared :
    let part := test 1 .matching (some "k") none
    let rule := junction 3 .or [part, no 2 part]
    let before := (∅ : Verdicts).insert 2 false
    rule.ToldApart ∧ rule.holds .empty = true ∧ (rule.matchWith .empty before).1 = false ∧
    ∃ stored,
      Rounds .empty ⟨.judge rule, [], before⟩ stored
        ⟨.answer (rule.matchWith .empty before).1, [], (rule.matchWith .empty before).2⟩ ∧
      (stored.map Prod.fst).Nodup ∧
      1 ∈ stored.map Prod.fst ∧ 2 ∉ stored.map Prod.fst ∧ 3 ∈ stored.map Prod.fst := by
  intro part rule before
  have parts {inner : Rule} (within : rule.Within inner) :
      inner = rule ∨ inner = part ∨ inner = no 2 part := by
    induction within with
    | self => exact .inl rfl
    | operand _ inside ih =>
      rcases ih with rfl | rfl | rfl
      · exact .inr (by simpa [rule, operands] using inside)
      · simp [part, operands] at inside
      · exact .inr (.inl (by simpa [operands] using inside))
  have apart : rule.ToldApart := by
    intro left right inLeft inRight same
    rcases parts inLeft with rfl | rfl | rfl <;> rcases parts inRight with rfl | rfl | rfl <;>
      first | rfl | exact absurd same (by decide)
  have unknown : before[1]? = none ∧ before[3]? = none := by simp [before]
  have verdict : (rule.matchWith .empty before).1 = false := by
    have failed : Event.empty.passes .matching (some "k") none = false := rfl
    rw [matchWith_eq_judge, @judge_junction _ _ 3 _ _ _ unknown.2, judge_leaf rfl unknown.1]
    simp [judge.judgeRest, judge, before, part, leafHolds, Rule.id, failed, Junction.settling,
      Std.HashMap.getElem_insert]
  refine ⟨apart, by decide +kernel, verdict, ?_⟩
  obtain ⟨stored, rounds, once, -, places⟩ := (matchWith_rounds rule .empty before).2 apart
  refine ⟨stored, rounds, once, (places 1).2 ⟨unknown.1, part, rfl, ?_⟩, fun inside => ?_,
    (places 3).2 ⟨unknown.2, rule, rfl, .root⟩⟩
  · exact .junction .root unknown.2 (List.forall_mem_nil _)
  · have new := ((places 2).1 inside).1
    simp [before] at new

end Rule

end EventRouting
