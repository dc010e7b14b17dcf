import EventRouting.Proofs.Rule.Meaning
import EventRouting.Rule.Matching

set_option autoImplicit false

namespace EventRouting

namespace Rule

variable {event : Event} {verdicts : Verdicts}

theorem judge_known {rule : Rule} {verdict : Bool} (found : verdicts[rule.id]? = some verdict) :
    rule.judge event verdicts = (verdict, verdicts) := by
  unfold judge
  rw [found]

theorem judge_leaf {rule : Rule} (alone : rule.operands = []) (new : verdicts[rule.id]? = none) :
    rule.judge event verdicts =
      (rule.leafHolds event, verdicts.insert rule.id (rule.leafHolds event)) := by
  unfold judge
  rw [new]
  cases rule with
  | anything | test | fuzzy => rfl
  | no => contradiction
  | junction id kind operands =>
    obtain rfl : operands = [] := alone
    rfl

theorem judge_no {id : Nat} {operand : Rule} (new : verdicts[(no id operand).id]? = none) :
    (no id operand).judge event verdicts =
      (!(operand.judge event verdicts).1,
        (operand.judge event verdicts).2.insert id !(operand.judge event verdicts).1) := by
  conv_lhs => unfold judge
  rw [new]
  rfl

theorem judge_junction {id : Nat} {kind : Junction} {first : Rule} {rest : List Rule}
    (new : verdicts[(junction id kind (first :: rest)).id]? = none) :
    (junction id kind (first :: rest)).judge event verdicts =
      let judged := judge.judgeRest event kind (first.judge event verdicts).1 rest
        (first.judge event verdicts).2
      (judged.1, judged.2.insert id judged.1) := by
  conv_lhs => unfold judge
  rw [new]
  rfl

theorem runTask_known {rule : Rule} {verdict : Bool} (found : verdicts[rule.id]? = some verdict)
    (waiting : List Waiting) : runTask event (.judge rule) waiting verdicts =
      runTask event (.answer verdict) waiting verdicts := by
  conv_lhs => unfold runTask
  rw [found]

theorem runTask_leaf {rule : Rule} (alone : rule.operands = []) (new : verdicts[rule.id]? = none)
    (waiting : List Waiting) : runTask event (.judge rule) waiting verdicts =
      runTask event (.answer (rule.leafHolds event)) waiting
        (verdicts.insert rule.id (rule.leafHolds event)) := by
  conv_lhs => unfold runTask
  rw [new]
  cases rule with
  | anything | test | fuzzy => rfl
  | no => contradiction
  | junction id kind operands =>
    obtain rfl : operands = [] := alone
    rfl

theorem runTask_no {id : Nat} {operand : Rule} (new : verdicts[(no id operand).id]? = none)
    (waiting : List Waiting) : runTask event (.judge (no id operand)) waiting verdicts =
      runTask event (.judge operand) (.no id :: waiting) verdicts := by
  conv_lhs => unfold runTask
  rw [new]

theorem runTask_junction {id : Nat} {kind : Junction} {first : Rule} {rest : List Rule}
    (new : verdicts[(junction id kind (first :: rest)).id]? = none) (waiting : List Waiting) :
    runTask event (.judge (junction id kind (first :: rest))) waiting verdicts =
      runTask event (.judge first) (.junction id kind rest :: waiting) verdicts := by
  conv_lhs => unfold runTask
  rw [new]

/-- The rule is judged by the recursion and its verdict handed to whoever waits. -/
def Hands (event : Event) (rule : Rule) : Prop :=
  ∀ waiting verdicts, runTask event (.judge rule) waiting verdicts =
    runTask event (.answer (rule.judge event verdicts).1) waiting (rule.judge event verdicts).2

/-- It is enough to look at rules that are not remembered. -/
theorem Hands.of_new {rule : Rule} (new : ∀ verdicts : Verdicts, verdicts[rule.id]? = none →
    ∀ waiting, runTask event (.judge rule) waiting verdicts =
      runTask event (.answer (rule.judge event verdicts).1) waiting (rule.judge event verdicts).2) :
    Hands event rule := by
  intro waiting verdicts
  cases found : verdicts[rule.id]? with
  | some verdict => rw [runTask_known found, judge_known found]
  | none => exact new verdicts found waiting

theorem Hands.leaf {rule : Rule} (alone : rule.operands = []) : Hands event rule :=
  .of_new fun _ new waiting => by rw [runTask_leaf alone new, judge_leaf alone new]

/-- A junction that waits for its next operand comes to what it would have judged itself. -/
theorem Hands.rest {id : Nat} {kind : Junction} {rest : List Rule}
    (operands : ∀ operand ∈ rest, Hands event operand) (verdict : Bool) (waiting : List Waiting)
    (verdicts : Verdicts) :
    runTask event (.answer verdict) (.junction id kind rest :: waiting) verdicts =
      let judged := judge.judgeRest event kind verdict rest verdicts
      runTask event (.answer judged.1) waiting (judged.2.insert id judged.1) := by
  induction rest generalizing verdict verdicts with
  | nil => rw [runTask, judge.judgeRest]
  | cons next rest ih =>
    rw [runTask, judge.judgeRest]
    by_cases settled : verdict = kind.settling
    · rw [if_pos settled, if_pos settled]
    · rw [if_neg settled, if_neg settled, operands next List.mem_cons_self,
        ih fun operand inside => operands operand (List.mem_cons_of_mem _ inside)]

theorem hands (event : Event) (rule : Rule) : Hands event rule := by
  induction rule using induct with
  | anything | test | fuzzy => exact .leaf rfl
  | no id operand ih =>
    refine .of_new fun verdicts new waiting => ?_
    rw [runTask_no new, judge_no new, ih, runTask]
  | junction id kind operands ih =>
    cases operands with
    | nil => exact .leaf rfl
    | cons first rest =>
      refine .of_new fun verdicts new waiting => ?_
      rw [runTask_junction new, judge_junction new, ih first List.mem_cons_self,
        Hands.rest fun operand inside => ih operand (List.mem_cons_of_mem _ inside)]

theorem matchWith_eq_judge (event : Event) (verdicts : Verdicts) (rule : Rule) :
    rule.matchWith event verdicts = rule.judge event verdicts := by
  rw [matchWith, hands, runTask]

/-- Rules and all their operands, told apart by number, with no empty junction among them. -/
structure Family (known : Rule → Prop) : Prop where
  operands : ∀ rule, known rule → ∀ operand ∈ rule.operands, known operand
  unique : ∀ left right, known left → known right → left.id = right.id → left = right
  inhabited : ∀ id kind, ¬known (junction id kind [])

/-- Each verdict in the memory is that of the known rule of its number. -/
def Truthful (event : Event) (known : Rule → Prop) (verdicts : Verdicts) : Prop :=
  ∀ id verdict, verdicts[id]? = some verdict →
    ∃ rule, known rule ∧ rule.id = id ∧ rule.holds event = verdict

variable {known : Rule → Prop}

theorem truthful_empty (event : Event) (known : Rule → Prop) : Truthful event known ∅ := by
  intro id verdict found
  simp at found

theorem Truthful.mono {more : Rule → Prop} (truthful : Truthful event known verdicts)
    (subset : ∀ rule, known rule → more rule) : Truthful event more verdicts := by
  intro id verdict found
  obtain ⟨rule, member, rest⟩ := truthful id verdict found
  exact ⟨rule, subset rule member, rest⟩

theorem Truthful.insert (truthful : Truthful event known verdicts) {rule : Rule} (member : known rule) :
    Truthful event known (verdicts.insert rule.id (rule.holds event)) := by
  intro id verdict found
  rw [Std.HashMap.getElem?_insert] at found
  by_cases same : rule.id = id
  · simp only [same, beq_self_eq_true, ↓reduceIte, Option.some.injEq] at found
    exact ⟨rule, member, same, found⟩
  · simp only [same, beq_iff_eq, ↓reduceIte] at found
    exact truthful id verdict found

theorem Truthful.eq_holds (truthful : Truthful event known verdicts) (family : Family known) {rule : Rule}
    (member : known rule) {verdict : Bool} (found : verdicts[rule.id]? = some verdict) :
    verdict = rule.holds event := by
  obtain ⟨other, otherMember, same, rfl⟩ := truthful rule.id verdict found
  rw [family.unique other rule otherMember member same]

theorem leafHolds_eq_holds (family : Family known) {rule : Rule} (member : known rule)
    (alone : rule.operands = []) : rule.leafHolds event = rule.holds event := by
  cases rule with
  | anything | test | fuzzy => rfl
  | no => contradiction
  | junction id kind operands =>
    obtain rfl : operands = [] := alone
    exact absurd member (family.inhabited id kind)

/-- A rule judged from a truthful memory gets its verdict, and the memory stays truthful. -/
def JudgedTruly (event : Event) (known : Rule → Prop) (rule : Rule) : Prop :=
  ∀ verdicts, Truthful event known verdicts →
    (rule.judge event verdicts).1 = rule.holds event ∧ Truthful event known (rule.judge event verdicts).2

/-- The operands after the first matter only as long as none has settled the junction. -/
theorem judgeRest_truly (kind : Junction) {rest : List Rule}
    (operands : ∀ operand ∈ rest, JudgedTruly event known operand) (verdict : Bool)
    (truthful : Truthful event known verdicts) :
    (judge.judgeRest event kind verdict rest verdicts).1 =
        kind.combine (verdict :: rest.map (holds event)) ∧
      Truthful event known (judge.judgeRest event kind verdict rest verdicts).2 := by
  induction rest generalizing verdict verdicts with
  | nil => exact ⟨by cases kind <;> simp [judge.judgeRest, Junction.combine], truthful⟩
  | cons next rest ih =>
    rw [judge.judgeRest]
    by_cases settled : verdict = kind.settling
    · rw [if_pos settled]
      refine ⟨?_, truthful⟩
      rw [(kind.combine_eq_settling_iff _).2 (settled ▸ List.mem_cons_self), settled]
    · rw [if_neg settled]
      obtain ⟨judged, after⟩ := operands next List.mem_cons_self verdicts truthful
      obtain ⟨combined, last⟩ :=
        ih (fun operand inside => operands operand (List.mem_cons_of_mem _ inside))
        (next.judge event verdicts).1 after
      refine ⟨combined.trans ?_, last⟩
      apply kind.combine_congr
      rw [judged, List.map_cons, List.mem_cons (b := verdict)]
      exact (or_iff_right (Ne.symm settled)).symm

/-- It is enough to look at rules that are not remembered. -/
theorem JudgedTruly.of_new (family : Family known) {rule : Rule} (member : known rule)
    (new : ∀ verdicts, Truthful event known verdicts → verdicts[rule.id]? = none →
      (rule.judge event verdicts).1 = rule.holds event ∧
        Truthful event known (rule.judge event verdicts).2) : JudgedTruly event known rule := by
  intro verdicts truthful
  cases found : verdicts[rule.id]? with
  | some verdict =>
    rw [judge_known found]
    exact ⟨truthful.eq_holds family member found, truthful⟩
  | none => exact new verdicts truthful found

theorem JudgedTruly.leaf (family : Family known) {rule : Rule} (member : known rule)
    (alone : rule.operands = []) : JudgedTruly event known rule := by
  refine .of_new family member fun verdicts truthful new => ?_
  rw [judge_leaf alone new, leafHolds_eq_holds family member alone]
  exact ⟨rfl, truthful.insert member⟩

theorem Family.judgedTruly (family : Family known) {rule : Rule} (member : known rule) :
    JudgedTruly event known rule := by
  induction rule using induct with
  | anything | test | fuzzy => exact .leaf family member rfl
  | no id operand ih =>
    have operands := family.operands _ member
    refine .of_new family member fun verdicts truthful new => ?_
    obtain ⟨judged, after⟩ := ih (operands operand (by simp [Rule.operands])) verdicts truthful
    have remembered := after.insert member
    rw [Rule.id, holds] at remembered
    rw [judge_no new, judged]
    exact ⟨by rw [holds], remembered⟩
  | junction id kind operands ih =>
    have members := family.operands _ member
    cases operands with
    | nil => exact .leaf family member rfl
    | cons first rest =>
      have truly : ∀ operand ∈ first :: rest, JudgedTruly event known operand :=
        fun operand inside => ih operand inside (members operand inside)
      refine .of_new family member fun verdicts truthful new => ?_
      obtain ⟨judged, after⟩ := truly first List.mem_cons_self verdicts truthful
      obtain ⟨combined, last⟩ := judgeRest_truly kind
        (fun operand inside => truly operand (List.mem_cons_of_mem _ inside)) (first.holds event) after
      rw [judge_junction new, judged]
      have whole : (judge.judgeRest event kind (first.holds event) rest
          (first.judge event verdicts).2).1 = (junction id kind (first :: rest)).holds event := by
        rw [combined, holds_junction, List.map_cons]
      have remembered := last.insert member
      rw [← whole, Rule.id] at remembered
      exact ⟨whole, remembered⟩

theorem Family.isMatch_eq_holds (family : Family known) {rule : Rule} (member : known rule)
    (event : Event) : rule.isMatch event = rule.holds event := by
  rw [isMatch, matchWith_eq_judge]
  exact (family.judgedTruly member ∅ (truthful_empty event known)).1

end Rule

end EventRouting
