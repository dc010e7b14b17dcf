import EventRouting.Proofs.Rule.NormalForm
import EventRouting.Proofs.Store.Sharing

set_option autoImplicit false

namespace EventRouting

namespace Rule

@[simp] theorem form_renumber (id : Nat) (rule : Rule) : (rule.renumber id).form = rule.form := by
  cases rule with
  | junction => rw [renumber, form_junction, form_junction]
  | anything | test | fuzzy | no => rfl

theorem expressions_eq_map (rules : List Rule) : expression.expressions rules = rules.map expression := by
  induction rules with
  | nil => rw [expression.expressions, List.map_nil]
  | cons operand rest ih => rw [expression.expressions, List.map_cons, ih]

theorem expression_junction (id : Nat) (kind : Junction) (first : Rule) (rest : List Rule) :
    (junction id kind (first :: rest)).expression =
      .junction kind first.expression (rest.map expression) := by
  rw [expression, expression.expressions, expressions_eq_map]

theorem contribution_form (kind : Junction) (rule : Rule) :
    rule.form.contribution kind = (rule.operandsOf kind).map form := by
  cases rule with
  | junction id other operands =>
    rw [form_junction, Form.contribution, operandsOf]
    split
    · rfl
    · rw [List.map_singleton, form_junction]
  | anything | test | fuzzy | no => rfl

theorem eq_anything_of_form {rule : Rule} (formed : rule.form = .anything) :
    ∃ id, rule = .anything id := by
  cases rule with
  | anything id => exact ⟨id, rfl⟩
  | junction => rw [form_junction] at formed; contradiction
  | test | fuzzy | no => contradiction

theorem eq_test_of_form {rule : Rule} {sense : Sense} {key : Option String} {value : Option Atom}
    (formed : rule.form = .test sense key value) :
    ∃ id atom, rule = .test id sense key atom ∧ atom.map SharedAtom.atom = value := by
  cases rule with
  | test id _ _ atom =>
    obtain ⟨rfl, rfl, rfl⟩ := Form.test.inj formed
    exact ⟨id, atom, rfl, rfl⟩
  | junction => rw [form_junction] at formed; contradiction
  | anything | fuzzy | no => contradiction

theorem eq_fuzzy_of_form {rule : Rule} {value : Atom} (formed : rule.form = .fuzzy value) :
    ∃ id atom, rule = .fuzzy id atom ∧ atom.atom = value := by
  cases rule with
  | fuzzy id atom => exact ⟨id, atom, rfl, Form.fuzzy.inj formed⟩
  | junction => rw [form_junction] at formed; contradiction
  | anything | test | no => contradiction

theorem eq_no_of_form {rule : Rule} {inner : Form} (formed : rule.form = .no inner) :
    ∃ id operand, rule = .no id operand ∧ operand.form = inner := by
  cases rule with
  | no id operand => exact ⟨id, operand, rfl, Form.no.inj formed⟩
  | junction => rw [form_junction] at formed; contradiction
  | anything | test | fuzzy => contradiction

theorem eq_junction_of_form {rule : Rule} {kind : Junction} {forms : List Form}
    (formed : rule.form = .junction kind forms) :
    ∃ id operands, rule = .junction id kind operands ∧ operands.map form = forms := by
  cases rule with
  | junction id _ operands =>
    rw [form_junction] at formed
    obtain ⟨rfl, same⟩ := Form.junction.inj formed
    exact ⟨id, operands, rfl, same⟩
  | anything | test | fuzzy | no => contradiction

end Rule

namespace Store

namespace Ledger

variable {store : Store} {held nodes : List Handle}

theorem operands_injective (ledger : Ledger store held nodes) {left right : Nat} {kind : Junction}
    {operands others : List Rule} (inLeft : .rule (.junction left kind operands) ∈ nodes)
    (inRight : .rule (.junction right kind others) ∈ nodes)
    (injective : ∀ operand ∈ operands, ∀ other ∈ others, operand.form.same other.form = true →
      operand = other)
    (alike : Form.Alike (operands.map Rule.form) (others.map Rule.form)) : operands = others := by
  apply Rule.ascending_ext (ledger.flat _ inLeft).2.1 (ledger.flat _ inRight).2.1
  intro rule
  constructor
  · intro inside
    obtain ⟨form, member, same⟩ := alike.1 _ (List.mem_map_of_mem inside)
    obtain ⟨other, known, rfl⟩ := List.mem_map.1 member
    rwa [injective rule inside other known same]
  · intro inside
    obtain ⟨form, member, same⟩ := alike.2 _ (List.mem_map_of_mem inside)
    obtain ⟨operand, known, rfl⟩ := List.mem_map.1 member
    rwa [← injective operand known rule inside same]

/-- The form of a listed rule tells which rule it is. -/
theorem form_injective (ledger : Ledger store held nodes) {left right : Rule}
    (inLeft : .rule left ∈ nodes) (inRight : .rule right ∈ nodes)
    (same : left.form.same right.form = true) : left = right := by
  -- The parts are one by induction, and rules of one shape are one.
  induction left using Rule.induct generalizing right with
  | anything id =>
    obtain ⟨other, rfl⟩ := Rule.eq_anything_of_form ((Form.same_anything_iff _).1 same)
    exact ledger.shape_unique inLeft inRight rfl
  | test id sense key atom =>
    obtain ⟨other, otherAtom, rfl, values⟩ := Rule.eq_test_of_form ((Form.same_test_iff _ _ _ _).1 same)
    have equal : atom = otherAtom := by
      cases atom with
      | none => exact (Option.map_eq_none_iff.1 values).symm
      | some atom =>
        obtain ⟨otherAtom, rfl, value⟩ := Option.map_eq_some_iff.1 values
        rw [ledger.value_unique (ledger.part_mem inLeft (by simp))
          (ledger.part_mem inRight (by simp)) value.symm]
    subst equal
    exact ledger.shape_unique inLeft inRight rfl
  | fuzzy id atom =>
    obtain ⟨other, otherAtom, rfl, value⟩ := Rule.eq_fuzzy_of_form ((Form.same_fuzzy_iff _ _).1 same)
    have equal : atom = otherAtom :=
      ledger.value_unique (ledger.part_mem inLeft (by simp)) (ledger.part_mem inRight (by simp)) value.symm
    subst equal
    exact ledger.shape_unique inLeft inRight rfl
  | no id operand ih =>
    obtain ⟨form, formed, inner⟩ := (Form.same_no_iff _ _).1 same
    obtain ⟨other, otherOperand, rfl, rfl⟩ := Rule.eq_no_of_form formed
    have equal : operand = otherOperand :=
      ih (ledger.part_mem inLeft (by simp)) (ledger.part_mem inRight (by simp)) inner
    subst equal
    exact ledger.shape_unique inLeft inRight rfl
  | junction id kind operands ih =>
    rw [Rule.form_junction, Form.same_junction_iff] at same
    obtain ⟨forms, formed, alike⟩ := same
    obtain ⟨other, others, rfl, rfl⟩ := Rule.eq_junction_of_form formed
    have ours := ledger.operands_mem inLeft
    have theirs := ledger.operands_mem inRight
    have equal : operands = others := by
      apply ledger.operands_injective inLeft inRight _ alike
      intro operand inside other known
      exact ih operand inside (ours operand inside) (theirs other known)
    subst equal
    exact ledger.shape_unique inLeft inRight rfl

/-- The operands of a junction are, as forms, what the normal forms of its arguments contribute. -/
theorem junctionOperands_alike (ledger : Ledger store held nodes) (kind : Junction)
    (given : List (Rule × Expression)) (known : ∀ pair ∈ given, .rule pair.1 ∈ nodes)
    (told : ∀ pair ∈ given, pair.1.form.same pair.2.normal = true) :
    Form.Alike ((Rule.junctionOperands kind (given.map Prod.fst)).map Rule.form)
      (((given.map Prod.snd).map Expression.normal).flatMap (Form.contribution kind)) := by
  have rules : ∀ rule ∈ given.map Prod.fst, .rule rule ∈ nodes := by
    intro rule inside
    obtain ⟨pair, member, rfl⟩ := List.mem_map.1 inside
    exact known pair member
  obtain ⟨members, -⟩ := ledger.junctionOperands_spec kind rules
  have alike (pair : Rule × Expression) (inside : pair ∈ given) :
      Form.Alike ((pair.1.operandsOf kind).map Rule.form) (pair.2.normal.contribution kind) := by
    rw [← Rule.contribution_form]
    exact Form.alike_contribution kind (told pair inside)
  constructor
  · intro form inside
    obtain ⟨operand, listed, rfl⟩ := List.mem_map.1 inside
    obtain ⟨rule, inRules, contributed⟩ := (members operand).1 listed
    obtain ⟨pair, member, rfl⟩ := List.mem_map.1 inRules
    obtain ⟨other, found, same⟩ := (alike pair member).1 _ (List.mem_map_of_mem contributed)
    refine ⟨other, List.mem_flatMap.2 ⟨pair.2.normal, ?_, found⟩, same⟩
    exact List.mem_map_of_mem (List.mem_map_of_mem member)
  · intro form inside
    obtain ⟨normal, inNormals, contributed⟩ := List.mem_flatMap.1 inside
    obtain ⟨origin, inOrigins, rfl⟩ := List.mem_map.1 inNormals
    obtain ⟨pair, member, rfl⟩ := List.mem_map.1 inOrigins
    obtain ⟨other, found, same⟩ := (alike pair member).2 _ contributed
    obtain ⟨operand, ofRule, rfl⟩ := List.mem_map.1 found
    refine ⟨_, List.mem_map_of_mem ((members operand).2 ⟨pair.1, ?_, ofRule⟩), same⟩
    exact List.mem_map_of_mem member

/-- Operands that are, as forms, those of a normal form make the rule of that normal form. -/
theorem same_collapse (ledger : Ledger store held nodes) {kind : Junction} {operands : List Rule}
    {forms : List Form} (known : ∀ operand ∈ operands, .rule operand ∈ nodes)
    (ascending : operands.Pairwise (·.id < ·.id)) (alike : Form.Alike (operands.map Rule.form) forms)
    {rule : Rule} (result : operands = [rule] ∨
      ∃ id, rule = .junction id kind operands ∧ 2 ≤ operands.length) :
    rule.form.same (.collapse kind forms) = true := by
  rcases result with rfl | ⟨id, rfl, many⟩
  · refine Form.same_collapse kind ?_ ?_
    · obtain ⟨form, inside, -⟩ := alike.1 rule.form (by simp)
      exact List.ne_nil_of_mem inside
    · intro form inside
      obtain ⟨other, member, same⟩ := alike.2 form inside
      rw [List.map_singleton, List.mem_singleton] at member
      rwa [member] at same
  · obtain ⟨first, second, rest, rfl⟩ := Rule.operands_eq_cons many
    -- Two operands differ, so the forms do not collapse.
    obtain ⟨left, inLeft, sameLeft⟩ := alike.1 first.form (by simp)
    obtain ⟨right, inRight, sameRight⟩ := alike.1 second.form (by simp)
    have different : left.same right = false := by
      rw [Bool.eq_false_iff]
      intro same
      have forms := Form.same_trans (Form.same_trans sameLeft same) (Form.same_symm sameRight)
      have equal := ledger.form_injective (known first (by simp)) (known second (by simp)) forms
      have less := (List.pairwise_cons.1 ascending).1 second List.mem_cons_self
      rw [equal] at less
      exact Nat.lt_irrefl _ less
    rw [Form.collapse_eq_junction inLeft inRight different, Rule.form_junction]
    exact (Form.same_junction_iff _ _ _).2 ⟨forms, rfl, alike⟩

/-- A listed rule is in the normal form of its own expression. -/
theorem form_expression (ledger : Ledger store held nodes) {rule : Rule} (member : .rule rule ∈ nodes) :
    rule.form.same rule.expression.normal = true := by
  induction rule using Rule.induct with
  | anything | test | fuzzy => exact Form.same_refl _
  | no id operand ih =>
    refine (Form.same_no_iff _ _).2 ⟨_, rfl, ih (ledger.part_mem member ?_)⟩
    simp
  | junction id kind operands ih =>
    obtain ⟨many, ascending, -⟩ := ledger.flat _ member
    have known := ledger.operands_mem member
    have alone : Rule.junctionOperands kind operands = operands :=
      Balanced.junctionOperands_known ⟨nodes, ledger⟩ ((ledger.lists_iff _).2 member)
    have alike := ledger.junctionOperands_alike kind
      (operands.map fun operand => (operand, operand.expression)) (by simpa using known)
      (by simpa using fun operand inside => ih operand inside (known operand inside))
    simp only [List.map_map, Function.comp_def, List.map_id'] at alike
    rw [alone] at alike
    cases operands with
    | nil => simp at many
    | cons first rest =>
      rw [Rule.expression_junction, Expression.normal_junction]
      refine ledger.same_collapse known ascending ?_ (Or.inr ⟨id, rfl, many⟩)
      simpa [Function.comp_def] using alike

end Ledger

end Store

namespace Workspace

/-- Every rule in hand has the normal form of the expression it was asked for with. -/
def Told (work : Workspace) : Prop :=
  ∀ rule origin, .rule rule origin ∈ work.held → rule.form.same origin.normal = true

theorem Told.taken {work : Workspace} {rest : List Holding} (told : work.Told) (taken : List Holding)
    (given : work.held.Perm (taken ++ rest)) {rule : Rule} {origin : Expression}
    (inside : .rule rule origin ∈ taken ++ rest) : rule.form.same origin.normal = true :=
  told rule origin (given.mem_iff.2 inside)

theorem Told.gain {work : Workspace} {rest : List Holding} (told : work.Told) (taken : List Holding)
    (given : work.held.Perm (taken ++ rest)) {construct : Build Rule} {origin : Expression}
    (made : (construct work.store).1.form.same origin.normal = true) :
    (work.gain rest construct origin).Told := by
  intro rule stated inside
  rcases List.mem_cons.1 inside with same | inside
  · obtain ⟨rfl, rfl⟩ := Holding.rule.inj same
    exact made
  · exact told.taken taken given (List.mem_append_right _ inside)

theorem Told.cons {work : Workspace} (told : work.Told) {store : Store} {kept : Option Rule}
    {holding : Holding}
    (made : ∀ rule origin, holding = .rule rule origin → rule.form.same origin.normal = true) :
    Told ⟨store, kept, holding :: work.held⟩ := by
  intro rule origin inside
  rcases List.mem_cons.1 inside with same | inside
  · exact made rule origin same.symm
  · exact told rule origin inside

/-- An interned rule has the form of the candidate. -/
theorem Sound.interned_form {work : Workspace} {rest : List Holding} (sound : work.Sound)
    (taken : List Holding) (given : work.held.Perm (taken ++ rest)) {candidate : Rule}
    (parts : candidate.parts = taken.map Holding.handle) :
    (work.store.intern candidate).1.form = candidate.form := by
  obtain ⟨id, made⟩ := Store.intern_renumber candidate (parts ▸ sound.taken given)
  rw [made, Rule.form_renumber]

theorem Step.told {before after : Workspace} (step : Step before after) (sound : before.Sound)
    (told : before.Told) : after.Told := by
  cases step with
  | atom value => exact told.cons (by simp)
  | anything =>
    apply told.cons
    intro rule origin same
    obtain ⟨rfl, rfl⟩ := Holding.rule.inj same
    obtain ⟨id, made⟩ := sound.balanced.anything_eq
    rw [made]
    exact Form.same_refl _
  | test sense key atom taken =>
    apply told.gain _ taken
    rw [Store.test, sound.interned_form _ taken]
    · exact Form.same_refl _
    · simp [Function.comp_def]
  | fuzzy atom taken =>
    apply told.gain [.atom atom] taken
    rw [Store.fuzzy, sound.interned_form [.atom atom] taken]
    · exact Form.same_refl _
    · simp
  | no operand origin taken =>
    apply told.gain [.rule operand origin] taken
    rw [Store.no, sound.interned_form [.rule operand origin] taken]
    · exact (Form.same_no_iff _ _).2 ⟨_, rfl, told.taken [.rule operand origin] taken (by simp)⟩
    · simp
  | junction kind first more taken =>
    apply told.gain _ taken
    have balanced := sound.taken taken
    simp only [List.map_map, Function.comp_def, Holding.handle_rule] at balanced
    rw [← Function.comp_def Handle.rule Prod.fst, ← List.map_map] at balanced
    have result := balanced.junction_result kind (by simp)
    obtain ⟨nodes, ledger⟩ := balanced
    have known := ledger.rules_mem
    obtain ⟨members, ascending⟩ := ledger.junctionOperands_spec kind known
    have alike := ledger.junctionOperands_alike kind (first :: more)
      (fun pair inside => known pair.1 (List.mem_map_of_mem inside))
      (fun pair inside => told.taken _ taken (List.mem_append_left _
        (List.mem_map.2 ⟨pair, inside, rfl⟩)))
    rw [Expression.normal_junction]
    refine ledger.same_collapse ?_ ascending alike result
    intro operand inside
    obtain ⟨rule, inRules, contributed⟩ := (members operand).1 inside
    exact ledger.operandsOf_mem (known rule inRules) contributed
  | clone member =>
    exact told.cons fun rule origin same => told rule origin (same ▸ member)
  | clonePart live =>
    rename_i part
    apply told.cons
    intro rule origin same
    cases part with
    | atom atom => cases same
    | rule held =>
      obtain ⟨rfl, rfl⟩ := Holding.rule.inj same
      obtain ⟨nodes, ledger⟩ := sound.balanced
      exact ledger.form_expression ((ledger.mem_iff_reachable _).2 live)
  | drop taken =>
    intro rule origin inside
    exact told rule origin (taken.mem_iff.2 (List.mem_cons_of_mem _ inside))

theorem Run.told {before after : Workspace} (run : Run before after) (sound : before.Sound)
    (told : before.Told) : after.Told := by
  induction run with
  | refl => exact told
  | tail early step ih => exact step.told (Run.sound early sound) ih

theorem start_told : start.Told := by
  simp [Told, start]

/-- What is built from an expression has its normal form, and can be got at afterwards like all that could
be got at before. -/
theorem Sound.built {work : Workspace} (sound : work.Sound) (told : work.Told) (expression : Expression) :
    ∃ after, Run work after ∧ after.store = (expression.build work.store).2 ∧
      (expression.build work.store).1.form.same expression.normal = true ∧
      after.Live (.rule (expression.build work.store).1) ∧
      ∀ node, work.Live node → after.Live node := by
  obtain ⟨kept, run⟩ := sound.build_runs expression
  refine ⟨_, run, rfl, run.told sound told _ _ List.mem_cons_self, ?_, fun node live => live.mono ?_⟩
  · exact .root (List.mem_append_right _ List.mem_cons_self)
  · intro root member
    rcases List.mem_append.1 member with inKept | inHeld
    · obtain ⟨rule, same, rfl⟩ := List.mem_map.1 inKept
      have later := Run.kept run (Option.mem_toList.1 same)
      exact List.mem_append_left _ (List.mem_map.2 ⟨rule, Option.mem_toList.2 later, rfl⟩)
    · exact List.mem_append_right _ (List.mem_cons_of_mem _ inHeld)

/-- An expression with the normal form of a rule in use is built as that rule. -/
theorem Sound.build_known {work : Workspace} (sound : work.Sound) (told : work.Told) {rule : Rule}
    (live : work.Live (.rule rule)) {expression : Expression}
    (same : rule.form.same expression.normal = true) : (expression.build work.store).1 = rule := by
  obtain ⟨after, run, -, made, known, later⟩ := sound.built told expression
  obtain ⟨nodes, ledger⟩ := (run.sound sound).balanced
  exact ledger.form_injective ((ledger.mem_iff_reachable _).2 known)
    ((ledger.mem_iff_reachable _).2 (later _ live)) (Form.same_trans made (Form.same_symm same))

/-- Of two expressions with one normal form, the one that is built later gives the rule of the other. -/
theorem Sound.build_agreeing {work : Workspace} (sound : work.Sound) (told : work.Told)
    {first second : Expression} (agrees : first.Agrees second) :
    (second.build (first.build work.store).2).1 = (first.build work.store).1 := by
  obtain ⟨after, run, same, form, live, -⟩ := sound.built told first
  rw [← same]
  exact (run.sound sound).build_known (run.told sound told) live (Form.same_trans form agrees)

/-- In every state of every run, two rules in hand have one number exactly if the expressions they were
asked for with have the same normal form, and a junction has two or more operands, ascending by number and
none of them of its own kind. -/
theorem same_rule_iff_same_normal {work : Workspace} (run : Run start work) :
    (∀ left right leftOrigin rightOrigin, .rule left leftOrigin ∈ work.held →
      .rule right rightOrigin ∈ work.held →
        (left.id = right.id ↔ leftOrigin.normal.same rightOrigin.normal = true)) ∧
      ∀ id kind operands, work.Live (.rule (.junction id kind operands)) →
        2 ≤ operands.length ∧ operands.Pairwise (·.id < ·.id) ∧
          ∀ operand ∈ operands, operand.isJunction kind = false := by
  have sound := run.sound start_sound
  have told := run.told start_sound start_told
  obtain ⟨nodes, ledger⟩ := sound.balanced
  have known {rule : Rule} {origin : Expression} (inside : .rule rule origin ∈ work.held) :
      .rule rule ∈ nodes :=
    ledger.held_mem (List.mem_append_right _ (List.mem_map.2 ⟨_, inside, rfl⟩))
  refine ⟨fun left right leftOrigin rightOrigin inLeft inRight =>
    ⟨fun same => ?_, fun same => ?_⟩, ?_⟩
  · have equal := ledger.rule_unique (known inLeft) (known inRight) same
    subst equal
    exact Form.same_trans (Form.same_symm (told _ _ inLeft)) (told _ _ inRight)
  · have forms : left.form.same right.form = true :=
      Form.same_trans (Form.same_trans (told _ _ inLeft) same) (Form.same_symm (told _ _ inRight))
    rw [ledger.form_injective (known inLeft) (known inRight) forms]
  · intro id kind operands live
    exact ledger.flat _ ((ledger.mem_iff_reachable _).2 live)

/-- The order of operands does not count, and a denial is another rule than what it denies. -/
theorem same_rule_swapped :
    ((Expression.both (.no .anything) .anything).build
        ((Expression.both .anything (.no .anything)).build start.store).2).1.id =
      ((Expression.both .anything (.no .anything)).build start.store).1.id := by
  obtain ⟨kept, early⟩ := start_sound.build_runs (.both .anything (.no .anything))
  obtain ⟨last, late⟩ := (early.sound start_sound).build_runs (.both (.no .anything) .anything)
  refine ((same_rule_iff_same_normal (early.trans late)).1 _ _ _ _ List.mem_cons_self
    (List.mem_cons_of_mem _ List.mem_cons_self)).2 ?_
  decide

end Workspace

end EventRouting
