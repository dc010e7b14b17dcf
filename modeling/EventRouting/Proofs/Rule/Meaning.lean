import EventRouting.Proofs.Rule.Identity

set_option autoImplicit false

namespace EventRouting

namespace Junction

/-- One settling verdict settles a junction, and nothing else does. -/
theorem combine_eq_settling_iff (kind : Junction) (verdicts : List Bool) :
    kind.combine verdicts = kind.settling ↔ kind.settling ∈ verdicts := by
  cases kind <;> simp [combine, settling]

/-- Verdicts are equal that settle a junction together. -/
theorem eq_of_settles_iff (kind : Junction) {left right : Bool}
    (same : left = kind.settling ↔ right = kind.settling) : left = right := by
  revert same
  cases left <;> cases right <;> cases kind <;> simp [settling]

theorem combine_congr (kind : Junction) {left right : List Bool}
    (same : kind.settling ∈ left ↔ kind.settling ∈ right) :
    kind.combine left = kind.combine right := by
  rw [← combine_eq_settling_iff, ← combine_eq_settling_iff] at same
  exact kind.eq_of_settles_iff same

end Junction

namespace Form

/-- The verdict on an event, operand by operand. -/
def holds (event : Event) : Form → Bool
  | anything => true
  | test sense key atom => event.passes sense key atom
  | fuzzy atom => event.mentions atom
  | no operand => !operand.holds event
  | junction kind operands => kind.combine (verdicts event operands)
where
  verdicts (event : Event) : List Form → List Bool
    | [] => []
    | operand :: rest => operand.holds event :: verdicts event rest

variable (event : Event)

theorem verdicts_eq_map (operands : List Form) :
    holds.verdicts event operands = operands.map (holds event) := by
  induction operands with
  | nil => rw [holds.verdicts, List.map_nil]
  | cons operand rest ih => rw [holds.verdicts, List.map_cons, ih]

theorem holds_junction (kind : Junction) (operands : List Form) :
    (junction kind operands).holds event = kind.combine (operands.map (holds event)) := by
  rw [holds, verdicts_eq_map]

theorem holds_junction_iff (kind : Junction) (operands : List Form) :
    (junction kind operands).holds event = kind.settling ↔
      ∃ operand ∈ operands, operand.holds event = kind.settling := by
  rw [holds_junction, kind.combine_eq_settling_iff, List.mem_map]

theorem holds_of_same {left right : Form} (equal : left.same right = true) :
    left.holds event = right.holds event := by
  induction left using induct generalizing right with
  | anything | test | fuzzy =>
    simp only [same_anything_iff, same_test_iff, same_fuzzy_iff] at equal
    rw [equal]
  | no operand ih =>
    obtain ⟨other, rfl, inner⟩ := (same_no_iff _ _).1 equal
    rw [holds, holds, ih inner]
  | junction kind operands ih =>
    obtain ⟨others, rfl, forth, back⟩ := (same_junction_iff _ _ _).1 equal
    rw [holds_junction, holds_junction]
    apply kind.combine_congr
    rw [List.mem_map, List.mem_map]
    constructor
    · rintro ⟨operand, inside, settles⟩
      obtain ⟨other, known, same⟩ := forth operand inside
      exact ⟨other, known, (ih operand inside same).symm.trans settles⟩
    · rintro ⟨other, known, settles⟩
      obtain ⟨operand, inside, same⟩ := back other known
      exact ⟨operand, inside, (ih operand inside same).trans settles⟩

/-- A form settles a junction exactly if something it contributes does. -/
theorem contribution_settles_iff (kind : Junction) (form : Form) :
    (∃ operand ∈ form.contribution kind, operand.holds event = kind.settling) ↔
      form.holds event = kind.settling := by
  cases form with
  | junction other operands =>
    by_cases own : other = kind
    · subst own
      rw [contribution, if_pos rfl, holds_junction_iff]
    · simp [contribution, own]
  | anything | test | fuzzy | no => simp [contribution]

/-- Collapsing keeps the verdict: an operand that stands for all of them has the verdict of each. -/
theorem holds_collapse_iff (kind : Junction) {operands : List Form} (some : operands ≠ []) :
    (collapse kind operands).holds event = kind.settling ↔
      ∃ operand ∈ operands, operand.holds event = kind.settling := by
  cases operands with
  | nil => exact absurd rfl some
  | cons first rest =>
    rw [collapse]
    split
    · next equal =>
      rw [List.all_eq_true] at equal
      constructor
      · exact fun settles => ⟨first, List.mem_cons_self, settles⟩
      · rintro ⟨operand, inside, settles⟩
        rcases List.mem_cons.1 inside with rfl | inside
        · exact settles
        · exact (holds_of_same event (equal operand inside)).trans settles
    · exact holds_junction_iff event kind _

end Form

namespace Expression

theorem verdicts_eq_map (event : Event) (expressions : List Expression) :
    holds.verdicts event expressions = expressions.map (holds event) := by
  induction expressions with
  | nil => rw [holds.verdicts, List.map_nil]
  | cons operand rest ih => rw [holds.verdicts, List.map_cons, ih]

theorem holds_junction (event : Event) (kind : Junction) (first : Expression) (rest : List Expression) :
    (junction kind first rest).holds event = kind.combine ((first :: rest).map (holds event)) := by
  rw [holds, verdicts_eq_map, List.map_cons]

theorem junction?_eq_none_iff {kind : Junction} {operands : List Expression} :
    junction? kind operands = none ↔ operands = [] := by
  cases operands <;> simp [junction?]

theorem holds_or_iff {operands : List Expression} {rule : Expression}
    (built : junction? .or operands = some rule) (event : Event) :
    rule.holds event = true ↔ ∃ operand ∈ operands, operand.holds event = true := by
  cases operands with
  | nil => contradiction
  | cons first rest =>
    obtain rfl := Option.some.inj built
    rw [holds_junction]
    exact (Junction.or.combine_eq_settling_iff _).trans List.mem_map

theorem holds_normal (event : Event) (expression : Expression) :
    expression.normal.holds event = expression.holds event := by
  induction expression using induct with
  | anything | test | fuzzy => rfl
  | no operand ih => rw [normal, Form.holds, holds, ih]
  | junction kind first rest ih =>
    have some : ((first :: rest).map normal).flatMap (Form.contribution kind) ≠ [] := by
      rw [List.map_cons, List.flatMap_cons]
      exact List.append_ne_nil_of_left_ne_nil (normal_settled first).contribution_ne_nil _
    apply kind.eq_of_settles_iff
    rw [normal_junction, Form.holds_collapse_iff event kind some, holds_junction,
      kind.combine_eq_settling_iff, List.mem_map]
    constructor
    · rintro ⟨form, inside, settles⟩
      obtain ⟨normal, member, contributes⟩ := List.mem_flatMap.1 inside
      obtain ⟨operand, known, rfl⟩ := List.mem_map.1 member
      refine ⟨operand, known, (ih operand known).symm.trans ?_⟩
      exact (Form.contribution_settles_iff event kind _).1 ⟨form, contributes, settles⟩
    · rintro ⟨operand, known, settles⟩
      obtain ⟨form, contributes, settled⟩ :=
        (Form.contribution_settles_iff event kind _).2 ((ih operand known).trans settles)
      exact ⟨form, List.mem_flatMap.2 ⟨_, List.mem_map_of_mem known, contributes⟩, settled⟩

end Expression

namespace Rule

theorem verdicts_eq_map (event : Event) (rules : List Rule) :
    holds.verdicts event rules = rules.map (holds event) := by
  induction rules with
  | nil => rw [holds.verdicts, List.map_nil]
  | cons operand rest ih => rw [holds.verdicts, List.map_cons, ih]

theorem holds_junction (event : Event) (id : Nat) (kind : Junction) (operands : List Rule) :
    (junction id kind operands).holds event = kind.combine (operands.map (holds event)) := by
  rw [holds, verdicts_eq_map]

theorem holds_form (event : Event) (rule : Rule) : rule.form.holds event = rule.holds event := by
  induction rule using induct with
  | anything | test | fuzzy => rfl
  | no id operand ih => rw [form, Form.holds, holds, ih]
  | junction id kind operands ih =>
    rw [form_junction, Form.holds_junction, holds_junction, List.map_map]
    exact congrArg kind.combine (List.map_congr_left ih)

/-- A rule in the normal form of an expression has its verdicts. -/
theorem holds_eq_of_same {rule : Rule} {expression : Expression}
    (same : rule.form.same expression.normal = true) (event : Event) :
    rule.holds event = expression.holds event := by
  rw [← holds_form, Form.holds_of_same event same, Expression.holds_normal]

end Rule

end EventRouting
