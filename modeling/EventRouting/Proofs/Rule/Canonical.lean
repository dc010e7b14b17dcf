import EventRouting.Proofs.Rule.Judging

set_option autoImplicit false

namespace EventRouting

namespace Expression

instance agreement : Setoid Expression := ⟨Agrees, .refl, .symm, .trans⟩

instance (left right : Expression) : Decidable (left ≈ right) :=
  inferInstanceAs (Decidable (left.normal.same right.normal = true))

end Expression

/-- All expressions that describe one rule. -/
abbrev CanonicalRule := Quotient Expression.agreement

def Expression.canonical (expression : Expression) : CanonicalRule := Quotient.mk _ expression

def Rule.canonical (rule : Rule) : CanonicalRule := rule.expression.canonical

/-- The verdict on an event, which all expressions of a class share. -/
def CanonicalRule.holds (event : Event) : CanonicalRule → Bool :=
  Quotient.lift (Expression.holds event) fun left right agrees => by
    rw [← Expression.holds_normal event left, ← Expression.holds_normal event right]
    exact Form.holds_of_same event agrees

@[simp] theorem Expression.holds_canonical (event : Event) (expression : Expression) :
    expression.canonical.holds event = expression.holds event := rfl

theorem Expression.canonical_eq_iff {left right : Expression} :
    left.canonical = right.canonical ↔ left.Agrees right :=
  ⟨Quotient.exact, fun agrees => Quotient.sound agrees⟩

namespace Workspace

variable {work : Workspace} {rule : Rule}

theorem Sound.form_expression (sound : work.Sound) (live : work.Live (.rule rule)) :
    rule.form.same rule.expression.normal = true := by
  obtain ⟨nodes, ledger⟩ := sound.balanced
  exact ledger.form_expression ((ledger.mem_iff_reachable _).2 live)

/-- A rule in hand is of the class of the expression it was asked for with. -/
theorem Told.canonical_eq (told : work.Told) (sound : work.Sound) {origin : Expression}
    (held : .rule rule origin ∈ work.held) : rule.canonical = origin.canonical := by
  refine Expression.canonical_eq_iff.2 (Form.same_trans ?_ (told rule origin held))
  exact Form.same_symm (sound.form_expression (live_of_held held))

/-- An expression is of the class of a rule in use exactly if it is built as that rule. -/
theorem Sound.build_eq_iff (sound : work.Sound) (told : work.Told) (live : work.Live (.rule rule))
    (expression : Expression) :
    (expression.build work.store).1 = rule ↔ expression.canonical = rule.canonical := by
  constructor
  · rintro same
    obtain ⟨after, -, -, made, -, -⟩ := sound.built told expression
    rw [same] at made
    exact Expression.canonical_eq_iff.2 (Form.same_trans (Form.same_symm made) (sound.form_expression live))
  · intro agrees
    apply sound.build_known told live
    exact Form.same_trans (sound.form_expression live)
      (Form.same_symm (Expression.canonical_eq_iff.1 agrees))

theorem Sound.canonical_injective (sound : work.Sound) {other : Rule} (live : work.Live (.rule rule))
    (otherLive : work.Live (.rule other)) (same : rule.canonical = other.canonical) : rule = other := by
  obtain ⟨nodes, ledger⟩ := sound.balanced
  apply ledger.form_injective ((ledger.mem_iff_reachable _).2 live)
    ((ledger.mem_iff_reachable _).2 otherLive)
  exact Form.same_trans (Form.same_trans (sound.form_expression live) (Expression.canonical_eq_iff.1 same))
    (Form.same_symm (sound.form_expression otherLive))

/-- Rules in use have one number exactly if they are of one class. -/
theorem Sound.id_eq_iff (sound : work.Sound) {other : Rule} (live : work.Live (.rule rule))
    (otherLive : work.Live (.rule other)) : rule.id = other.id ↔ rule.canonical = other.canonical := by
  constructor
  · intro same
    rw [sound.chronicle.family.unique rule other live otherLive same]
  · intro same
    rw [sound.canonical_injective live otherLive same]

theorem Sound.holds_canonical (sound : work.Sound) (live : work.Live (.rule rule)) (event : Event) :
    rule.canonical.holds event = rule.holds event :=
  sound.holds_expression live event

end Workspace

end EventRouting
