import EventRouting.Proofs.RuleText.RoundTrip
import EventRouting.Proofs.Store.Records

set_option autoImplicit false

namespace EventRouting.RuleText

open Text

/-- Text at a level that is read as just this expression. -/
def Reading : Level → Expression → List Char → Prop
  | .unary => ReadsOperand
  | .conjunction => Chain (ReadsAs .unary) "and" .and
  | .disjunction => Chain (ReadsAs .conjunction) "or" .or
  | .expression => ReadsWhole

variable {expression : Expression} {text : List Char}

theorem Reading.loosen {least precedence : Nat} (reading : Reading (levelOf precedence) expression text)
    (bound : least ≤ precedence) : Reading (levelOf least) expression text := by
  match least, precedence with
  | 0, 0 => exact reading
  | 0, 1 => exact .single (readsAs_conjunction reading)
  | 0, precedence + 2 => exact .single (readsAs_conjunction (.single (ReadsOperand.operand reading)))
  | 1, 1 => exact reading
  | 1, precedence + 2 => exact .single (ReadsOperand.operand reading)
  | least + 2, precedence + 2 => exact reading

theorem Reading.whole {precedence : Nat} (reading : Reading (levelOf precedence) expression text) :
    ReadsWhole expression text := by
  have whole := readsWhole blanks_nil (readsAs_disjunction (reading.loosen (Nat.zero_le _))) blanks_nil
  rwa [List.nil_append, List.append_nil] at whole

theorem reading_operandText {precedence : Nat} {operand : Rule}
    (reading : Reading (levelOf operand.precedence) expression (writeBefore [] operand)) :
    Reading (levelOf precedence) expression (operandText precedence operand) := by
  unfold operandText
  split
  · exact @Reading.loosen _ _ precedence (precedence + 2) (readsOperand_parentheses reading.whole)
      (Nat.le_add_right _ _)
  · next tight => exact reading.loosen (Nat.le_of_not_lt tight)

theorem writeBefore_no (id : Nat) (operand : Rule) :
    writeBefore [] (.no id operand) = ['n', 'o'] ++ [' '] ++ operandText 2 operand := by
  rw [writeBefore, operandText, writeBefore_append operand [')']]
  rfl

theorem writeBefore_junction (id : Nat) (kind : Junction) (operands : List Rule) :
    writeBefore [] (.junction id kind operands) = joinWith (junctionWord kind)
      (operands.map (operandText (Rule.junction id kind operands).precedence)) := by
  rw [writeBefore, writeOperands_eq _ _ _ fun operand _ => writeBefore_append operand, List.append_nil]

/-- The numbers of rules do not show in their texts. -/
theorem writeBefore_of_form {left right : Rule} (same : left.form = right.form) :
    left.precedence = right.precedence ∧ writeBefore [] left = writeBefore [] right := by
  have stands {operand other : Rule} {precedence : Nat}
      (alike : operand.precedence = other.precedence ∧ writeBefore [] operand = writeBefore [] other) :
      operandText precedence operand = operandText precedence other := by
    rw [operandText, operandText, alike.1, alike.2]
  induction left using Rule.induct generalizing right with
  | anything id =>
    obtain ⟨other, rfl⟩ := Rule.eq_anything_of_form same.symm
    exact ⟨rfl, rfl⟩
  | test id sense key atom =>
    obtain ⟨other, otherAtom, rfl, value⟩ := Rule.eq_test_of_form same.symm
    exact ⟨rfl, by rw [writeBefore, writeBefore, value]⟩
  | fuzzy id atom =>
    obtain ⟨other, otherAtom, rfl, value⟩ := Rule.eq_fuzzy_of_form same.symm
    exact ⟨rfl, by rw [writeBefore, writeBefore, value]⟩
  | no id operand ih =>
    obtain ⟨other, inner, rfl, formed⟩ := Rule.eq_no_of_form same.symm
    exact ⟨rfl, by rw [writeBefore_no, writeBefore_no, stands (ih formed.symm)]⟩
  | junction id kind operands ih =>
    rw [Rule.form_junction] at same
    obtain ⟨other, others, rfl, formed⟩ := Rule.eq_junction_of_form same.symm
    have precedence :
        (Rule.junction id kind operands).precedence = (Rule.junction other kind others).precedence := by
      cases kind <;> rfl
    refine ⟨precedence, ?_⟩
    rw [writeBefore_junction, writeBefore_junction, precedence]
    refine congrArg _ (map_eq_of_map_eq formed.symm fun operand inside counterpart _ alike => ?_)
    exact stands (ih operand inside alike)

section Junctions

variable {kind : Junction}

theorem reading_link {left right : Expression} {first second : List Char} (id : Nat) (operands : List Rule)
    (head : Reading (levelOf ((Rule.junction id kind operands).precedence + 1)) left first)
    (tail : Reading (levelOf (Rule.junction id kind operands).precedence) right second) :
    Reading (levelOf (Rule.junction id kind operands).precedence) (.junction kind left [right])
      (first ++ junctionWord kind ++ second) := by
  cases kind with
  | and =>
    have spelled : Spells "and" ['a', 'n', 'd'] := by simp [Spells]
    have linked := Chain.link (ReadsOperand.operand head) ⟨blanks_space, Or.inl (by simp)⟩ spelled
      ⟨blanks_space, Or.inl (by simp)⟩ tail
    have word : junctionWord .and = [' '] ++ ['a', 'n', 'd'] ++ [' '] := by simp [junctionWord]
    rw [word, ← List.append_assoc, ← List.append_assoc]
    exact linked
  | or =>
    have spelled : Spells "or" ['o', 'r'] := by simp [Spells]
    have linked := Chain.link (readsAs_conjunction head) ⟨blanks_space, Or.inl (by simp)⟩ spelled
      ⟨blanks_space, Or.inl (by simp)⟩ tail
    have word : junctionWord .or = [' '] ++ ['o', 'r'] ++ [' '] := by simp [junctionWord]
    rw [word, ← List.append_assoc, ← List.append_assoc]
    exact linked

/-- Only a junction of the same kind binds as tightly as a junction. -/
theorem precedence_ne {operand : Rule} (other : operand.isJunction kind = false) (id : Nat)
    (operands : List Rule) : operand.precedence ≠ (Rule.junction id kind operands).precedence := by
  cases operand with
  | anything | test | fuzzy | no => cases kind <;> simp [Rule.precedence]
  | junction _ own => cases kind <;> cases own <;> simp_all [Rule.precedence, Rule.isJunction]

/-- In a junction of another kind an operand stands as it would stand in something tighter. -/
theorem operandText_other {operand : Rule} (other : operand.isJunction kind = false) (id : Nat)
    (operands : List Rule) :
    operandText (Rule.junction id kind operands).precedence operand =
      operandText ((Rule.junction id kind operands).precedence + 1) operand := by
  have apart := precedence_ne other id operands
  have same : operand.precedence < (Rule.junction id kind operands).precedence + 1 ↔
      operand.precedence < (Rule.junction id kind operands).precedence := by omega
  simp only [operandText, same]

theorem reading_operands (id : Nat) (operands : List Rule) {first : Rule} {rest : List Rule}
    (each : ∀ operand ∈ first :: rest, operand.isJunction kind = false ∧
      Reading (levelOf operand.precedence) operand.expression.grouped (writeBefore [] operand)) :
    Reading (levelOf (Rule.junction id kind operands).precedence)
      (Expression.chain kind first.expression.grouped (rest.map fun operand => operand.expression.grouped))
      (joinWith (junctionWord kind)
        ((first :: rest).map (operandText (Rule.junction id kind operands).precedence))) := by
  induction rest generalizing first with
  | nil => exact reading_operandText (each first List.mem_cons_self).2
  | cons second more ih =>
    obtain ⟨other, reading⟩ := each first List.mem_cons_self
    have head := @reading_operandText _ ((Rule.junction id kind operands).precedence + 1) _ reading
    rw [← operandText_other other] at head
    exact reading_link id operands head
      (ih fun operand inside => each operand (List.mem_cons_of_mem _ inside))

end Junctions

open Store in
/-- A rule in the tables is read from its text with the operands of each junction grouped to the right. -/
theorem reading_writeBefore {store : Store} {held nodes : List Handle} (ledger : Ledger store held nodes)
    {rule : Rule} (member : .rule rule ∈ nodes) (scanned : rule.form.Every Scanned) :
    Reading (levelOf rule.precedence) rule.expression.grouped (writeBefore [] rule) := by
  induction rule using Rule.induct with
  | anything id => exact LeafText.readsOperand .anything
  | test id sense key atom =>
    rw [writeBefore, List.append_nil]
    exact (leafText_writeTest sense key scanned).readsOperand
  | fuzzy id atom =>
    rw [writeBefore, List.append_nil]
    exact (leafText_writeFuzzy scanned).readsOperand
  | no id operand ih =>
    have inner := ih (ledger.part_mem member (by simp)) scanned
    have spelled : Spells "no" ['n', 'o'] := by simp [Spells]
    have reading := readsOperand_no spelled ⟨blanks_space, Or.inl (by simp)⟩
      (@reading_operandText _ 2 _ inner)
    rw [writeBefore_no]
    exact reading
  | junction id kind operands ih =>
    obtain ⟨many, -, kinds⟩ := ledger.flat _ member
    have known := ledger.operands_mem member
    rw [Rule.form_junction, Form.every_junction] at scanned
    obtain ⟨first, second, more, rfl⟩ := Rule.operands_eq_cons many
    have reading := reading_operands id (first :: second :: more) fun operand inside =>
      ⟨kinds operand inside, ih operand inside (known operand inside)
        (scanned _ (List.mem_map_of_mem inside))⟩
    rw [writeBefore_junction, Rule.expression_junction, Expression.grouped_junction, List.map_map]
    exact reading

open Workspace

variable {work other : Workspace} {rule : Rule}

theorem read?_write (sound : work.Sound) (live : work.Live (.rule rule))
    (scanned : rule.form.Every Scanned) :
    RuleText.read? (write rule) = some rule.expression.grouped := by
  obtain ⟨nodes, ledger⟩ := sound.balanced
  exact read?_of_readsWhole
    (reading_writeBefore ledger ((ledger.mem_iff_reachable _).2 live) scanned).whole

/-- Rules have one text exactly if they are one expression, whatever states they are taken from. -/
theorem write_eq_iff {next : Rule} (sound : work.Sound) (live : work.Live (.rule rule))
    (scanned : rule.form.Every Scanned) (soundOther : other.Sound) (liveNext : other.Live (.rule next))
    (scannedNext : next.form.Every Scanned) :
    write next = write rule ↔ next.expression = rule.expression := by
  constructor
  · intro same
    have texts := congrArg RuleText.read? same
    rw [read?_write sound live scanned, read?_write soundOther liveNext scannedNext] at texts
    exact (soundOther.flat liveNext).grouped_injective (sound.flat live) (Option.some.inj texts)
  · intro same
    have forms : next.form = rule.form := by
      rw [sound.form_eq live, soundOther.form_eq liveNext, same]
    rw [write, write, (writeBefore_of_form forms).2]

end EventRouting.RuleText
