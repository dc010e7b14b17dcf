import EventRouting.Proofs.Rule.Canonical

set_option autoImplicit false

namespace EventRouting

/-- Lists with one image have another image in common, if items of one image do. -/
theorem map_eq_of_map_eq {Item Image Other : Type} {image : Item → Image} {other : Item → Other}
    {left right : List Item} (same : left.map image = right.map image)
    (equal : ∀ a ∈ left, ∀ b ∈ right, image a = image b → other a = other b) :
    left.map other = right.map other := by
  induction left generalizing right with
  | nil => rw [List.map_eq_nil_iff.1 same.symm]
  | cons a rest ih =>
    cases right with
    | nil => simp at same
    | cons b others =>
      rw [List.map_cons, List.map_cons, List.cons.injEq] at same
      rw [List.map_cons, List.map_cons, equal a List.mem_cons_self b List.mem_cons_self same.1,
        ih same.2 fun c first d second =>
          equal c (List.mem_cons_of_mem _ first) d (List.mem_cons_of_mem _ second)]

theorem eq_of_map_eq {Item Image : Type} {image : Item → Image} {left right : List Item}
    (same : left.map image = right.map image)
    (equal : ∀ a ∈ left, ∀ b ∈ right, image a = image b → a = b) : left = right := by
  have ids : left.map id = right.map id := map_eq_of_map_eq same equal
  rwa [List.map_id, List.map_id] at ids

abbrev Register := List CanonicalRule

namespace Register

/-- A rule that is not listed yet comes last. -/
def enter (register : Register) (rule : CanonicalRule) : Register :=
  if rule ∈ register then register else register ++ [rule]

def enterAll (register : Register) (rules : List CanonicalRule) : Register := rules.foldl enter register

/-- The rules stand in the order of the register. -/
def Ascending (register : Register) (rules : List CanonicalRule) : Prop :=
  rules.Pairwise (register.idxOf · < register.idxOf ·)

instance (register : Register) (rules : List CanonicalRule) : Decidable (register.Ascending rules) :=
  inferInstanceAs (Decidable (rules.Pairwise (register.idxOf · < register.idxOf ·)))

variable {register longer : Register} {rules : List CanonicalRule} {rule other : CanonicalRule}

theorem enter_known (known : rule ∈ register) : enter register rule = register := if_pos known

theorem prefix_enter (register : Register) (rule : CanonicalRule) : register <+: enter register rule := by
  unfold enter
  split
  · exact List.prefix_rfl
  · exact List.prefix_append _ _

theorem mem_enter : other ∈ enter register rule ↔ other ∈ register ∨ other = rule := by
  unfold enter
  split
  · next known =>
    refine ⟨Or.inl, ?_⟩
    rintro (listed | rfl)
    · exact listed
    · exact known
  · rw [List.mem_append, List.mem_singleton]

theorem enterAll_append (register : Register) (first second : List CanonicalRule) :
    enterAll register (first ++ second) = enterAll (enterAll register first) second :=
  List.foldl_append

theorem prefix_enterAll (register : Register) (rules : List CanonicalRule) :
    register <+: enterAll register rules := by
  induction rules generalizing register with
  | nil => exact List.prefix_rfl
  | cons rule rest ih => exact (prefix_enter register rule).trans (ih _)

theorem mem_enterAll : other ∈ enterAll register rules ↔ other ∈ register ∨ other ∈ rules := by
  induction rules generalizing register with
  | nil => simp [enterAll]
  | cons rule rest ih =>
    rw [enterAll, List.foldl_cons, ← enterAll, ih, mem_enter, List.mem_cons, or_assoc]

theorem enterAll_known (known : ∀ rule ∈ rules, rule ∈ register) :
    enterAll register rules = register := by
  induction rules with
  | nil => rfl
  | cons rule rest ih =>
    rw [enterAll, List.foldl_cons, enter_known (known rule List.mem_cons_self), ← enterAll,
      ih fun other inside => known other (List.mem_cons_of_mem _ inside)]

/-- A rule that is listed comes before one that is not listed yet. -/
theorem idxOf_lt_of_prefix (early : register <+: longer) (known : rule ∈ register)
    (new : other ∉ register) :
    longer.idxOf rule < longer.idxOf other := by
  obtain ⟨more, rfl⟩ := early
  rw [List.idxOf_append_of_mem known, List.idxOf_append_of_notMem new]
  exact Nat.lt_add_right _ (List.idxOf_lt_length_of_mem known)

theorem Ascending.ext {left right : List CanonicalRule} (first : Ascending register left)
    (second : Ascending register right) (same : ∀ rule, rule ∈ left ↔ rule ∈ right) :
    left = right := by
  have once {rules : List CanonicalRule} (ascending : Ascending register rules) : rules.Nodup :=
    List.Pairwise.imp (fun less equal => Nat.ne_of_lt less (congrArg register.idxOf equal)) ascending
  refine List.Perm.eq_of_pairwise ?_ first second
    ((List.perm_ext_iff_of_nodup (once first) (once second)).2 same)
  intro a b _ _ less more
  exact absurd (Nat.lt_trans less more) (Nat.lt_irrefl _)

end Register

namespace Expression

def operands : Expression → List Expression
  | no operand => [operand]
  | junction _ first rest => first :: rest
  | anything | test _ _ _ | fuzzy _ => []

def isJunction (kind : Junction) : Expression → Bool
  | junction other _ _ => other == kind
  | anything | test _ _ _ | fuzzy _ | no _ => false

/-- The rules of all parts, each after those of its operands. -/
def parts : Expression → List CanonicalRule
  | anything => [anything.canonical]
  | test sense key atom => [(test sense key atom).canonical]
  | fuzzy atom => [(fuzzy atom).canonical]
  | no operand => operand.parts ++ [(no operand).canonical]
  | junction kind first rest => first.parts ++ partsAll rest ++ [(junction kind first rest).canonical]
where
  partsAll : List Expression → List CanonicalRule
    | [] => []
    | operand :: rest => operand.parts ++ partsAll rest

theorem parts_eq (expression : Expression) :
    expression.parts = expression.operands.flatMap parts ++ [expression.canonical] := by
  have all (expressions : List Expression) : parts.partsAll expressions = expressions.flatMap parts := by
    induction expressions with
    | nil => rfl
    | cons operand rest ih => rw [parts.partsAll, ih, List.flatMap_cons]
  cases expression with
  | anything | test | fuzzy => rfl
  | no operand => simp [parts, operands]
  | junction kind first rest => rw [parts, all, operands, List.flatMap_cons]

theorem canonical_mem_parts (expression : Expression) : expression.canonical ∈ expression.parts := by
  rw [parts_eq]
  exact List.mem_append_right _ (List.mem_singleton.2 rfl)

/-- The parts of an expression, entered one after the other. -/
def enroll (register : Register) (expression : Expression) : Register := register.enterAll expression.parts

/-- The operands of each junction have the property. -/
inductive Throughout (property : Junction → List Expression → Prop) : Expression → Prop where
  | anything : Throughout property anything
  | test (sense : Sense) (key : Option String) (atom : Option Atom) :
    Throughout property (test sense key atom)
  | fuzzy (atom : Atom) : Throughout property (fuzzy atom)
  | no {operand : Expression} (inside : Throughout property operand) : Throughout property (no operand)
  | junction {kind : Junction} {first : Expression} {rest : List Expression}
    (here : property kind (first :: rest))
    (inside : ∀ operand ∈ first :: rest, Throughout property operand) :
    Throughout property (junction kind first rest)

theorem Throughout.operand {property : Junction → List Expression → Prop} {expression : Expression}
    (throughout : expression.Throughout property) :
    ∀ operand ∈ expression.operands, operand.Throughout property := by
  cases throughout with
  | anything | test | fuzzy => simp [operands]
  | no inside => simpa [operands] using inside
  | junction here inside => exact inside

theorem Throughout.pair {property : Junction → List Expression → Prop} {kind : Junction}
    {left right : Expression} (here : property kind [left, right]) (inLeft : left.Throughout property)
    (inRight : right.Throughout property) : (Expression.junction kind left [right]).Throughout property :=
  .junction here (List.forall_mem_cons.2 ⟨inLeft, List.forall_mem_singleton.2 inRight⟩)

/-- Junctions have two or more operands, which are different rules and not of their own kind. -/
def Flat : Expression → Prop := Throughout fun kind operands =>
  2 ≤ operands.length ∧ (∀ operand ∈ operands, operand.isJunction kind = false) ∧
    operands.Pairwise (·.canonical ≠ ·.canonical)

/-- No operand of a junction is a part of an operand before it. -/
def Layered : Expression → Prop := Throughout fun _ operands =>
  operands.Pairwise fun earlier later => later.canonical ∉ earlier.parts

/-- Operands stand in the order of the register. -/
def InOrder (register : Register) : Expression → Prop := Throughout fun _ operands =>
  register.Ascending (operands.map canonical)

theorem Flat.operand {expression : Expression} (flat : expression.Flat) :
    ∀ operand ∈ expression.operands, operand.Flat :=
  Throughout.operand flat

/-- A junction of different rules that are not of its kind keeps its operands. -/
theorem normal_of_apart {kind : Junction} {first second : Expression} {rest : List Expression}
    (apart : ∀ operand ∈ first :: second :: rest, operand.normal.contribution kind = [operand.normal])
    (different : first.canonical ≠ second.canonical) :
    (junction kind first (second :: rest)).normal =
      .junction kind ((first :: second :: rest).map normal) := by
  have kept : ((first :: second :: rest).map normal).flatMap (Form.contribution kind) =
      (first :: second :: rest).map normal := by
    rw [List.flatMap_map, List.flatMap_congr apart, List.map_eq_flatMap]
  have unlike : first.normal.same second.normal = false :=
    Bool.eq_false_iff.2 fun same => different (canonical_eq_iff.2 same)
  rw [normal_junction, kept]
  exact Form.collapse_eq_junction (by simp) (by simp) unlike

theorem Flat.contribution {expression : Expression} (flat : expression.Flat) {kind : Junction}
    (other : expression.isJunction kind = false) :
    expression.normal.contribution kind = [expression.normal] := by
  induction expression using induct generalizing kind with
  | anything | test | fuzzy | no => rfl
  | junction own first rest ih =>
    cases flat with
    | junction here inside =>
      obtain ⟨many, kinds, distinct⟩ := here
      cases rest with
      | nil => simp at many
      | cons second rest =>
        have different := (List.pairwise_cons.1 distinct).1 second List.mem_cons_self
        rw [normal_of_apart
          (fun operand known => ih operand known (inside operand known) (kinds operand known)) different,
          Form.contribution, if_neg (by simpa [isJunction] using other)]

/-- The normal form of a flat junction has the normal forms of its operands. -/
theorem Flat.normal_junction {kind : Junction} {first : Expression} {rest : List Expression}
    (flat : (junction kind first rest).Flat) :
    (junction kind first rest).normal = .junction kind ((first :: rest).map normal) := by
  have operands := flat.operand
  cases flat with
  | junction here inside =>
    obtain ⟨many, kinds, distinct⟩ := here
    cases rest with
    | nil => simp at many
    | cons second rest =>
      exact normal_of_apart (fun operand known =>
        (operands operand known).contribution (kinds operand known))
        ((List.pairwise_cons.1 distinct).1 second List.mem_cons_self)

/-- The expressions are of one shape, and their operands are the same rules. -/
inductive Resembles : Expression → Expression → Prop where
  | leaf {expression : Expression} (alone : expression.operands = []) : Resembles expression expression
  | no {operand other : Expression} (same : operand.canonical = other.canonical) :
    Resembles (no operand) (no other)
  | junction {kind : Junction} {first other : Expression} {rest others : List Expression}
    (same : ∀ rule, rule ∈ (first :: rest).map canonical ↔ rule ∈ (other :: others).map canonical) :
    Resembles (junction kind first rest) (junction kind other others)

/-- Flat expressions of one rule are made of the same rules. -/
theorem Flat.resembles {left right : Expression} (flat : left.Flat) (flatRight : right.Flat)
    (same : left.canonical = right.canonical) : left.Resembles right := by
  have agrees : left.normal.same right.normal = true := canonical_eq_iff.1 same
  cases left with
  | anything | test | fuzzy =>
    simp only [normal, Form.same_anything_iff, Form.same_test_iff, Form.same_fuzzy_iff] at agrees
    cases right with
    | junction =>
      rw [flatRight.normal_junction] at agrees
      contradiction
    | anything | test | fuzzy | no =>
      cases agrees <;> exact .leaf rfl
  | no operand =>
    obtain ⟨form, formed, near⟩ := (Form.same_no_iff _ _).1 agrees
    cases right with
    | no other =>
      obtain rfl := Form.no.inj formed
      exact .no (canonical_eq_iff.2 near)
    | junction =>
      rw [flatRight.normal_junction] at formed
      contradiction
    | anything | test | fuzzy => contradiction
  | junction kind first rest =>
    rw [flat.normal_junction, Form.same_junction_iff] at agrees
    obtain ⟨forms, formed, alike⟩ := agrees
    cases right with
    | junction other first' rest' =>
      rw [flatRight.normal_junction] at formed
      obtain ⟨rfl, rfl⟩ := Form.junction.inj formed
      refine .junction fun rule => ⟨fun inside => ?_, fun inside => ?_⟩
      · obtain ⟨operand, member, rfl⟩ := List.mem_map.1 inside
        obtain ⟨form, listed, near⟩ := alike.1 _ (List.mem_map_of_mem member)
        obtain ⟨counterpart, known, rfl⟩ := List.mem_map.1 listed
        exact List.mem_map.2 ⟨counterpart, known, (canonical_eq_iff.2 near).symm⟩
      · obtain ⟨operand, member, rfl⟩ := List.mem_map.1 inside
        obtain ⟨form, listed, near⟩ := alike.2 _ (List.mem_map_of_mem member)
        obtain ⟨counterpart, known, rfl⟩ := List.mem_map.1 listed
        exact List.mem_map.2 ⟨counterpart, known, canonical_eq_iff.2 near⟩
    | anything | test | fuzzy | no => contradiction

theorem Resembles.operands_mem {left right : Expression} (resembles : left.Resembles right)
    (rule : CanonicalRule) :
    rule ∈ left.operands.map canonical ↔ rule ∈ right.operands.map canonical := by
  cases resembles with
  | leaf => exact Iff.rfl
  | no same => simp [operands, same]
  | junction same => exact same rule

theorem Resembles.isJunction {left right : Expression} (resembles : left.Resembles right)
    (kind : Junction) :
    left.isJunction kind = right.isJunction kind := by
  cases resembles <;> rfl

/-- A rule is written in one way in the order of a register. -/
theorem InOrder.unique {register : Register} {left right : Expression} (inLeft : left.InOrder register)
    (inRight : right.InOrder register) (flatLeft : left.Flat) (flatRight : right.Flat)
    (same : left.canonical = right.canonical) : left = right := by
  induction left using induct generalizing right with
  | anything | test | fuzzy =>
    cases flatLeft.resembles flatRight same with
    | leaf => rfl
  | no operand ih =>
    cases flatLeft.resembles flatRight same with
    | leaf => rfl
    | no equal =>
      rw [ih (inLeft.operand _ List.mem_cons_self) (inRight.operand _ List.mem_cons_self)
        (flatLeft.operand _ List.mem_cons_self) (flatRight.operand _ List.mem_cons_self) equal]
  | junction kind first rest ih =>
    have operandsLeft := inLeft.operand
    have operandsRight := inRight.operand
    have flats := flatRight.operand
    cases flatLeft.resembles flatRight same with
    | leaf => rfl
    | @junction _ _ other _ others members =>
      cases inLeft with
      | junction ascending =>
        cases inRight with
        | junction ascendingRight =>
          have equal : first :: rest = other :: others :=
            eq_of_map_eq (ascending.ext ascendingRight members)
                fun operand inside counterpart known alike =>
              ih operand inside (operandsLeft operand inside) (operandsRight counterpart known)
                (flatLeft.operand operand inside) (flats counterpart known) alike
          rw [(List.cons.inj equal).1, (List.cons.inj equal).2]

/-- What holds of an expression when it holds of its operands. -/
theorem induct_operands {motive : Expression → Prop}
    (step : ∀ expression : Expression, (∀ operand ∈ expression.operands, motive operand) →
      motive expression)
    (expression : Expression) : motive expression := by
  induction expression using induct with
  | anything | test | fuzzy => exact step _ (by simp [operands])
  | no operand ih => exact step _ (by simpa [operands] using ih)
  | junction kind first rest ih => exact step _ ih

/-- With a rule, what it is made of is listed. -/
def Closed (register : Register) : Prop :=
  ∀ expression : Expression, expression.Flat → expression.canonical ∈ register →
    ∀ operand ∈ expression.operands, operand.canonical ∈ register

variable {register longer : Register} {expression left right : Expression}

theorem Closed.parts (closed : Closed register) (flat : expression.Flat)
    (known : expression.canonical ∈ register) : ∀ rule ∈ expression.parts, rule ∈ register := by
  induction expression using induct_operands with
  | step expression ih =>
    rw [parts_eq]
    intro rule inside
    rcases List.mem_append.1 inside with inside | inside
    · obtain ⟨operand, member, part⟩ := List.mem_flatMap.1 inside
      exact ih operand member (flat.operand operand member)
        (closed expression flat known operand member) rule part
    · rwa [List.mem_singleton.1 inside]

theorem Flat.parts_closed (flat : expression.Flat) : Closed expression.parts := by
  induction expression using induct_operands with
  | step expression ih =>
    intro other otherFlat known operand inside
    rw [parts_eq] at known ⊢
    apply List.mem_append_left
    rcases List.mem_append.1 known with part | same
    · obtain ⟨whole, member, part⟩ := List.mem_flatMap.1 part
      exact List.mem_flatMap.2 ⟨whole, member,
        ih whole member (flat.operand whole member) other otherFlat part
        operand inside⟩
    · have resembles := otherFlat.resembles flat (List.mem_singleton.1 same)
      obtain ⟨counterpart, member, equal⟩ :=
        List.mem_map.1 ((resembles.operands_mem _).1 (List.mem_map_of_mem inside))
      exact List.mem_flatMap.2 ⟨counterpart, member, equal ▸ canonical_mem_parts counterpart⟩

theorem mem_enroll {rule : CanonicalRule} :
    rule ∈ enroll register expression ↔ rule ∈ register ∨ rule ∈ expression.parts :=
  Register.mem_enterAll

theorem prefix_enroll (register : Register) (expression : Expression) :
    register <+: enroll register expression :=
  Register.prefix_enterAll _ _

theorem closed_enroll (closed : Closed register) (flat : expression.Flat) :
    Closed (enroll register expression) := by
  intro other otherFlat known operand inside
  rw [mem_enroll] at known ⊢
  exact known.imp (closed other otherFlat · operand inside)
    (flat.parts_closed other otherFlat · operand inside)

/-- Nothing is new about a rule that is listed. -/
theorem Closed.enroll_known (closed : Closed register) (flat : expression.Flat)
    (known : expression.canonical ∈ register) (subset : register ⊆ longer) :
    enroll longer expression = longer :=
  Register.enterAll_known fun rule inside => subset (closed.parts flat known rule inside)

def enrollAll (register : Register) (expressions : List Expression) : Register :=
  expressions.foldl enroll register

theorem enroll_eq (register : Register) (expression : Expression) :
    enroll register expression = (enrollAll register expression.operands).enter expression.canonical := by
  have all (expressions : List Expression) (register : Register) :
      register.enterAll (expressions.flatMap parts) = enrollAll register expressions := by
    induction expressions generalizing register with
    | nil => rfl
    | cons operand rest ih => rw [List.flatMap_cons, Register.enterAll_append, ih]; rfl
  rw [enroll, parts_eq, Register.enterAll_append, all]
  rfl

theorem prefix_enrollAll (register : Register) (expressions : List Expression) :
    register <+: enrollAll register expressions := by
  induction expressions generalizing register with
  | nil => exact List.prefix_rfl
  | cons operand rest ih => exact (prefix_enroll register operand).trans (ih _)

/-- Only the rules that are not listed yet matter. -/
theorem Closed.enrollAll_filter (closed : Closed register) {expressions : List Expression}
    (flat : ∀ operand ∈ expressions, operand.Flat) (subset : register ⊆ longer) :
    enrollAll longer expressions = enrollAll longer (expressions.filter (·.canonical ∉ register)) := by
  induction expressions generalizing longer with
  | nil => rfl
  | cons operand rest ih =>
    have later := fun other inside => flat other (List.mem_cons_of_mem operand inside)
    by_cases known : operand.canonical ∈ register
    · rw [List.filter_cons_of_neg (by simpa using known), ← ih later subset, enrollAll, List.foldl_cons,
        closed.enroll_known (flat operand List.mem_cons_self) known subset, ← enrollAll]
    · rw [List.filter_cons_of_pos (by simpa using known)]
      exact ih later (List.Subset.trans subset (prefix_enroll longer operand).subset)

theorem mem_news_iff {expressions : List Expression} {rule : CanonicalRule} :
    rule ∈ (expressions.filter (·.canonical ∉ register)).map canonical ↔
      rule ∈ expressions.map canonical ∧ rule ∉ register := by
  simp only [List.mem_map, List.mem_filter, decide_eq_true_eq]
  constructor
  · rintro ⟨operand, ⟨inside, new⟩, rfl⟩
    exact ⟨⟨operand, inside, rfl⟩, new⟩
  · rintro ⟨⟨operand, inside, rfl⟩, new⟩
    exact ⟨operand, ⟨inside, new⟩, rfl⟩

/-- New rules, none of them a part of one before it, come up in the order in which they stand. -/
theorem ascending_of_layered {expressions : List Expression}
    (layered : expressions.Pairwise fun earlier later => later.canonical ∉ earlier.parts)
    (new : ∀ operand ∈ expressions, operand.canonical ∉ register)
    (early : enrollAll register expressions <+: longer) : longer.Ascending (expressions.map canonical) := by
  induction expressions generalizing register with
  | nil => exact List.Pairwise.nil
  | cons operand rest ih =>
    obtain ⟨apart, layered⟩ := List.pairwise_cons.1 layered
    have stillNew : ∀ other ∈ rest, other.canonical ∉ enroll register operand := by
      intro other inside known
      rcases mem_enroll.1 known with listed | part
      · exact new other (List.mem_cons_of_mem _ inside) listed
      · exact apart other inside part
    refine List.pairwise_cons.2 ⟨?_, ih layered stillNew early⟩
    intro rule inside
    obtain ⟨other, member, rfl⟩ := List.mem_map.1 inside
    exact Register.idxOf_lt_of_prefix ((prefix_enrollAll _ rest).trans early)
      (mem_enroll.2 (.inr (canonical_mem_parts operand))) (stillNew other member)

/-- Expressions of the same rules one by one leave the same register, if each two do. -/
theorem enrollAll_congr {expressions others : List Expression} (closed : Closed register)
    (flat : ∀ operand ∈ expressions, operand.Flat)
    (same : others.map canonical = expressions.map canonical)
    (each : ∀ operand ∈ expressions, ∀ other ∈ others, operand.canonical = other.canonical →
      ∀ register, Closed register → enroll register operand <+: longer →
        enroll register other = enroll register operand)
    (early : enrollAll register expressions <+: longer) :
    enrollAll register others = enrollAll register expressions := by
  induction expressions generalizing others register with
  | nil => rw [List.map_eq_nil_iff.1 same]
  | cons operand rest ih =>
    cases others with
    | nil => simp at same
    | cons other others =>
      rw [List.map_cons, List.map_cons, List.cons.injEq] at same
      have head := each operand List.mem_cons_self other List.mem_cons_self same.1.symm register closed
        ((prefix_enrollAll _ rest).trans early)
      have tail := ih (closed_enroll closed (flat operand List.mem_cons_self))
        (fun inner inside => flat inner (List.mem_cons_of_mem _ inside)) same.2
        (fun one first another second =>
          each one (List.mem_cons_of_mem _ first) another (List.mem_cons_of_mem _ second)) early
      rw [enrollAll, List.foldl_cons, head]
      exact tail

/-- The expression of a rule whose operands were ordered anew, after the order in which they came up,
leaves the same register as the one before. -/
theorem Layered.enroll_eq (layered : left.Layered) (flat : left.Flat) (flatRight : right.Flat)
    (ordered : right.InOrder longer) (same : left.canonical = right.canonical) (closed : Closed register)
    (early : enroll register left <+: longer) : enroll register right = enroll register left := by
  induction left using induct generalizing right register with
  | anything | test | fuzzy =>
    cases flat.resembles flatRight same with
    | leaf => rfl
  | no operand ih =>
    cases flat.resembles flatRight same with
    | leaf => rfl
    | @no _ other equal =>
      rw [Expression.enroll_eq] at early
      have inner := ih (layered.operand operand List.mem_cons_self)
        (flat.operand operand List.mem_cons_self)
        (flatRight.operand other List.mem_cons_self) (ordered.operand other List.mem_cons_self) equal closed
        ((Register.prefix_enter _ _).trans early)
      rw [Expression.enroll_eq, Expression.enroll_eq register (no operand), same]
      exact congrArg (Register.enter · _) inner
  | junction kind first rest ih =>
    have flats := flat.operand
    have flatsRight := flatRight.operand
    have layers := layered.operand
    have orders := ordered.operand
    cases flat.resembles flatRight same with
    | leaf => rfl
    | @junction _ _ other _ others members =>
      cases layered with
      | junction layered =>
        cases ordered with
        | junction ordered =>
          rw [Expression.enroll_eq] at early
          rw [Expression.enroll_eq, Expression.enroll_eq register (junction kind first rest), same]
          refine congrArg (Register.enter · _) ?_
          -- Of the operands, those that are not listed yet stand in one order on both sides.
          have news := closed.enrollAll_filter flats (List.Subset.refl register)
          have newsRight := closed.enrollAll_filter flatsRight (List.Subset.refl register)
          have early := (Register.prefix_enter _ _).trans early
          rw [news] at early
          rw [news, newsRight]
          have ascending := ascending_of_layered (layered.sublist List.filter_sublist) (by simp) early
          have ascendingRight := List.Pairwise.sublist
            ((List.filter_sublist (p := (·.canonical ∉ register))).map canonical) ordered
          have canonicals := Register.Ascending.ext ascendingRight ascending fun rule => by
            rw [mem_news_iff, mem_news_iff, and_congr_left_iff]
            exact fun _ => (members rule).symm
          refine enrollAll_congr closed (fun operand inside =>
            flats operand (List.mem_of_mem_filter inside))
            canonicals ?_ early
          intro operand inside counterpart known equal register closed early
          have inside := List.mem_of_mem_filter inside
          have known := List.mem_of_mem_filter known
          exact ih operand inside (layers operand inside) (flats operand inside)
            (flatsRight counterpart known)
            (orders counterpart known) equal closed early

/-- An expression whose operands stand in the order in which they came up before stays as it is. -/
theorem Layered.settled {middle : Expression} (layered : left.Layered) (flat : left.Flat)
    (closed : Closed register) (flatMiddle : middle.Flat) (ordered : middle.InOrder (enroll register left))
    (same : middle.canonical = left.canonical) (flatRight : right.Flat)
    (orderedRight : right.InOrder (enroll register middle))
    (sameRight : right.canonical = middle.canonical) :
    right = middle := by
  rw [layered.enroll_eq flat flatMiddle ordered same.symm closed List.prefix_rfl] at orderedRight
  exact orderedRight.unique ordered flatRight flatMiddle sameRight

/-- Operands grouped to the right. -/
def chain (kind : Junction) (first : Expression) : List Expression → Expression
  | [] => first
  | next :: rest => junction kind first [chain kind next rest]

/-- All junctions are of two operands, grouped to the right. -/
def grouped : Expression → Expression
  | no operand => no operand.grouped
  | junction kind first rest => chain kind first.grouped (groupedAll rest)
  | leaf => leaf
where
  groupedAll : List Expression → List Expression
    | [] => []
    | operand :: rest => operand.grouped :: groupedAll rest

theorem grouped_junction (kind : Junction) (first : Expression) (rest : List Expression) :
    (junction kind first rest).grouped = chain kind first.grouped (rest.map grouped) := by
  have all (expressions : List Expression) : grouped.groupedAll expressions = expressions.map grouped := by
    induction expressions with
    | nil => rfl
    | cons operand rest ih => rw [grouped.groupedAll, ih, List.map_cons]
  rw [grouped, all]

/-- Grouping does not change which rule is described. -/
theorem grouped_agrees (expression : Expression) : expression.grouped.Agrees expression := by
  induction expression using induct with
  | anything | test | fuzzy => exact .refl _
  | no operand ih => exact ih.no
  | junction kind first rest ih =>
    rw [grouped_junction]
    induction rest generalizing first with
    | nil => exact (ih first List.mem_cons_self).trans (junction_agrees_single kind first).symm
    | cons next rest inner =>
      have later := inner next fun operand inside => ih operand (List.mem_cons_of_mem _ inside)
      exact ((ih first List.mem_cons_self).junction later).trans
        (junction_agrees_nested kind first next rest).symm

/-- The operands that were grouped to the right. -/
def spine (kind : Junction) : Expression → List Expression
  | junction other first [second] =>
    if other = kind then first :: second.spine kind else [junction other first [second]]
  | expression => [expression]

theorem spine_of_not_junction {kind : Junction} (other : expression.isJunction kind = false) :
    expression.spine kind = [expression] := by
  unfold spine
  split
  · next own first second => rw [if_neg (by simpa [isJunction] using other)]
  · rfl

theorem spine_chain {kind : Junction} {first : Expression} {rest : List Expression}
    (kinds : ∀ operand ∈ first :: rest, operand.isJunction kind = false) :
    (chain kind first rest).spine kind = first :: rest := by
  induction rest generalizing first with
  | nil => exact spine_of_not_junction (kinds first List.mem_cons_self)
  | cons next rest ih =>
    rw [chain, spine, if_pos rfl, ih fun operand inside => kinds operand (List.mem_cons_of_mem _ inside)]

theorem Flat.isJunction_grouped (flat : expression.Flat) (kind : Junction) :
    expression.grouped.isJunction kind = expression.isJunction kind := by
  cases flat with
  | anything | test | fuzzy | no => rfl
  | @junction own first rest here =>
    rw [grouped_junction]
    cases rest with
    | nil => simp at here
    | cons next rest => rfl

theorem Flat.spine_grouped {kind : Junction} {first : Expression} {rest : List Expression}
    (flat : (junction kind first rest).Flat) :
    (junction kind first rest).grouped.spine kind = (first :: rest).map grouped := by
  have flats := flat.operand
  cases flat with
  | junction here =>
    rw [grouped_junction, spine_chain, List.map_cons]
    rw [← List.map_cons, List.forall_mem_map]
    intro operand inside
    rw [(flats operand inside).isJunction_grouped, here.2.1 operand inside]

/-- A flat expression is known by its grouping. -/
theorem Flat.grouped_injective (flat : left.Flat) (flatRight : right.Flat)
    (same : left.grouped = right.grouped) :
    left = right := by
  induction left using induct generalizing right with
  | anything | test | fuzzy =>
    cases right with
    | anything | test | fuzzy => exact same
    | no => simp [grouped] at same
    | junction own =>
      have isKind := flatRight.isJunction_grouped own
      rw [← same] at isKind
      simp [grouped, isJunction] at isKind
  | no operand ih =>
    cases right with
    | no other =>
      rw [ih (flat.operand operand List.mem_cons_self) (flatRight.operand other List.mem_cons_self)
        (Expression.no.inj same)]
    | junction own =>
      have isKind := flatRight.isJunction_grouped own
      rw [← same] at isKind
      simp [grouped, isJunction] at isKind
    | anything | test | fuzzy => simp [grouped] at same
  | junction kind first rest ih =>
    have isKind := flatRight.isJunction_grouped kind
    rw [← same, flat.isJunction_grouped] at isKind
    cases right with
    | junction own other others =>
      obtain rfl : own = kind := by simpa [isJunction] using isKind.symm
      have spines := congrArg (spine own) same
      rw [flat.spine_grouped, flatRight.spine_grouped] at spines
      have equal : first :: rest = other :: others :=
        eq_of_map_eq spines fun operand inside counterpart known alike =>
          ih operand inside (flat.operand operand inside) (flatRight.operand counterpart known) alike
      rw [(List.cons.inj equal).1, (List.cons.inj equal).2]
    | anything | test | fuzzy | no => simp [isJunction] at isKind

end Expression

end EventRouting
