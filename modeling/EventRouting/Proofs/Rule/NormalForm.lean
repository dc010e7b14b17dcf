import EventRouting.Rule

set_option autoImplicit false

namespace EventRouting

inductive Form where
  | anything
  | test (sense : Sense) (key : Option String) (atom : Option Atom)
  | fuzzy (atom : Atom)
  | no (operand : Form)
  | junction (kind : Junction) (operands : List Form)

namespace Form

theorem induct {motive : Form → Prop} (anything : motive .anything)
    (test : ∀ sense key atom, motive (.test sense key atom)) (fuzzy : ∀ atom, motive (.fuzzy atom))
    (no : ∀ operand, motive operand → motive (.no operand))
    (junction : ∀ kind operands, (∀ operand ∈ operands, motive operand) →
      motive (.junction kind operands)) (form : Form) : motive form := by
  refine @Form.rec motive (fun operands => ∀ operand ∈ operands, motive operand) anything test fuzzy no
    junction (by simp) ?_ form
  intro operand rest first others
  simpa using ⟨first, others⟩

/-- Equality, with operands compared as a set. -/
def same : Form → Form → Bool
  | anything, other =>
    match other with
    | anything => true
    | _ => false
  | test sense key atom, other =>
    match other with
    | test otherSense otherKey otherAtom => sense = otherSense ∧ key = otherKey ∧ atom = otherAtom
    | _ => false
  | fuzzy atom, other =>
    match other with
    | fuzzy otherAtom => atom = otherAtom
    | _ => false
  | no operand, other =>
    match other with
    | no otherOperand => operand.same otherOperand
    | _ => false
  | junction kind operands, other =>
    match other with
    | junction otherKind others =>
      kind = otherKind ∧ within operands others ∧ others.all (among operands)
    | _ => false
where
  /-- Each of the operands is one of the others. -/
  within : List Form → List Form → Bool
    | [], _ => true
    | operand :: rest, others => others.any operand.same && within rest others
  /-- One of the operands is the other. -/
  among : List Form → Form → Bool
    | [], _ => false
    | operand :: rest, other => operand.same other || among rest other

theorem within_iff (operands others : List Form) :
    same.within operands others = true ↔
      ∀ operand ∈ operands, ∃ other ∈ others, operand.same other := by
  induction operands with
  | nil => simp [same.within]
  | cons operand rest ih => simp [same.within, ih]

theorem among_iff (operands : List Form) (other : Form) :
    same.among operands other = true ↔ ∃ operand ∈ operands, operand.same other := by
  induction operands with
  | nil => simp [same.among]
  | cons operand rest ih => simp [same.among, ih]

/-- The operands of two junctions, as sets. -/
def Alike (operands others : List Form) : Prop :=
  (∀ operand ∈ operands, ∃ other ∈ others, operand.same other) ∧
    ∀ other ∈ others, ∃ operand ∈ operands, operand.same other

@[simp] theorem same_anything_iff (form : Form) : anything.same form = true ↔ form = anything := by
  cases form <;> simp [same]

@[simp] theorem same_test_iff (sense : Sense) (key : Option String) (atom : Option Atom) (form : Form) :
    (test sense key atom).same form = true ↔ form = test sense key atom := by
  cases form with
  | test =>
    simp only [same, decide_eq_true_eq, test.injEq]
    constructor
    · rintro ⟨rfl, rfl, rfl⟩
      exact ⟨rfl, rfl, rfl⟩
    · rintro ⟨rfl, rfl, rfl⟩
      exact ⟨rfl, rfl, rfl⟩
  | anything | fuzzy | no | junction => simp [same]

@[simp] theorem same_fuzzy_iff (atom : Atom) (form : Form) :
    (fuzzy atom).same form = true ↔ form = fuzzy atom := by
  cases form <;> simp [same, eq_comm]

theorem same_no_iff (operand form : Form) :
    (no operand).same form = true ↔ ∃ other, form = no other ∧ operand.same other := by
  cases form <;> simp [same]

theorem same_junction_iff (kind : Junction) (operands : List Form) (form : Form) :
    (junction kind operands).same form = true ↔
      ∃ others, form = junction kind others ∧ Alike operands others := by
  cases form with
  | junction otherKind others =>
    simp only [same, within_iff, Bool.decide_and, Bool.and_eq_true, decide_eq_true_eq, List.all_eq_true,
      among_iff, junction.injEq, Alike]
    constructor
    · rintro ⟨rfl, both⟩
      exact ⟨others, ⟨rfl, rfl⟩, both⟩
    · rintro ⟨_, ⟨rfl, rfl⟩, both⟩
      exact ⟨rfl, both⟩
  | anything | test | fuzzy | no => simp [same]

theorem same_refl (form : Form) : form.same form = true := by
  induction form using induct with
  | anything | test | fuzzy => simp
  | no operand ih => exact (same_no_iff _ _).2 ⟨operand, rfl, ih⟩
  | junction kind operands ih =>
    exact (same_junction_iff _ _ _).2 ⟨operands, rfl,
      fun operand inside => ⟨operand, inside, ih operand inside⟩,
      fun operand inside => ⟨operand, inside, ih operand inside⟩⟩

theorem same_symm {left right : Form} (equal : left.same right = true) : right.same left = true := by
  induction left using induct generalizing right with
  | anything | test | fuzzy =>
    simp only [same_anything_iff, same_test_iff, same_fuzzy_iff] at equal
    rw [equal]
    exact same_refl _
  | no operand ih =>
    obtain ⟨other, rfl, inner⟩ := (same_no_iff _ _).1 equal
    exact (same_no_iff _ _).2 ⟨operand, rfl, ih inner⟩
  | junction kind operands ih =>
    obtain ⟨others, rfl, forth, back⟩ := (same_junction_iff _ _ _).1 equal
    refine (same_junction_iff _ _ _).2 ⟨operands, rfl, ?_, ?_⟩
    · intro other inside
      obtain ⟨operand, known, inner⟩ := back other inside
      exact ⟨operand, known, ih operand known inner⟩
    · intro operand inside
      obtain ⟨other, known, inner⟩ := forth operand inside
      exact ⟨other, known, ih operand inside inner⟩

theorem same_trans {first second third : Form} (early : first.same second = true)
    (late : second.same third = true) : first.same third = true := by
  induction first using induct generalizing second third with
  | anything | test | fuzzy =>
    simp only [same_anything_iff, same_test_iff, same_fuzzy_iff] at early
    rwa [early] at late
  | no operand ih =>
    obtain ⟨middle, rfl, inner⟩ := (same_no_iff _ _).1 early
    obtain ⟨last, rfl, outer⟩ := (same_no_iff _ _).1 late
    exact (same_no_iff _ _).2 ⟨last, rfl, ih inner outer⟩
  | junction kind operands ih =>
    obtain ⟨middles, rfl, forth, back⟩ := (same_junction_iff _ _ _).1 early
    obtain ⟨others, rfl, further, return_⟩ := (same_junction_iff _ _ _).1 late
    refine (same_junction_iff _ _ _).2 ⟨others, rfl, ?_, ?_⟩
    · intro operand inside
      obtain ⟨middle, known, inner⟩ := forth operand inside
      obtain ⟨other, found, outer⟩ := further middle known
      exact ⟨other, found, ih operand inside inner outer⟩
    · intro other inside
      obtain ⟨middle, known, outer⟩ := return_ other inside
      obtain ⟨operand, found, inner⟩ := back middle known
      exact ⟨operand, found, ih operand found inner outer⟩

/-- What a form contributes to a junction. -/
def contribution (kind : Junction) : Form → List Form
  | junction other operands => if other = kind then operands else [junction other operands]
  | form => [form]

/-- The junction of some operands, or the one operand if they are all the same. -/
def collapse (kind : Junction) : List Form → Form
  | [] => junction kind []
  | first :: rest => if rest.all first.same then first else junction kind (first :: rest)

end Form

/-- Operands first, then their junction: nested junctions of its kind are taken apart. -/
def Expression.normal : Expression → Form
  | anything => .anything
  | test sense key atom => .test sense key atom
  | fuzzy atom => .fuzzy atom
  | no operand => .no operand.normal
  | junction kind first rest =>
    .collapse kind ((first.normal :: normals rest).flatMap (Form.contribution kind))
where
  normals : List Expression → List Form
    | [] => []
    | operand :: rest => operand.normal :: normals rest

/-- The form of a rule as it stands. -/
def Rule.form : Rule → Form
  | anything _ => .anything
  | test _ sense key atom => .test sense key (atom.map SharedAtom.atom)
  | fuzzy _ atom => .fuzzy atom.atom
  | no _ operand => .no operand.form
  | junction _ kind operands => .junction kind (forms operands)
where
  forms : List Rule → List Form
    | [] => []
    | operand :: rest => operand.form :: forms rest

theorem Rule.induct {motive : Rule → Prop} (anything : ∀ id, motive (.anything id))
    (test : ∀ id sense key atom, motive (.test id sense key atom))
    (fuzzy : ∀ id atom, motive (.fuzzy id atom))
    (no : ∀ id operand, motive operand → motive (.no id operand))
    (junction : ∀ id kind operands, (∀ operand ∈ operands, motive operand) →
      motive (.junction id kind operands)) (rule : Rule) : motive rule := by
  refine @Rule.rec motive (fun operands => ∀ operand ∈ operands, motive operand) anything test fuzzy no
    junction (by simp) ?_ rule
  intro operand rest first others
  simpa using ⟨first, others⟩

theorem Expression.normals_eq_map (expressions : List Expression) :
    normal.normals expressions = expressions.map normal := by
  induction expressions with
  | nil => rw [normal.normals, List.map_nil]
  | cons operand rest ih => rw [normal.normals, List.map_cons, ih]

theorem Expression.normal_junction (kind : Junction) (first : Expression) (rest : List Expression) :
    (junction kind first rest).normal =
      .collapse kind (((first :: rest).map normal).flatMap (Form.contribution kind)) := by
  rw [normal, normals_eq_map, List.map_cons]

theorem Rule.forms_eq_map (rules : List Rule) : form.forms rules = rules.map form := by
  induction rules with
  | nil => rw [form.forms, List.map_nil]
  | cons operand rest ih => rw [form.forms, List.map_cons, ih]

theorem Rule.form_junction (id : Nat) (kind : Junction) (operands : List Rule) :
    (junction id kind operands).form = .junction kind (operands.map form) := by
  rw [form, forms_eq_map]

namespace Form

/-- Operands that are all the same collapse to one of them. -/
theorem same_collapse (kind : Junction) {only : Form} {operands : List Form} (some : operands ≠ [])
    (all : ∀ operand ∈ operands, only.same operand) : only.same (collapse kind operands) = true := by
  cases operands with
  | nil => exact absurd rfl some
  | cons first rest =>
    have equal := all first List.mem_cons_self
    have rests : rest.all first.same = true := by
      rw [List.all_eq_true]
      exact fun operand inside =>
        same_trans (same_symm equal) (all operand (List.mem_cons_of_mem _ inside))
    rw [collapse, if_pos rests]
    exact equal

/-- Operands that differ stay a junction. -/
theorem collapse_eq_junction {kind : Junction} {operands : List Form} {left right : Form}
    (inLeft : left ∈ operands) (inRight : right ∈ operands) (different : left.same right = false) :
    collapse kind operands = junction kind operands := by
  cases operands with
  | nil => rfl
  | cons first rest =>
    rw [collapse, if_neg]
    intro rests
    rw [List.all_eq_true] at rests
    have toFirst : ∀ operand ∈ first :: rest, first.same operand = true := by
      intro operand inside
      rcases List.mem_cons.1 inside with rfl | inside
      · exact same_refl _
      · exact rests operand inside
    rw [same_trans (same_symm (toFirst left inLeft)) (toFirst right inRight)] at different
    contradiction

/-- Forms that are the same contribute the same. -/
theorem alike_contribution (kind : Junction) {left right : Form} (equal : left.same right = true) :
    Alike (left.contribution kind) (right.contribution kind) := by
  cases left with
  | junction other operands =>
    obtain ⟨others, rfl, both⟩ := (same_junction_iff _ _ _).1 equal
    by_cases own : other = kind
    · simpa [contribution, own] using both
    · simp [contribution, own, Alike, equal]
  | no operand =>
    obtain ⟨other, rfl, inner⟩ := (same_no_iff _ _).1 equal
    simp [contribution, Alike, equal]
  | anything | test | fuzzy =>
    simp only [same_anything_iff, same_test_iff, same_fuzzy_iff] at equal
    simp [equal, contribution, Alike]

theorem Alike.refl (operands : List Form) : Alike operands operands :=
  ⟨fun operand inside => ⟨operand, inside, same_refl operand⟩,
    fun operand inside => ⟨operand, inside, same_refl operand⟩⟩

theorem Alike.symm {left right : List Form} (alike : Alike left right) : Alike right left := by
  constructor
  · intro operand inside
    obtain ⟨other, known, equal⟩ := alike.2 operand inside
    exact ⟨other, known, same_symm equal⟩
  · intro operand inside
    obtain ⟨other, known, equal⟩ := alike.1 operand inside
    exact ⟨other, known, same_symm equal⟩

theorem Alike.append {left right others more : List Form} (front : Alike left others)
    (back : Alike right more) : Alike (left ++ right) (others ++ more) := by
  constructor
  · intro operand inside
    rcases List.mem_append.1 inside with inside | inside
    · obtain ⟨other, known, equal⟩ := front.1 operand inside
      exact ⟨other, List.mem_append_left _ known, equal⟩
    · obtain ⟨other, known, equal⟩ := back.1 operand inside
      exact ⟨other, List.mem_append_right _ known, equal⟩
  · intro other inside
    rcases List.mem_append.1 inside with inside | inside
    · obtain ⟨operand, known, equal⟩ := front.2 other inside
      exact ⟨operand, List.mem_append_left _ known, equal⟩
    · obtain ⟨operand, known, equal⟩ := back.2 other inside
      exact ⟨operand, List.mem_append_right _ known, equal⟩

theorem Alike.ne_nil {left right : List Form} (alike : Alike left right) (some : left ≠ []) :
    right ≠ [] := by
  obtain ⟨operand, inside⟩ := List.exists_mem_of_ne_nil left some
  obtain ⟨other, known, -⟩ := alike.1 operand inside
  exact List.ne_nil_of_mem known

/-- Operands that are the same set make the same junction. -/
theorem collapse_congr (kind : Junction) {left right : List Form} (alike : Alike left right)
    (some : left ≠ []) : (collapse kind left).same (collapse kind right) = true := by
  by_cases equal : ∀ a ∈ left, ∀ b ∈ left, a.same b = true
  · obtain ⟨only, inside⟩ := List.exists_mem_of_ne_nil left some
    have ours := same_collapse kind some (equal only inside)
    have theirs : only.same (collapse kind right) = true := by
      apply same_collapse kind (alike.ne_nil some)
      intro other known
      obtain ⟨operand, member, near⟩ := alike.2 other known
      exact same_trans (equal only inside operand member) near
    exact same_trans (same_symm ours) theirs
  · simp only [Classical.not_forall] at equal
    obtain ⟨a, inA, b, inB, different⟩ := equal
    obtain ⟨c, inC, nearA⟩ := alike.1 a inA
    obtain ⟨d, inD, nearB⟩ := alike.1 b inB
    have apart : c.same d = false := by
      rw [Bool.eq_false_iff]
      exact fun near => different (same_trans (same_trans nearA near) (same_symm nearB))
    rw [collapse_eq_junction inA inB (Bool.eq_false_iff.2 different), collapse_eq_junction inC inD apart]
    exact (same_junction_iff _ _ _).2 ⟨right, rfl, alike⟩

/-- No junction is empty, collapses, or stands directly under one of its kind. -/
inductive Settled : Form → Prop where
  | anything : Settled anything
  | test (sense : Sense) (key : Option String) (atom : Option Atom) : Settled (test sense key atom)
  | fuzzy (atom : Atom) : Settled (fuzzy atom)
  | no {operand : Form} (settled : Settled operand) : Settled (no operand)
  | junction {kind : Junction} {operands : List Form} (some : operands ≠ [])
    (settled : ∀ operand ∈ operands, Settled operand)
    (apart : ∀ operand ∈ operands, operand.contribution kind = [operand])
    (whole : collapse kind operands = junction kind operands) : Settled (junction kind operands)

theorem Settled.contribution {kind : Junction} {form : Form} (settled : form.Settled) :
    ∀ operand ∈ form.contribution kind,
      operand.Settled ∧ operand.contribution kind = [operand] := by
  cases settled with
  | @junction other operands some settled apart whole =>
    by_cases own : other = kind
    · subst own
      simpa [Form.contribution] using fun operand inside =>
        ⟨settled operand inside, apart operand inside⟩
    · simpa [Form.contribution, own] using Settled.junction some settled apart whole
  | anything => simpa [Form.contribution] using Settled.anything
  | test sense key atom => simpa [Form.contribution] using Settled.test sense key atom
  | fuzzy atom => simpa [Form.contribution] using Settled.fuzzy atom
  | no settled => simpa [Form.contribution] using Settled.no settled

theorem Settled.contribution_ne_nil {kind : Junction} {form : Form} (settled : form.Settled) :
    form.contribution kind ≠ [] := by
  cases settled with
  | @junction other operands some settled apart =>
    by_cases own : other = kind
    · simpa [Form.contribution, own] using some
    · simp [Form.contribution, own]
  | anything | test | fuzzy | no => simp [Form.contribution]

theorem Settled.collapse {kind : Junction} {operands : List Form} (some : operands ≠ [])
    (settled : ∀ operand ∈ operands, operand.Settled)
    (apart : ∀ operand ∈ operands, operand.contribution kind = [operand]) :
    (collapse kind operands).Settled := by
  cases operands with
  | nil => exact absurd rfl some
  | cons first rest =>
    rw [Form.collapse]
    split
    · exact settled first List.mem_cons_self
    · next differ => exact .junction some settled apart (by rw [Form.collapse, if_neg differ])

/-- What a settled form contributes collapses to the form itself. -/
theorem Settled.collapse_contribution {form : Form} (settled : form.Settled) (kind : Junction) :
    Form.collapse kind (form.contribution kind) = form := by
  have alone (other : Form) : Form.collapse kind [other] = other := by simp [Form.collapse]
  cases settled with
  | @junction other operands some settled apart whole =>
    by_cases own : other = kind
    · subst own
      rw [Form.contribution, if_pos rfl, whole]
    · rw [Form.contribution, if_neg own, alone]
  | anything | test | fuzzy | no => exact alone _

/-- A collapsed junction contributes its operands to one of its kind. -/
theorem contribution_collapse {kind : Junction} {operands : List Form}
    (apart : ∀ operand ∈ operands, operand.contribution kind = [operand]) :
    Alike ((collapse kind operands).contribution kind) operands := by
  cases operands with
  | nil => simp [collapse, contribution, Alike]
  | cons first rest =>
    rw [collapse]
    split
    · rename_i rests
      rw [apart first List.mem_cons_self]
      rw [List.all_eq_true] at rests
      constructor
      · intro operand inside
        rw [List.mem_singleton] at inside
        exact ⟨first, List.mem_cons_self, inside ▸ same_refl _⟩
      · intro other inside
        refine ⟨first, List.mem_cons_self, ?_⟩
        rcases List.mem_cons.1 inside with rfl | inside
        · exact same_refl _
        · exact rests other inside
    · rw [contribution, if_pos rfl]
      exact Alike.refl _

end Form

namespace Expression

theorem induct {motive : Expression → Prop} (anything : motive .anything)
    (test : ∀ sense key atom, motive (.test sense key atom)) (fuzzy : ∀ atom, motive (.fuzzy atom))
    (no : ∀ operand, motive operand → motive (.no operand))
    (junction : ∀ kind first rest, (∀ operand ∈ first :: rest, motive operand) →
      motive (.junction kind first rest)) (expression : Expression) : motive expression := by
  refine @Expression.rec motive (fun operands => ∀ operand ∈ operands,
    motive operand) anything test fuzzy
    no ?_ (by simp) ?_ expression
  · intro kind first rest firstHolds others
    exact junction kind first rest (by simpa using ⟨firstHolds, others⟩)
  · intro operand rest first others
    simpa using ⟨first, others⟩

theorem normal_settled (expression : Expression) : expression.normal.Settled := by
  induction expression using induct with
  | anything => exact .anything
  | test sense key atom => exact .test sense key atom
  | fuzzy atom => exact .fuzzy atom
  | no operand ih => exact .no ih
  | junction kind first rest ih =>
    have contributed : ∀ form ∈ ((first :: rest).map normal).flatMap (Form.contribution kind),
        form.Settled ∧ form.contribution kind = [form] := by
      intro form inside
      obtain ⟨normal, member, contributes⟩ := List.mem_flatMap.1 inside
      obtain ⟨operand, known, rfl⟩ := List.mem_map.1 member
      exact (ih operand known).contribution form contributes
    rw [normal_junction]
    refine .collapse ?_ (fun form inside => (contributed form inside).1)
      fun form inside => (contributed form inside).2
    rw [List.map_cons, List.flatMap_cons]
    exact List.append_ne_nil_of_left_ne_nil (ih first List.mem_cons_self).contribution_ne_nil _

/-- A junction's normal form contributes to one of its kind what its operands do. -/
theorem contribution_normal (kind : Junction) (first : Expression) (rest : List Expression) :
    Form.Alike ((junction kind first rest).normal.contribution kind)
      (((first :: rest).map normal).flatMap (Form.contribution kind)) := by
  rw [normal_junction]
  apply Form.contribution_collapse
  intro form inside
  obtain ⟨normal, member, contributes⟩ := List.mem_flatMap.1 inside
  obtain ⟨operand, -, rfl⟩ := List.mem_map.1 member
  exact ((normal_settled operand).contribution form contributes).2

def Agrees (left right : Expression) : Prop := left.normal.same right.normal = true

theorem Agrees.refl (expression : Expression) : Agrees expression expression := Form.same_refl _

theorem Agrees.symm {left right : Expression} (agrees : Agrees left right) : Agrees right left :=
  Form.same_symm agrees

theorem Agrees.trans {first second third : Expression} (early : Agrees first second)
    (late : Agrees second third) : Agrees first third :=
  Form.same_trans early late

theorem Agrees.no {left right : Expression} (agrees : Agrees left right) :
    Agrees (.no left) (.no right) :=
  (Form.same_no_iff _ _).2 ⟨_, rfl, agrees⟩

/-- Junctions agree when their operands contribute the same. -/
theorem Agrees.of_alike {kind : Junction} {first other : Expression} {rest others : List Expression}
    (alike : Form.Alike (((first :: rest).map normal).flatMap (Form.contribution kind))
      (((other :: others).map normal).flatMap (Form.contribution kind))) :
    Agrees (junction kind first rest) (junction kind other others) := by
  rw [Agrees, normal_junction, normal_junction]
  apply Form.collapse_congr kind alike
  rw [List.map_cons, List.flatMap_cons]
  exact List.append_ne_nil_of_left_ne_nil (normal_settled first).contribution_ne_nil _

theorem Agrees.junction {kind : Junction} {left right other more : Expression}
    (front : Agrees left other) (back : Agrees right more) :
    Agrees (.junction kind left [right]) (.junction kind other [more]) := by
  refine .of_alike ?_
  simpa using (Form.alike_contribution kind front).append (Form.alike_contribution kind back)

/-- A junction of one operand is that operand. -/
theorem junction_agrees_single (kind : Junction) (only : Expression) :
    Agrees (junction kind only []) only := by
  have normal : (junction kind only []).normal = only.normal := by
    rw [normal_junction, List.map_singleton, List.flatMap_singleton,
      (normal_settled only).collapse_contribution]
  rw [Agrees, normal]
  exact Form.same_refl _

/-- The operands after the first may be a junction of their own. -/
theorem junction_agrees_nested (kind : Junction) (first second : Expression) (rest : List Expression) :
    Agrees (junction kind first (second :: rest)) (junction kind first [junction kind second rest]) := by
  refine .of_alike ?_
  simpa using (Form.Alike.refl _).append (contribution_normal kind second rest).symm

/-- Brackets do not matter among operands of one junction. -/
theorem junction_agrees_assoc (kind : Junction) (first second third : Expression) :
    Agrees (junction kind (junction kind first [second]) [third])
      (junction kind first [junction kind second [third]]) := by
  refine Agrees.trans ?_ (junction_agrees_nested kind first second [third])
  refine .of_alike ?_
  simpa using (contribution_normal kind first [second]).append
    (Form.Alike.refl (third.normal.contribution kind))

end Expression

end EventRouting
