import EventRouting.Proofs.Json.Text
import EventRouting.Proofs.Rule.Canonical
import EventRouting.Proofs.Structured.Payloads

set_option autoImplicit false

namespace EventRouting

open Json (Numberless)

theorem Atom.numberless (atom : Atom) : atom.toJson.Numberless := by
  cases atom with
  | string | ip | domainName => exact .object (by simpa [Atom.toJson] using Numberless.string _)
  | regexp value =>
    refine .object (List.forall_mem_singleton.2 (.array ?_))
    simpa using ⟨Numberless.string _, Numberless.bool _⟩

namespace Rule

theorem listToJson_eq_map (rules : List Rule) : toJson.listToJson rules = rules.map toJson := by
  induction rules with
  | nil => rw [toJson.listToJson, List.map_nil]
  | cons operand rest ih => rw [toJson.listToJson, List.map_cons, ih]

theorem toJson_junction (id : Nat) (kind : Junction) (operands : List Rule) :
    (junction id kind operands).toJson = .object [(kind.tag, .array (operands.map toJson))] := by
  rw [toJson, listToJson_eq_map]

theorem numberless (rule : Rule) : rule.toJson.Numberless := by
  induction rule using induct with
  | anything id => exact .string _
  | test id sense key atom =>
    refine .object (List.forall_mem_singleton.2 (.array ?_))
    have keyed : (keyToJson key).Numberless := by
      cases key with
      | none => exact .null
      | some key => exact .string key
    have valued : (operandToJson (atom.map SharedAtom.atom)).Numberless := by
      cases atom with
      | none => exact .null
      | some atom => exact atom.atom.numberless
    simpa using ⟨keyed, valued⟩
  | fuzzy id atom => exact .object (List.forall_mem_singleton.2 atom.atom.numberless)
  | no id operand ih => exact .object (List.forall_mem_singleton.2 ih)
  | junction id kind operands ih =>
    rw [toJson_junction]
    refine .object (List.forall_mem_singleton.2 (.array fun item inside => ?_))
    obtain ⟨operand, member, rfl⟩ := List.mem_map.1 inside
    exact ih operand member

end Rule

theorem keyOfJson?_keyToJson (key : Option String) : keyOfJson? (keyToJson key) = some key := by
  cases key <;> rfl

theorem operandOfJson?_operandToJson {atom : Option Atom} (made : ∀ value ∈ atom, value.Made) :
    operandOfJson? (operandToJson atom) = some atom := by
  cases atom with
  | none => rfl
  | some value =>
    have decoded := Atom.ofJson?_toJson (made value rfl)
    have some : operandOfJson? value.toJson = (Atom.ofJson? value.toJson).map .some := by
      cases value <;> rfl
    rw [operandToJson, Option.map_some, Option.getD_some, some, decoded]
    rfl

namespace Expression

theorem ofJson?_test (sense : Sense) (contents : Json) :
    ofJson? (.object [(sense.tag, contents)]) = testOfJson? sense contents := by
  cases sense <;> rfl

theorem ofJson?_junction (kind : Junction) (operands : List Json) :
    ofJson? (.object [(kind.tag, .array operands)]) =
      (ofJson?.listOfJson? operands).bind (junction? kind) := by
  cases kind <;> rfl

theorem listOfJson?_toJson {operands : List Rule}
    (decoded : ∀ operand ∈ operands, ofJson? operand.toJson = some operand.expression) :
    ofJson?.listOfJson? (operands.map Rule.toJson) = some (operands.map Rule.expression) := by
  induction operands with
  | nil => rfl
  | cons operand rest ih =>
    rw [List.forall_mem_cons] at decoded
    rw [List.map_cons, ofJson?.listOfJson?, decoded.1, ih decoded.2]
    rfl

end Expression

/-- A rule whose junctions are flat is decoded as its own expression. -/
theorem Workspace.Sound.ofJson?_toJson {work : Workspace} (sound : work.Sound) {rule : Rule}
    (live : work.Live (.rule rule)) (made : rule.form.Every Atom.Made) :
    Expression.ofJson? rule.toJson = some rule.expression := by
  induction rule using Rule.induct with
  | anything id => rfl
  | test id sense key atom =>
    rw [Rule.toJson, Expression.ofJson?_test, Expression.testOfJson?, keyOfJson?_keyToJson,
      operandOfJson?_operandToJson made]
    rfl
  | fuzzy id atom =>
    rw [Rule.toJson, Expression.ofJson?, Atom.ofJson?_toJson made]
    rfl
  | no id operand ih =>
    rw [Rule.toJson, Expression.ofJson?, ih (Live.operand live List.mem_cons_self) made]
    rfl
  | junction id kind operands ih =>
    rw [Rule.form_junction, Form.every_junction, List.forall_mem_map] at made
    have decoded := Expression.listOfJson?_toJson fun operand inside =>
      ih operand inside (Live.operand live inside) (made operand inside)
    rw [Rule.toJson_junction, Expression.ofJson?_junction, decoded]
    cases operands with
    | nil => exact absurd live (sound.junction_inhabited id kind)
    | cons first rest =>
      rw [Rule.expression_junction]
      rfl

namespace Expression

theorem made_of_testOfJson? {sense : Sense} {contents : Json} {expression : Expression}
    (decoded : testOfJson? sense contents = some expression) : expression.normal.Every Atom.Made := by
  unfold testOfJson? at decoded
  split at decoded
  · next key operand =>
    obtain ⟨key, -, decoded⟩ := Option.bind_eq_some_iff.1 decoded
    obtain ⟨atom, read, same⟩ := Option.bind_eq_some_iff.1 decoded
    obtain rfl := Option.some.inj same
    intro value inside
    unfold operandOfJson? at read
    split at read
    · rw [← Option.some.inj read] at inside
      contradiction
    · obtain ⟨found, readAtom, rfl⟩ := Option.map_eq_some_iff.1 read
      rw [← Option.mem_some.1 inside]
      exact Atom.made_of_ofJson? readAtom
  · contradiction

theorem made_of_junction? {kind : Junction} {operands : List Expression} {expression : Expression}
    (made : ∀ operand ∈ operands, operand.normal.Every Atom.Made)
    (built : junction? kind operands = some expression) : expression.normal.Every Atom.Made := by
  cases operands with
  | nil => contradiction
  | cons first rest =>
    obtain rfl := Option.some.inj built
    rw [normal_junction]
    refine Form.every_collapse kind fun form inside => ?_
    obtain ⟨normal, member, contributes⟩ := List.mem_flatMap.1 inside
    obtain ⟨operand, known, rfl⟩ := List.mem_map.1 member
    exact (made operand known).contribution kind form contributes

/-- The atoms of what was decoded can be come by. -/
theorem made_of_ofJson? {value : Json} {expression : Expression}
    (decoded : ofJson? value = some expression) :
    expression.normal.Every Atom.Made := by
  induction value using ofJson?.induct
    (fun items => ∀ operands, ofJson?.listOfJson? items = some operands →
      ∀ operand ∈ operands, operand.normal.Every Atom.Made) generalizing expression with
  | case1 | case2 =>
    obtain rfl := Option.some.inj decoded
    trivial
  | case3 contents | case4 contents => exact made_of_testOfJson? decoded
  | case5 contents =>
    obtain ⟨atom, read, rfl⟩ := Option.map_eq_some_iff.1 decoded
    exact Atom.made_of_ofJson? read
  | case6 contents ih =>
    obtain ⟨operand, read, rfl⟩ := Option.map_eq_some_iff.1 decoded
    exact @ih operand read
  | case7 operands ih | case8 operands ih =>
    obtain ⟨found, read, built⟩ := Option.bind_eq_some_iff.1 decoded
    exact made_of_junction? (ih found read) built
  | case9 other bare anything matching nonMatching fuzzy no and or =>
    rw [ofJson?.eq_9 other bare anything matching nonMatching fuzzy no and or] at decoded
    contradiction
  | case10 operands read operand inside =>
    obtain rfl := Option.some.inj read
    contradiction
  | case11 item rest ih ihRest operands read operand inside =>
    obtain ⟨first, readFirst, read⟩ := Option.bind_eq_some_iff.1 read
    obtain ⟨others, readOthers, same⟩ := Option.bind_eq_some_iff.1 read
    obtain rfl := Option.some.inj same
    rcases List.mem_cons.1 inside with rfl | inside
    · exact ih readFirst
    · exact ihRest others readOthers operand inside

end Expression

namespace Store

variable {store : Store} {shared : SharedAtom}

theorem lists_atom_of_intern {candidate : Rule} (listed : (store.intern candidate).2.Lists (.atom shared)) :
    store.Lists (.atom shared) := by
  rcases intern_lists store candidate listed with old | same
  · exact old
  · contradiction

theorem lists_atom_of_anything (listed : (anything store).2.Lists (.atom shared)) :
    store.Lists (.atom shared) := by
  unfold anything at listed
  cases found : store.findRule? .anything with
  | some rule =>
    rw [found] at listed
    exact (Shrunk.retain store rule.id).subset _ listed
  | none =>
    rw [found] at listed
    exact lists_atom_of_intern ((Shrunk.retain _ _).subset _ listed)

theorem lists_atom_of_junction {kind : Junction} {rules : List Rule}
    (listed : (junction kind rules store).2.Lists (.atom shared)) : store.Lists (.atom shared) := by
  by_cases single : ∃ only, Rule.junctionOperands kind rules = [only]
  · obtain ⟨only, single⟩ := single
    rw [junction_single single] at listed
    exact (readied_shrunk store kind rules).subset _ listed
  · rw [junction_many (not_exists.1 single)] at listed
    exact (readied_shrunk store kind rules).subset _ (lists_atom_of_intern listed)

end Store

namespace Workspace

variable {before after work : Workspace}

/-- A new atom is the one that was asked for. -/
theorem Step.lists_atom (step : Step before after) {shared : SharedAtom}
    (listed : after.store.Lists (.atom shared)) :
    before.store.Lists (.atom shared) ∨ after = before.withAtom shared.atom := by
  cases step with
  | atom value =>
    refine (Store.atom_lists _ _ listed).imp_right fun same => ?_
    rw [Handle.atom.injEq] at same
    rw [same]
  | anything => exact Or.inl (Store.lists_atom_of_anything listed)
  | test | fuzzy | no => exact Or.inl (Store.lists_atom_of_intern listed)
  | junction => exact Or.inl (Store.lists_atom_of_junction listed)
  | clone | clonePart => exact Or.inl ((Store.Shrunk.retain _ _).subset _ listed)
  | drop => exact Or.inl ((Store.Shrunk.drop _ _).subset _ listed)

/-- A step that asks for an atom, if it does, with a value that can be come by. -/
structure MadeStep (before after : Workspace) : Prop where
  step : Step before after
  made : ∀ value, after = before.withAtom value → value.Made

abbrev MadeRun : Workspace → Workspace → Prop := Relation.ReflTransGen MadeStep

theorem Sound.madeStep_atom (sound : work.Sound) {value : Atom} (made : value.Made) :
    MadeStep work (work.withAtom value) := by
  refine ⟨.atom work value, fun other same => ?_⟩
  have shared := (List.cons.inj (congrArg held same)).1
  rw [Holding.atom.injEq] at shared
  rwa [← Store.atom_value sound.balanced other, ← shared, Store.atom_value sound.balanced value]

theorem Step.madeStep_gain {rest : List Holding} {construct : Build Rule} {origin : Expression}
    (step : Step before (before.gain rest construct origin)) :
    MadeStep before (before.gain rest construct origin) :=
  ⟨step, fun _ same => by cases (List.cons.inj (congrArg held same)).1⟩

theorem MadeRun.run (run : MadeRun before after) : Run before after := by
  induction run with
  | refl => exact .refl
  | tail _ made ih => exact .tail ih made.step

theorem MadeRun.made (run : MadeRun start work) {shared : SharedAtom} (live : work.Live (.atom shared)) :
    shared.atom.Made := by
  induction run with
  | refl => exact absurd live (Handle.not_reachable_nil _)
  | @tail before after early step ih =>
    have sound := (MadeRun.run early).sound start_sound
    rcases step.step.lists_atom (((step.step.sound sound).live_iff _).2 live) with old | asked
    · exact ih ((sound.live_iff _).1 old)
    · exact step.made _ asked

/-- The atoms of a rule in use are in use. -/
theorem Live.every_atom {property : Atom → Prop}
    (all : ∀ shared, work.Live (.atom shared) → property shared.atom) {rule : Rule}
    (live : work.Live (.rule rule)) : rule.form.Every property := by
  induction rule using Rule.induct with
  | anything => trivial
  | test id sense key atom =>
    intro value inside
    obtain ⟨shared, rfl, rfl⟩ := Option.map_eq_some_iff.1 inside
    exact all shared (.part live (by simp))
  | fuzzy id atom => exact all atom (.part live (by simp))
  | no id operand ih => exact ih (Live.operand live List.mem_cons_self)
  | junction id kind operands ih =>
    rw [Rule.form_junction, Form.every_junction, List.forall_mem_map]
    exact fun operand inside => ih operand inside (Live.operand live inside)

/-- A rule in use whose atoms can be come by has a text, which is decoded as what is built as the rule. -/
theorem Sound.structured (sound : work.Sound) (told : work.Told) {rule : Rule}
    (live : work.Live (.rule rule)) (made : rule.form.Every Atom.Made) :
    Json.read? rule.toJson.toText.toList = some rule.toJson ∧
      ∃ expression, Expression.ofJson? rule.toJson = some expression ∧
        (expression.build work.store).1 = rule :=
  ⟨Json.read?_toText rule.numberless, rule.expression, sound.ofJson?_toJson live made,
    (sound.build_eq_iff told live _).2 rfl⟩

/-- In every state of every run the structured form of a rule or an atom in use, as a document and as
text, is decoded as the rule or the atom itself. Whatever document is decoded as a rule, in any state and
in whatever form it describes it, the structured form of that rule is decoded as the rule again. -/
theorem structured_form_is_decoded :
    (∀ work, MadeRun start work →
      (∀ rule, work.Live (.rule rule) →
        Json.read? rule.toJson.toText.toList = some rule.toJson ∧
          ∃ expression, Expression.ofJson? rule.toJson = some expression ∧
            (expression.build work.store).1 = rule) ∧
      ∀ shared, work.Live (.atom shared) →
        Json.read? shared.atom.toJson.toText.toList = some shared.atom.toJson ∧
          ∃ value, Atom.ofJson? shared.atom.toJson = some value ∧
            (Store.atom value work.store).1 = shared) ∧
    ∀ work, Run start work → ∀ value expression, Expression.ofJson? value = some expression →
      let built := expression.build work.store
      Json.read? built.1.toJson.toText.toList = some built.1.toJson ∧
        ∃ again, Expression.ofJson? built.1.toJson = some again ∧
          (again.build built.2).1 = built.1 := by
  refine ⟨fun work run => ⟨fun rule live => ?_, fun shared live =>
    ⟨Json.read?_toText shared.atom.numberless, shared.atom, ?_, ?_⟩⟩, ?_⟩
  · exact (run.run.sound start_sound).structured (run.run.told start_sound start_told) live
      (Live.every_atom (fun _ => run.made) live)
  · exact Atom.ofJson?_toJson (run.made live)
  · have sound := run.run.sound start_sound
    exact Store.atom_known sound.balanced ((sound.live_iff _).2 live)
  · intro work run value expression decoded
    have sound := run.sound start_sound
    obtain ⟨after, later, same, form, live, -⟩ :=
      sound.built (run.told start_sound start_told) expression
    have told := later.told sound (run.told start_sound start_told)
    have found := (later.sound sound).structured told live
      ((Expression.made_of_ofJson? decoded).of_same form)
    rw [same] at found
    exact found

/-- A rule is built from an atom, and another one is decoded from nested and repeated operands, which hold
a range that is written at length. -/
theorem structured_form_is_decoded_nested :
    let value := Json.object [("ra", .array [.object [("rf", .object [("ri", .string "::1 - 0:0::1")])],
      .object [("ra", .array [.string "r*", .object [("rf", .object [("ri", .string "::1")])]])]])]
    let work := start.withAtom (.string "a")
    let shared := (Store.atom (.string "a") start.store).1
    let after := work.gain [] (Store.fuzzy shared) (.fuzzy shared.atom)
    (∃ again, Expression.ofJson? (Store.fuzzy shared work.store).1.toJson = some again ∧
      (again.build after.store).1 = (Store.fuzzy shared work.store).1) ∧
    ∃ expression, Expression.ofJson? value = some expression ∧
      let built := expression.build start.store
      ∃ again, Expression.ofJson? built.1.toJson = some again ∧ (again.build built.2).1 = built.1 := by
  intro value work shared after
  obtain ⟨made, decoded⟩ := structured_form_is_decoded
  constructor
  · have asked : MadeRun start work := .single (start_sound.madeStep_atom trivial)
    have step : Step work after := .fuzzy shared (List.Perm.refl _)
    have live : after.Live (.rule (Store.fuzzy shared work.store).1) := live_of_held List.mem_cons_self
    exact ((made after (.tail asked step.madeStep_gain)).1 _ live).2
  · obtain ⟨expression, read⟩ :=
      Option.isSome_iff_exists.1 (show (Expression.ofJson? value).isSome = true by decide)
    exact ⟨expression, read, (decoded start .refl value expression read).2⟩

end Workspace

end EventRouting
