import EventRouting.Configuration.File
import EventRouting.Proofs.Structured.RoundTrip

set_option autoImplicit false

namespace EventRouting

open Json (Numberless)

namespace Json

theorem lastWins_array (items : List Json) : lastWins (.array items) = .array (items.map lastWins) := by
  rw [lastWins]
  exact congrArg array List.attach_map_val

theorem lastWins_single (name : String) (value : Json) :
    lastWins (.object [(name, value)]) = .object [(name, lastWins value)] := by
  rw [lastWins]
  rfl

end Json

theorem Atom.lastWins_toJson (atom : Atom) : atom.toJson.lastWins = atom.toJson := by
  cases atom with
  | string | ip | domainName => simp [toJson, Json.lastWins_single, Json.lastWins]
  | regexp value => simp [toJson, Json.lastWins_single, Json.lastWins_array, Json.lastWins]

/-- No name stands twice in a structured form. -/
theorem Rule.lastWins_toJson (rule : Rule) : rule.toJson.lastWins = rule.toJson := by
  induction rule using induct with
  | anything id => simp [toJson, Json.lastWins]
  | test id sense key atom =>
    have keyed : (keyToJson key).lastWins = keyToJson key := by
      cases key <;> simp [keyToJson, Json.lastWins]
    have valued : (operandToJson (atom.map SharedAtom.atom)).lastWins =
        operandToJson (atom.map SharedAtom.atom) := by
      cases atom with
      | none => simp [operandToJson, Json.lastWins]
      | some atom => exact atom.atom.lastWins_toJson
    simp [toJson, Json.lastWins_single, Json.lastWins_array, keyed, valued]
  | fuzzy id atom => rw [toJson, Json.lastWins_single, atom.atom.lastWins_toJson]
  | no id operand ih => rw [toJson, Json.lastWins_single, ih]
  | junction id kind operands ih =>
    have same : operands.map (Json.lastWins ∘ toJson) = operands.map toJson := List.map_congr_left ih
    rw [toJson_junction, Json.lastWins_single, Json.lastWins_array, List.map_map, same]

/-- Only the rule that matches everything is not written as an object. -/
theorem Rule.toJson_object (rule : Rule) (other : ∀ id, rule ≠ .anything id) :
    ∃ fields, rule.toJson = .object fields := by
  cases rule with
  | anything id => exact absurd rfl (other id)
  | test | fuzzy | no | junction => exact ⟨_, rfl⟩

namespace Document

theorem values?_ofItems {items : List Json} (back : ∀ item ∈ items, (ofJson item).value? = some item) :
    value?.values? (ofJson.ofItems items) = some items := by
  induction items with
  | nil => rfl
  | cons item rest ih =>
    rw [List.forall_mem_cons] at back
    rw [ofJson.ofItems, value?.values?, back.1, ih back.2]
    rfl

theorem fieldValues?_ofFields {fields : List (String × Json)}
    (back : ∀ field ∈ fields, (ofJson field.2).value? = some field.2) :
    value?.fieldValues? (ofJson.ofFields fields) = some fields := by
  induction fields with
  | nil => rfl
  | cons field rest ih =>
    obtain ⟨name, value⟩ := field
    obtain ⟨here, others⟩ : (ofJson value).value? = some value ∧
        ∀ field ∈ rest, (ofJson field.2).value? = some field.2 := List.forall_mem_cons.1 back
    rw [ofJson.ofFields, value?.fieldValues?, here, ih others]
    rfl

/-- A document that was read from JSON has that value. -/
theorem value?_ofJson {value : Json} (numberless : value.Numberless) :
    (ofJson value).value? = some value := by
  induction numberless with
  | null | bool | string => rfl
  | array inside ih =>
    rw [ofJson, value?, values?_ofItems ih]
    rfl
  | object inside ih =>
    rw [ofJson, value?, fieldValues?_ofFields ih]
    rfl

end Document

namespace Configuration

/-- The document of one session. -/
def sessionDocument (source destination : String) (rule : Json) : Json :=
  .object [("sessions", .array [.object [("src", .string source), ("dst", .string destination),
    ("rule", rule)]])]

variable {source destination : String} {rule : Rule}

theorem numberless_sessionDocument (source destination : String) {rule : Json}
    (numberless : rule.Numberless) :
    (sessionDocument source destination rule).Numberless := by
  refine .object (List.forall_mem_singleton.2 (.array (List.forall_mem_singleton.2 (.object ?_))))
  simpa using ⟨Numberless.string source, Numberless.string destination, numberless⟩

theorem read?_sessionDocument (source destination : String) (rule : Rule) :
    Json.read? (sessionDocument source destination rule.toJson).toText.toList =
      some (sessionDocument source destination rule.toJson) :=
  Json.read?_toText (numberless_sessionDocument source destination rule.numberless)

theorem fields?_ofJson_single (name : String) (value : Json) :
    (Document.ofJson (.object [(name, value)])).fields? [name] = some [some (Document.ofJson value)] := by
  simp [Document.ofJson, Document.ofJson.ofFields, Document.fields?, Document.named?, Document.text?]

theorem rawSession?_ofJson {value : Json} {raw : RawRule}
    (read : RawRule.ofDocument? (Document.ofJson value) = some raw) :
    RawSession.ofDocument? (Document.ofJson (.object [("src", .string source), ("dst", .string destination),
      ("rule", value)])) = some ⟨source, destination, raw, false⟩ := by
  simp [RawSession.ofDocument?, Document.ofJson, Document.ofJson.ofFields, Document.fields?,
    Document.named?, Document.text?, read]

theorem rawSessions?_sessionDocument {value : Json} {raw : RawRule}
    (read : RawRule.ofDocument? (Document.ofJson value) = some raw) :
    rawSessions? (Document.ofJson (sessionDocument source destination value)) =
      some [⟨source, destination, raw, false⟩] := by
  have items (session : Json) :
      (Document.ofJson (.array [session])).items? = some [Document.ofJson session] := rfl
  rw [rawSessions?, sessionDocument, fields?_ofJson_single, Option.bind_eq_bind, Option.bind_some]
  simp only [items, Option.bind_eq_bind, Option.bind_some, List.mapM_cons, List.mapM_nil,
    rawSession?_ofJson read]
  rfl

theorem plans_of_ok {session : RawSession} {plan : SessionPlan} (planned : session.plan 0 = .ok plan) :
    plans [session] = ([plan], []) := by
  simp [plans, planned]

theorem plans_of_error {session : RawSession} {entry : LogEntry} (refused : session.plan 0 = .error entry) :
    plans [session] = ([], [entry]) := by
  simp [plans, refused]

/-- What is loaded from any text of a document of one session. -/
theorem ofJson_sessionDocument {text : String} {value : Json}
    (reads : Json.read? text.toList = some (sessionDocument source destination value)) {raw : RawRule}
    (read : RawRule.ofDocument? (Document.ofJson value) = some raw) :
    ofJson text =
      ⟨.ok (plans [⟨source, destination, raw, false⟩]).1,
        (plans [⟨source, destination, raw, false⟩]).2⟩ := by
  rw [ofJson, reads, ofDocument, Option.map_some, Option.bind_some, rawSessions?_sessionDocument read]

theorem ofDocument?_object {fields : List (String × Json)} (numberless : (Json.object fields).Numberless) :
    RawRule.ofDocument? (Document.ofJson (.object fields)) = some (.structured (.object fields)) := by
  rw [RawRule.ofDocument?, if_neg (by simp [Document.ofJson, Document.isNull]),
    Document.value?_ofJson numberless]
  rfl

/-- An object that is decoded as a rule lists it. -/
theorem ofJson_structured {text : String}
    (reads : Json.read? text.toList = some (sessionDocument source destination rule.toJson))
    (other : ∀ id, rule ≠ .anything id) {expression : Expression}
    (decoded : Expression.ofJson? rule.toJson = some expression) :
    ofJson text = ⟨.ok [⟨source, destination, some expression⟩], []⟩ := by
  have raw : RawRule.ofDocument? (Document.ofJson rule.toJson) = some (.structured rule.toJson) := by
    obtain ⟨fields, object⟩ := rule.toJson_object other
    have numberless := rule.numberless
    rw [object] at numberless ⊢
    exact ofDocument?_object numberless
  have planned : (⟨source, destination, .structured rule.toJson, false⟩ : RawSession).plan 0 =
      .ok ⟨source, destination, some expression⟩ := by
    simp [RawSession.plan, RawRule.read, rule.lastWins_toJson, decoded]
  rw [ofJson_sessionDocument reads raw, plans_of_ok planned]

theorem read?_everything : RuleText.read? "r*" = none := by
  have unread : (RuleText.read? "r*").isNone = true := by decide +kernel
  exact Option.isNone_iff_eq_none.1 unread

/-- A name alone is the text of a rule. -/
theorem ofJson_everything {text : String} {id : Nat}
    (reads : Json.read? text.toList = some (sessionDocument source destination (Rule.anything id).toJson)) :
    ofJson text = ⟨.ok [], [⟨.warn, "Skipping session 0: could not parse rule \"r*\""⟩]⟩ := by
  have refused : (⟨source, destination, .text "r*", false⟩ : RawSession).plan 0 =
      .error ⟨.warn, "Skipping session 0: could not parse rule \"r*\""⟩ := by
    rw [RawSession.plan, if_neg Bool.false_ne_true, RawRule.read, read?_everything]
    rfl
  rw [ofJson_sessionDocument reads rfl, plans_of_error refused]

end Configuration

namespace Workspace

open EventRouting.Configuration (sessionDocument)

theorem start_anything : (Store.anything start.store).1 = .anything 1 := by
  simp [Store.anything, Store.intern, Store.findRule?, start, Store.empty]

/-- Whatever text a document of one session has, the structured form of a rule, which is decoded as the
rule itself, lists the session with that rule, and nothing is reported. Only where the rule matches
everything, the session is left out with a report that there is no such text of a rule. -/
theorem structured_rule_is_listed (source destination : String) (store : Store) (rule : Rule)
    (expression : Expression) (decoded : Expression.ofJson? rule.toJson = some expression)
    (built : (expression.build store).1 = rule) :
    let document := sessionDocument source destination rule.toJson
    Json.read? document.toText.toList = some document ∧
      ∀ text, Json.read? text.toList = some document →
        ((∀ id, rule ≠ .anything id) →
          Configuration.ofJson text = ⟨.ok [⟨source, destination, some expression⟩], []⟩ ∧
            (SessionPlan.buildAll [⟨source, destination, some expression⟩] store).1 =
              [⟨source, destination, rule⟩]) ∧
        ∀ id, rule = .anything id →
          Configuration.ofJson text =
            ⟨.ok [], [⟨.warn, "Skipping session 0: could not parse rule \"r*\""⟩]⟩ := by
  refine ⟨Configuration.read?_sessionDocument source destination rule,
    fun text reads => ⟨fun other => ⟨?_, ?_⟩, ?_⟩⟩
  · exact Configuration.ofJson_structured reads other decoded
  · rw [← built]
    rfl
  · rintro id rfl
    exact Configuration.ofJson_everything reads

/-- A negation is listed; what it negates, the rule that matches everything, is not. -/
theorem structured_rule_is_listed_negation :
    let negation : Expression := .no .anything
    let document := sessionDocument "in" "out" (Rule.no 2 (.anything 1)).toJson
    (Configuration.ofJson document.toText = ⟨.ok [⟨"in", "out", some negation⟩], []⟩ ∧
      (SessionPlan.buildAll [⟨"in", "out", some negation⟩] start.store).1 =
        [⟨"in", "out", .no 2 (.anything 1)⟩]) ∧
    Configuration.ofJson (sessionDocument "in" "out" (Rule.anything 1).toJson).toText =
      ⟨.ok [], [⟨.warn, "Skipping session 0: could not parse rule \"r*\""⟩]⟩ := by
  intro negation document
  have built : (negation.build start.store).1 = .no 2 (.anything 1) := by
    simp only [negation, Expression.build, bind, StateT.bind]
    simp [Store.no, Store.anything, Store.intern, Store.findRule?, Store.retain, Rule.shape, Rule.id, start,
      Store.empty]
  obtain ⟨reads, listed⟩ :=
    structured_rule_is_listed "in" "out" start.store (.no 2 (.anything 1)) negation rfl built
  obtain ⟨readsAll, skipped⟩ :=
    structured_rule_is_listed "in" "out" start.store (.anything 1) .anything rfl start_anything
  exact ⟨(listed _ reads).1 (by simp), (skipped _ readsAll).2 _ rfl⟩

/-- The rule that matches everything is decoded as itself, and yet no session is listed with it. -/
theorem structured_everything_is_skipped :
    ∃ work rule, Run start work ∧ work.Live (.rule rule) ∧
      (∃ expression, Expression.ofJson? rule.toJson = some expression ∧
        (expression.build work.store).1 = rule) ∧
      ∀ plans, (Configuration.ofJson (sessionDocument "in" "out" rule.toJson).toText).outcome =
        .ok plans →
        (SessionPlan.buildAll plans work.store).1 ≠ [⟨"in", "out", rule⟩] := by
  let work : Workspace :=
    ⟨(Store.anything start.store).2, some (.anything 1), [.rule (.anything 1) .anything]⟩
  have run : Run start work := by
    have step := Step.anything start
    rw [start_anything] at step
    exact .single step
  have live : work.Live (.rule (.anything 1)) := live_of_held (List.mem_singleton_self _)
  have built : (Expression.anything.build work.store).1 = .anything 1 :=
    ((run.sound start_sound).build_eq_iff (run.told start_sound start_told) live _).2 rfl
  refine ⟨work, .anything 1, run, live, ⟨.anything, rfl, built⟩, fun plans outcome => ?_⟩
  rw [Configuration.ofJson_everything
    (Configuration.read?_sessionDocument "in" "out" (.anything 1))] at outcome
  obtain rfl := Except.ok.inj outcome
  exact (List.cons_ne_nil _ _).symm

end Workspace

end EventRouting
