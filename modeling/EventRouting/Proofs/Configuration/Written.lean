import EventRouting.Proofs.Configuration.Listing
import EventRouting.Proofs.Configuration.Routing
import EventRouting.Proofs.RoomGraph.History

set_option autoImplicit false

namespace EventRouting

/-- What a session subscribes to once it is built. -/
def SessionPlan.subscription (plan : SessionPlan) : Subscription :=
  ⟨plan.source, plan.destination, (plan.rule.getD .anything).canonical⟩

namespace Configuration

open Text

/-- A session to be written; its rule is a text that may or may not be one of a rule. -/
structure Entry where
  source : String
  destination : String
  rule : Option String
  disabled : Bool

/-- A name of a room that can stand in a header. -/
structure RoomName (name : String) : Prop where
  some : name ≠ ""
  trimmed : trim name.toList = name.toList
  plain : ∀ mark ∈ [',', ']', '\n'], mark ∉ name.toList

/-- A text that can stand on a line of its own, as a rule. -/
structure RuleLine (text : String) : Prop where
  some : text ≠ ""
  trimmed : trim text.toList = text.toList
  single : '\n' ∉ text.toList
  plain : ∀ mark ∈ ['#', '['], text.toList.head? ≠ .some mark

namespace Entry

structure Writable (entry : Entry) : Prop where
  source : RoomName entry.source
  destination : RoomName entry.destination
  rule : ∀ text ∈ entry.rule, RuleLine text

/-- The rule that a session asks for, if it can be read. -/
def rule? (entry : Entry) : Option Expression :=
  match entry.rule with
  | none => some .anything
  | some text => RuleText.read? text

/-- What a session subscribes to, unless it is left out. -/
def subscription? (entry : Entry) : Option Subscription :=
  if entry.disabled then none
  else entry.rule?.map fun rule => ⟨entry.source, entry.destination, rule.canonical⟩

end Entry

def parameter (name value : String) : List Char := name.toList ++ '=' :: value.toList

namespace Entry

/-- The parameters of the header, the flag last. -/
def parameters (entry : Entry) : List (List Char) :=
  parameter "src" entry.source :: (' ' :: parameter "dst" entry.destination) ::
    if entry.disabled then [" disable".toList] else []

/-- The header after its opening bracket. -/
def header (entry : Entry) : List Char := joinWith [','] entry.parameters ++ [']']

def lines (entry : Entry) : List (List Char) :=
  ('[' :: entry.header) :: entry.rule.toList.map String.toList

def passage (entry : Entry) : Passage := ⟨entry.header, entry.rule.toList.map String.toList⟩

end Entry

/-- All sessions in sections, each line ended. -/
def sectionsText (entries : List Entry) : String :=
  String.ofList ((entries.flatMap Entry.lines).flatMap (· ++ ['\n']))

namespace Entry

def toJson (entry : Entry) : Json :=
  .object ([("src", .string entry.source), ("dst", .string entry.destination)] ++
    entry.rule.toList.map (fun text => ("rule", .string text)) ++ [("disable", .bool entry.disabled)])

def raw (entry : Entry) : RawSession :=
  ⟨entry.source, entry.destination, entry.rule.elim .none .text, entry.disabled⟩

end Entry

def listDocument (entries : List Entry) : Json :=
  .object [("sessions", .array (entries.map Entry.toJson))]

namespace RoomName

variable {value : String} (room : RoomName value)
include room

/-- A value that is trimmed keeps the blanks off the end of its parameter. -/
theorem trim_parameter (name : String) (visible : name.toList.head?.any isBlank = false) :
    trim (parameter name value) = parameter name value := by
  have some : value.toList ≠ [] := fun empty => room.some (String.toList_eq_nil_iff.1 empty)
  have last : (parameter name value).getLast? = value.toList.getLast? := by
    rw [parameter, ← List.singleton_append, ← List.append_assoc, List.getLast?_append_of_ne_nil _ some]
  apply trim_of_edges
  · intro c first
    cases shape : name.toList with
    | nil =>
      rw [parameter, shape] at first
      rw [← Option.some.inj first]
      decide
    | cons d rest =>
      rw [parameter, shape] at first
      rw [shape] at visible
      rwa [← Option.some.inj first]
  · intro c final
    rw [last, ← room.trimmed] at final
    exact getLast?_trim _ c final

theorem readParameter (name : String) (first : '=' ∉ name.toList)
    (plain : lowered (trim name.toList) = name.toList) :
    readParameter (parameter name value) = (name, value) := by
  rw [Configuration.readParameter, parameter, splitOnce_append _ first]
  dsimp only
  rw [plain, room.trimmed, String.ofList_toList, String.ofList_toList]

end RoomName

/-- A rule is no comment and no header. -/
theorem RuleLine.shape {text : String} (fits : RuleLine text) :
    isSaying text.toList = true ∧ isHeader text.toList = false := by
  have comment := fits.plain '#' (by decide)
  have header := fits.plain '[' (by decide)
  cases shape : text.toList with
  | nil => exact absurd (String.toList_eq_nil_iff.1 shape) fits.some
  | cons c rest =>
    rw [shape, List.head?_cons, ne_eq, Option.some.injEq] at comment header
    simp [isSaying, isHeader, comment, header]

/-- A section with one rule takes what that rule takes, as its junction is the rule itself. -/
theorem subscription_plansFor_single (source destination text : String) :
    (plansFor source destination [text]).map SessionPlan.subscription =
      ((RuleText.read? text).map fun rule =>
        (⟨source, destination, rule.canonical⟩ : Subscription)).toList := by
  rw [plansFor_of_ne_nil _ _ (List.cons_ne_nil _ _)]
  cases read : RuleText.read? text with
  | none =>
    rw [List.filterMap_cons_none read]
    rfl
  | some rule =>
    have same : (Expression.junction .or rule []).canonical = rule.canonical :=
      Expression.canonical_eq_iff.2 (Expression.junction_agrees_single .or rule)
    rw [List.filterMap_cons_some read, List.filterMap_nil, Option.map_some, ← same]
    rfl

theorem Entry.trim_header (entry : Entry) : trim ('[' :: entry.header) = '[' :: entry.header := by
  have last : ('[' :: entry.header).getLast? = some ']' := by
    rw [header, ← List.cons_append, List.getLast?_append_of_ne_nil _ (List.cons_ne_nil _ _)]
    rfl
  apply trim_of_edges
  · intro c first
    rw [← Option.some.inj first]
    decide
  · intro c final
    rw [last] at final
    rw [← Option.some.inj final]
    decide

namespace Entry.Writable

variable {entry : Entry} (writable : entry.Writable)
include writable

theorem clean {mark : Char} (inside : mark ∈ [',', ']', '\n']) :
    ∀ part ∈ entry.parameters, mark ∉ part := by
  have literals : ∀ mark ∈ [',', ']', '\n'],
      mark ∉ "src=".toList ∧ mark ∉ " dst=".toList ∧ mark ∉ " disable".toList := by simp
  obtain ⟨inSource, inDestination, inFlag⟩ := literals mark inside
  have source : mark ∉ "src=".toList ++ entry.source.toList :=
    fun member => (List.mem_append.1 member).elim inSource (writable.source.plain mark inside)
  have destination : mark ∉ " dst=".toList ++ entry.destination.toList :=
    fun member => (List.mem_append.1 member).elim inDestination (writable.destination.plain mark inside)
  rw [parameters]
  cases entry.disabled with
  | false => exact List.forall_mem_cons.2 ⟨source, List.forall_mem_singleton.2 destination⟩
  | true =>
    refine List.forall_mem_cons.2 ⟨source, List.forall_mem_cons.2 ⟨destination, ?_⟩⟩
    exact List.forall_mem_singleton.2 inFlag

/-- What the header gives, the last parameter first. -/
theorem readParameters :
    readParameters (joinWith [','] entry.parameters) =
      (if entry.disabled then [("disable", "")] else []) ++
        [("dst", entry.destination), ("src", entry.source)] := by
  have cut : splitAt ',' (joinWith [','] entry.parameters) = entry.parameters :=
    splitAt_joinWith (List.cons_ne_nil _ _) (writable.clean (by decide))
  have source : trim (parameter "src" entry.source) = parameter "src" entry.source :=
    writable.source.trim_parameter _ (by decide)
  have destination : trim (' ' :: parameter "dst" entry.destination) = parameter "dst" entry.destination :=
    writable.destination.trim_parameter "dst" (by decide)
  have flag : trim " disable".toList = "disable".toList := by decide
  have readSource := writable.source.readParameter "src" (by decide) (by decide)
  have readDestination := writable.destination.readParameter "dst" (by decide) (by decide)
  have readFlag : readParameter "disable".toList = ("disable", "") := by decide
  rw [Configuration.readParameters, cut, parameters]
  cases entry.disabled with
  | false =>
    rw [if_neg Bool.false_ne_true, if_neg Bool.false_ne_true, List.map_cons, List.map_singleton,
      source, destination]
    change [Configuration.readParameter _, Configuration.readParameter _] = _
    rw [readSource, readDestination]
    rfl
  | true =>
    rw [if_pos rfl, if_pos rfl, List.map_cons, List.map_cons, List.map_singleton, source, destination, flag]
    change [Configuration.readParameter _, Configuration.readParameter _, Configuration.readParameter _] = _
    rw [readSource, readDestination, readFlag]
    rfl

/-- Only the commas of a header stand between its parameters. -/
theorem clean_joined {mark : Char} (inside : mark ∈ [']', '\n']) :
    mark ∉ joinWith [','] entry.parameters := by
  intro within
  rcases mem_joinWith within with comma | ⟨part, member, within⟩
  · rw [comma] at inside
    exact absurd inside (by decide)
  · exact writable.clean (List.mem_cons_of_mem _ inside) part member within

theorem splitOnce_header : splitOnce ']' entry.header = some (joinWith [','] entry.parameters, []) :=
  splitOnce_append [] (writable.clean_joined (by decide))

theorem enabled (active : entry.disabled = false) :
    Enabled entry.header entry.source entry.destination := by
  rw [enabled_iff writable.splitOnce_header, writable.readParameters, active]
  exact ⟨rfl, rfl, writable.source.some, rfl, writable.destination.some⟩

theorem not_enabled (disabled : entry.disabled = true) (source destination : String) :
    ¬ Enabled entry.header source destination := by
  have on : (!isOff "") = true := by decide
  rw [enabled_iff writable.splitOnce_header, writable.readParameters, disabled]
  exact fun enabled => absurd (on.symm.trans enabled.1) (by decide)

/-- A passage yields what its session subscribes to. -/
theorem subscription_passage :
    entry.passage.plans.map SessionPlan.subscription = entry.subscription?.toList := by
  cases active : entry.disabled with
  | true =>
    rw [plans_eq_nil (writable.not_enabled active), subscription?, active, if_pos rfl]
    rfl
  | false =>
    rw [plans_eq (writable.enabled active), subscription?, active, if_neg Bool.false_ne_true,
      rule?, passage]
    cases entry.rule with
    | none => rfl
    | some text =>
      have only : [text.toList].map String.ofList = [text] := by
        rw [List.map_singleton, String.ofList_toList]
      change (plansFor _ _ ([text.toList].map String.ofList)).map _ = _
      rw [only, subscription_plansFor_single]

theorem header_single : '\n' ∉ '[' :: entry.header := by
  intro within
  rw [List.mem_cons, header, List.mem_append, List.mem_singleton] at within
  rcases within with opening | joined | closing
  · exact absurd opening (by decide)
  · exact writable.clean_joined (by decide) joined
  · exact absurd closing (by decide)

/-- Each line of a session stands for itself. -/
theorem lines_said {line : List Char} (inside : line ∈ entry.lines) :
    '\n' ∉ line ∧ trim line = line ∧ isSaying line = true := by
  rw [lines, List.mem_cons] at inside
  rcases inside with rfl | inside
  · exact ⟨writable.header_single, entry.trim_header, rfl⟩
  · obtain ⟨text, given, rfl⟩ := List.mem_map.1 inside
    have fits := writable.rule text (Option.mem_toList.1 given)
    exact ⟨fits.single, fits.trimmed, fits.shape.1⟩

theorem passages_lines_self : passages entry.lines = [entry.passage] := by
  cases given : entry.rule with
  | none =>
    rw [lines, passage, given]
    rfl
  | some text =>
    have plain := (writable.rule text given).shape.2
    rw [lines, passage, given]
    change (⟨_, leading [text.toList]⟩ : Passage) :: passages [text.toList] = _
    rw [leading_cons plain, passages_cons plain]
    rfl

end Entry.Writable

theorem sayings_sectionsText {entries : List Entry} (writable : ∀ entry ∈ entries, entry.Writable) :
    sayings (sectionsText entries) = entries.flatMap Entry.lines := by
  have said : ∀ line ∈ entries.flatMap Entry.lines,
      '\n' ∉ line ∧ trim line = line ∧ isSaying line = true := by
    intro line inside
    obtain ⟨entry, member, inside⟩ := List.mem_flatMap.1 inside
    exact (writable entry member).lines_said inside
  have trimmed : (entries.flatMap Entry.lines).map trim = entries.flatMap Entry.lines :=
    (List.map_congr_left fun line inside => (said line inside).2.1).trans (List.map_id _)
  have kept : (entries.flatMap Entry.lines).filter isSaying = entries.flatMap Entry.lines :=
    List.filter_eq_self.2 fun line inside => (said line inside).2.2
  rw [sayings, sectionsText, String.toList_ofList,
    splitAt_terminated fun line inside => (said line inside).1, List.map_append, List.filter_append,
    trimmed, kept]
  exact List.append_nil _

/-- The lines of each session make one passage. -/
theorem passages_lines {entries : List Entry} (writable : ∀ entry ∈ entries, entry.Writable) :
    passages (entries.flatMap Entry.lines) = entries.map Entry.passage := by
  induction entries with
  | nil => rfl
  | cons entry rest ih =>
    rw [List.forall_mem_cons] at writable
    have next : ∀ line ∈ (rest.flatMap Entry.lines).head?, isHeader line = true := by
      cases rest with
      | nil => exact fun line inside => absurd inside (by simp)
      | cons entry rest => exact fun line inside => by rw [← Option.some.inj inside]; rfl
    rw [List.flatMap_cons, passages_append next, ih writable.2, List.map_cons,
      writable.1.passages_lines_self]
    rfl

/-- Sections are loaded session by session. -/
theorem ofSections_sectionsText {entries : List Entry} (writable : ∀ entry ∈ entries, entry.Writable) :
    ∃ plans, (ofSections (sectionsText entries).toUTF8).outcome = .ok plans ∧
      plans.map SessionPlan.subscription = entries.filterMap Entry.subscription? := by
  refine ⟨_, ofSections_outcome _, ?_⟩
  rw [sayings_sectionsText writable, passages_lines writable, List.flatMap_map, List.map_flatMap,
    List.filterMap_eq_flatMap_toList]
  exact List.flatMap_congr fun entry member => (writable entry member).subscription_passage

theorem Entry.numberless (entry : Entry) : entry.toJson.Numberless := by
  refine .object fun field inside => ?_
  rw [List.mem_append, List.mem_append, List.mem_map] at inside
  rcases inside with (room | ⟨text, -, rfl⟩) | flag
  · rw [List.mem_cons, List.mem_singleton] at room
    rcases room with rfl | rfl
    · exact .string _
    · exact .string _
  · exact .string _
  · rw [List.mem_singleton.1 flag]
    exact .bool _

theorem read?_listDocument (entries : List Entry) :
    Json.read? (listDocument entries).toText.toList = some (listDocument entries) := by
  apply Json.read?_toText
  refine .object (List.forall_mem_singleton.2 (.array fun item inside => ?_))
  obtain ⟨entry, -, rfl⟩ := List.mem_map.1 inside
  exact entry.numberless

theorem Entry.ofDocument?_toJson (entry : Entry) :
    RawSession.ofDocument? (Document.ofJson entry.toJson) = some entry.raw := by
  obtain ⟨source, destination, rule, disabled⟩ := entry
  cases rule with
  | none =>
    simp [toJson, raw, RawSession.ofDocument?, Document.ofJson, Document.ofJson.ofFields, Document.fields?,
      Document.named?, Document.text?, Document.bool?]
  | some text =>
    simp [toJson, raw, RawSession.ofDocument?, RawRule.ofDocument?, Document.ofJson,
      Document.ofJson.ofFields, Document.fields?, Document.named?, Document.text?, Document.bool?,
      Document.isNull, Document.value?]

theorem rawSessions?_listDocument (entries : List Entry) :
    rawSessions? (Document.ofJson (listDocument entries)) = some (entries.map Entry.raw) := by
  have items : (Document.ofJson.ofItems (entries.map Entry.toJson)).mapM RawSession.ofDocument? =
      some (entries.map Entry.raw) := by
    induction entries with
    | nil => rfl
    | cons entry rest ih =>
      rw [List.map_cons, Document.ofJson.ofItems, List.mapM_cons, entry.ofDocument?_toJson, ih]
      rfl
  rw [rawSessions?, listDocument, fields?_ofJson_single]
  exact items

/-- The plan of a session, whatever its number. -/
def RawSession.listed? (session : RawSession) : Option SessionPlan :=
  if session.disabled then none
  else session.rule.read.toOption.map fun rule => ⟨session.source, session.destination, rule⟩

theorem RawSession.toOption_plan (session : RawSession) (index : Nat) :
    (session.plan index).toOption = session.listed? := by
  rw [plan, listed?]
  cases session.disabled with
  | true =>
    rw [if_pos rfl, if_pos rfl]
    rfl
  | false =>
    rw [if_neg Bool.false_ne_true, if_neg Bool.false_ne_true]
    cases session.rule.read <;> rfl

theorem plans_fst (sessions : List RawSession) :
    (plans sessions).1 = sessions.filterMap RawSession.listed? := by
  have numbered : (plans sessions).1 = sessions.zipIdx.filterMap (RawSession.listed? ∘ Prod.fst) := by
    rw [plans, List.filterMap_map]
    refine List.filterMap_congr fun session _ => ?_
    rw [Function.comp_apply, Function.comp_apply, ← session.1.toOption_plan session.2]
    cases session.1.plan session.2 <;> rfl
  rw [numbered, ← List.filterMap_map, List.zipIdx_map_fst]

theorem Entry.subscription_raw (entry : Entry) :
    entry.raw.listed?.map SessionPlan.subscription = entry.subscription? := by
  rw [RawSession.listed?, subscription?, rule?, raw]
  dsimp only
  cases entry.disabled with
  | true => rfl
  | false =>
    rw [if_neg Bool.false_ne_true, if_neg Bool.false_ne_true]
    cases entry.rule with
    | none => rfl
    | some text =>
      rw [Option.elim_some, RawRule.read]
      dsimp only
      cases RuleText.read? text <;> rfl

/-- A document is loaded session by session, whatever text it was read from. -/
theorem ofJson_listDocument {entries : List Entry} {text : String}
    (reads : Json.read? text.toList = some (listDocument entries)) :
    ∃ plans, (ofJson text).outcome = .ok plans ∧
      plans.map SessionPlan.subscription = entries.filterMap Entry.subscription? := by
  refine ⟨(plans (entries.map Entry.raw)).1, ?_, ?_⟩
  · rw [ofJson, reads, ofDocument, Option.map_some, Option.bind_some, rawSessions?_listDocument]
  · rw [plans_fst, List.filterMap_map, List.map_filterMap]
    exact List.filterMap_congr fun entry _ => entry.subscription_raw

end Configuration

end EventRouting
