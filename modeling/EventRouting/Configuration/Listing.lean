import EventRouting.Configuration
import EventRouting.Document
import EventRouting.RuleText.Reader
import EventRouting.Structured

set_option autoImplicit false

namespace EventRouting.Configuration

/-- The rule of a session before it has been read. -/
inductive RawRule where
  | none
  | text (text : String)
  | structured (value : Json)

structure RawSession where
  source : String
  destination : String
  rule : RawRule
  disabled : Bool

def RawRule.ofDocument? (document : Document) : Option RawRule :=
  if document.isNull then some none
  else document.value?.map fun
    | .string value => text value
    | value => structured value

def RawSession.ofDocument? (document : Document) : Option RawSession := do
  match ← document.fields? ["src", "dst", "rule", "disable"] with
  | [some source, some destination, rule, disable] =>
    return {
      source := ← source.text?
      destination := ← destination.text?
      rule := ← match rule with
        | some rule => RawRule.ofDocument? rule
        | none => pure .none
      disabled := ← match disable with
        | some disable => disable.bool?
        | none => pure false }
  | _ => none

def rawSessions? (document : Document) : Option (List RawSession) := do
  match ← document.fields? ["sessions"] with
  | [some sessions] => (← sessions.items?).mapM RawSession.ofDocument?
  | _ => some []

/-- The rule of a session, or why the session is left out. -/
def RawRule.read : RawRule → Except String (Option Expression)
  | none => .ok Option.none
  | text value =>
    match RuleText.read? value with
    | some rule => .ok (some rule)
    | Option.none => .error (Error.parse value).message
  | structured value =>
    match Expression.ofJson? value.lastWins with
    | some rule => .ok (some rule)
    | Option.none => .error "invalid rule"

/-- The plan of a session, or a report on why there is none. -/
def RawSession.plan (index : Nat) (session : RawSession) : Except LogEntry SessionPlan :=
  if session.disabled then
    .error ⟨.debug, "Session " ++ toString index ++ " (" ++ session.source ++ " -> " ++
      session.destination ++ ") disabled"⟩
  else
    match session.rule.read with
    | .ok rule => .ok ⟨session.source, session.destination, rule⟩
    | .error reason => .error ⟨.warn, "Skipping session " ++ toString index ++ ": " ++ reason⟩

/-- The sessions in order, those without a plan reported by number. -/
def plans (sessions : List RawSession) : List SessionPlan × Log :=
  let results := sessions.zipIdx.map fun session => session.1.plan session.2
  (results.filterMap fun
    | .ok plan => some plan
    | .error _ => none,
  results.filterMap fun
    | .ok _ => none
    | .error entry => some entry)

/-- Reads a document; `error` is what a faulty one amounts to. -/
def ofDocument (error : Error) (document : Option Document) : Load :=
  match document.bind rawSessions? with
  | some sessions =>
    let (plans, log) := plans sessions
    ⟨.ok plans, log⟩
  | none => ⟨.error error, []⟩

end EventRouting.Configuration
