import EventRouting.Configuration.File
import EventRouting.RuleText.Writer

set_option autoImplicit false

namespace EventRouting.CommandLine

inductive Command where
  | check (rules : List String)
  | dump (rule : String)
  | classify (graph source : String) (input : Option String)
deriving DecidableEq, Repr

/-- What the arguments ask for. -/
inductive Request where
  | run (command : Command)
  | version
  | help
  | misuse
deriving DecidableEq, Repr

/-- The options of `classify` that have been given. -/
structure ClassifyOptions where
  graph : Option String
  source : Option String
  input : Option String

inductive OptionName where
  | graph
  | source
  | input
deriving DecidableEq

/-- No option may be given twice, and a path is not empty. -/
def ClassifyOptions.set (options : ClassifyOptions) (name : OptionName) (value : String) :
    Option ClassifyOptions :=
  match name with
  | .graph =>
    if options.graph.isSome || value = "" then none else some { options with graph := some value }
  | .source => if options.source.isSome then none else some { options with source := some value }
  | .input =>
    if options.input.isSome || value = "" then none else some { options with input := some value }

def optionNamed (name : List Char) : Option OptionName :=
  match String.ofList name with
  | "graph" => some .graph
  | "src" => some .source
  | "input" => some .input
  | _ => none

def optionLettered : Char → Option OptionName
  | 'g' => some .graph
  | 's' => some .source
  | 'i' => some .input
  | _ => none

/-- An argument that begins with a hyphen is an option, unless it is a hyphen alone. -/
def isOption (argument : String) : Bool :=
  match argument.toList with
  | '-' :: _ :: _ => true
  | _ => false

/-- An option as written: its name, and a value that is attached to it. -/
inductive Written where
  | option (name : OptionName) (value : Option String)
  | help
  | unknown

def readOption (argument : String) : Written :=
  match argument.toList with
  | '-' :: '-' :: text =>
    let (name, value) := match Text.splitOnce '=' text with
      | some (name, value) => (name, some (String.ofList value))
      | none => (text, none)
    match optionNamed name with
    | some name => .option name value
    | none => if name = "help".toList && value.isNone then .help else .unknown
  | '-' :: letter :: rest =>
    match optionLettered letter with
    | some name =>
      .option name (match rest with
        | [] => none
        | '=' :: value => some (String.ofList value)
        | value => some (String.ofList value))
    | none => if letter = 'h' then .help else .unknown
  | _ => .unknown

def readClassify (options : ClassifyOptions) : List String → Request
  | [] =>
    match options with
    | ⟨some graph, some source, input⟩ => .run (.classify graph source input)
    | _ => .misuse
  | "--" :: [] => readClassify options []
  | argument :: rest =>
    if isOption argument then
      match readOption argument with
      | .help => .help
      | .unknown => .misuse
      | .option name (some value) =>
        match options.set name value with
        | some options => readClassify options rest
        | none => .misuse
      | .option name none =>
        match rest with
        | value :: rest =>
          if isOption value then .misuse
          else
            match options.set name value with
            | some options => readClassify options rest
            | none => .misuse
        | [] => .misuse
    else .misuse

/-- The plain arguments of a command without options of its own; all that follows `--` is plain. -/
def readPlain (done : List String) : List String → Except Request (List String)
  | [] => .ok done.reverse
  | "--" :: rest => .ok (done.reverse ++ rest)
  | argument :: rest =>
    if isOption argument then
      match readOption argument with
      | .help => .error .help
      | _ => .error .misuse
    else readPlain (argument :: done) rest

def commandNames : List String := ["check", "dump", "classify", "help"]

def readRequest : List String → Request
  | "check" :: rest =>
    match readPlain [] rest with
    | .ok [] => .misuse
    | .ok rules => .run (.check rules)
    | .error request => request
  | "dump" :: rest =>
    match readPlain [] rest with
    | .ok [rule] => .run (.dump rule)
    | .ok _ => .misuse
    | .error request => request
  | "classify" :: rest => readClassify ⟨none, none, none⟩ rest
  | ["help"] => .help
  | ["help", command] => if commandNames.contains command then .help else .misuse
  | argument :: _ =>
    match argument.toList with
    | '-' :: 'V' :: _ => .version
    | '-' :: 'h' :: _ => .help
    | _ =>
      if argument = "--version" then .version
      else if argument = "--help" then .help
      else .misuse
  | [] => .misuse

/-- The files that a request reads. -/
def Request.files : Request → List String
  | .run (.classify graph _ input) => graph :: input.toList
  | _ => []

/-- The request reads the standard input. -/
def Request.readsInput : Request → Bool
  | .run (.classify _ _ none) => true
  | _ => false

/-- How a run ended, what it wrote before, and what it reported. -/
structure Outcome where
  status : Nat
  output : String
  error : Option Error
  log : Log

def unlines (lines : List String) : String := String.join (lines.map (· ++ "\n"))

def succeed (lines : List String) : Outcome := ⟨0, unlines lines, none, []⟩

def fail (lines : List String) (error : Error) : Outcome := ⟨1, unlines lines, some error, []⟩

/-- Each rule is let go before the next one is read. `written` are the lines so far, last first. -/
def check (store : Store) (written : List String) : List String → Outcome
  | [] => succeed written.reverse
  | text :: rest =>
    match RuleText.parse text with
    | .error error => fail written.reverse error
    | .ok expression =>
      let (rule, store) := expression.build.run store
      check (store.drop (.rule rule)) (RuleText.write rule :: written) rest

def dump (text : String) : Outcome :=
  match RuleText.parse text with
  | .error error => fail [] error
  | .ok expression =>
    let (rule, _) := expression.build.run Store.empty
    succeed [rule.toJson.toPrettyText]

def isBlankLine (line : String) : Bool := line.toList.all Text.isBlank

/-- Routes the events of numbered lines; the first line that is no event ends it. -/
def route (source : String) (graph : RoomGraph) (written : List String) :
    List (String × Nat) → List String × Except Error RoomGraph
  | [] => (written.reverse, .ok graph)
  | (line, number) :: rest =>
    if isBlankLine line then route source graph written rest
    else
      match (Json.read? line.toList).bind Event.ofJson? with
      | none =>
        (written.reverse, .error (.configuration ("invalid event on line " ++ toString number)))
      | some event =>
        let (rooms, graph) := graph.route source event
        route source graph ((Json.array (rooms.map Json.string)).toText :: written) rest

/-- Routes the events of an input. A line that is not UTF-8 is an error once it is reached. -/
def routeInput (source : String) (graph : RoomGraph) (input : ByteArray) : Outcome :=
  let (lines, complete) := Text.decodeLines input
  match route source graph [] (lines.zipIdx 1) with
  | (written, .error error) => fail written error
  | (written, .ok graph) =>
    if complete then
      { succeed written with
        log := graph.takeStats.1.map fun entry => RoomGraph.statsEntry entry.1 entry.2 }
    else fail written .notUtf8

def noSessions (source : String) (graph : RoomGraph) : Log :=
  if graph.isSource source then []
  else [⟨.warn, "No sessions read from room " ++ Text.quoted source⟩]

/-- The configuration is read before the input. -/
def classify (contents : String → Except Error ByteArray) (standardInput : ByteArray)
    (graph source : String) (input : Option String) : Outcome :=
  let load := Configuration.ofFile graph (contents graph)
  match load.outcome with
  | .error error => { fail [] error with log := load.log }
  | .ok plans =>
    let (sessions, _) := (SessionPlan.buildAll plans).run Store.empty
    let graph := RoomGraph.ofSessions sessions
    let outcome := match input.elim (.ok standardInput) contents with
      | .error error => fail [] error
      | .ok content => routeInput source graph content
    { outcome with log := load.log ++ noSessions source graph ++ outcome.log }

def versionLine : String := "ahrules 0.1.0"

def usageLine : String := "Usage: ahrules <check|dump|classify|help>"

/-- Answers a request, given the contents of files and the standard input. -/
def Request.answer (contents : String → Except Error ByteArray) (standardInput : ByteArray) :
    Request → Outcome
  | .run (.check rules) => check Store.empty [] rules
  | .run (.dump rule) => dump rule
  | .run (.classify graph source input) => classify contents standardInput graph source input
  | .version => succeed [versionLine]
  | .help => succeed [usageLine]
  | .misuse => ⟨2, "", none, []⟩

end EventRouting.CommandLine
