import EventRouting.Configuration
import EventRouting.RuleText.Reader
import EventRouting.Text.Lines
import EventRouting.Text.Split

set_option autoImplicit false

namespace EventRouting.Configuration

open Text

/-- The rules of a section are kept with their line numbers, last first. -/
inductive Section where
  | outside
  | disabled
  | active (line : Nat) (source destination : String) (rules : List (Nat × String))

/-- The plans and the log so far, last first, and the section under way. -/
structure Progress where
  plans : List SessionPlan
  log : Log
  current : Section

def warning (line : Nat) (message : String) : LogEntry :=
  ⟨.warn, "Line " ++ toString line ++ ": " ++ message⟩

/-- The key, in lower case, and the value of a parameter; a lone key has an empty value. -/
def readParameter (part : List Char) : String × String :=
  match splitOnce '=' part with
  | some (key, value) => (String.ofList (lowered (trim key)), String.ofList (trim value))
  | none => (String.ofList (lowered part), "")

/-- The parameters between commas, last first, so that the last one of a name is found. -/
def readParameters (header : List Char) : List (String × String) :=
  ((splitAt ',' header).map trim |>.filter (!·.isEmpty)).reverse.map readParameter

def isOff (value : String) : Bool :=
  ["false", "0", "f", "no"].contains (String.ofList (lowered value.toList))

/-- A header after its opening bracket: the section it begins, and a complaint. -/
def readHeader (line : Nat) (header : List Char) : Section × Log :=
  match splitOnce ']' header with
  | none => (.outside, [warning line "unterminated section header"])
  | some (content, _) =>
    let parameters := readParameters content
    if (parameters.lookup "disable").any (!isOff ·) then (.disabled, [])
    else
      let source := (parameters.lookup "src").getD ""
      let destination := (parameters.lookup "dst").getD ""
      if source = "" || destination = "" then
        (.outside, [warning line "section needs both src and dst"])
      else (.active line source destination [], [])

/-- The rules that can be read, and complaints about the others, last first. -/
def readRules : List (Nat × String) → List Expression × Log
  | [] => ([], [])
  | (line, text) :: rest =>
    let (rules, log) := readRules rest
    match RuleText.read? text with
    | some rule => (rule :: rules, log)
    | none => (rules, log ++ [warning line ("skipping rule: " ++ (Error.parse text).message)])

/-- What a finished section yields: a plan or none, and complaints, last first. -/
def closeSection : Section → List SessionPlan × Log
  | .outside | .disabled => ([], [])
  | .active _ source destination [] => ([⟨source, destination, none⟩], [])
  | .active line source destination rules =>
    let (rules, log) := readRules rules.reverse
    match Expression.junction? .or rules with
    | some rule => ([⟨source, destination, some rule⟩], log)
    | none => ([], warning line "no valid rules, skipping session" :: log)

def Progress.close (progress : Progress) : Progress :=
  let (plans, log) := closeSection progress.current
  ⟨plans ++ progress.plans, log ++ progress.log, .outside⟩

def Progress.readLine (progress : Progress) (number : Nat) (line : String) : Progress :=
  match trim line.toList with
  | [] | '#' :: _ => progress
  | '[' :: header =>
    let closed := progress.close
    let (current, log) := readHeader number header
    ⟨closed.plans, log ++ closed.log, current⟩
  | text =>
    match progress.current with
    | .active first source destination rules =>
      { progress with
        current := .active first source destination ((number, String.ofList text) :: rules) }
    | .disabled => progress
    | .outside =>
      { progress with log := warning number "rule outside of a section" :: progress.log }

def readLines (lines : List String) : Progress :=
  (lines.zipIdx 1).foldl (fun progress line => progress.readLine line.2 line.1) ⟨[], [], .outside⟩

/-- Reads lines until one is not UTF-8, which spoils the whole. -/
def ofSections (bytes : ByteArray) : Load :=
  let (lines, complete) := decodeLines bytes
  let progress := readLines lines
  if complete then
    let closed := progress.close
    ⟨.ok closed.plans.reverse, closed.log.reverse⟩
  else ⟨.error .notUtf8, progress.log.reverse⟩

end EventRouting.Configuration
