set_option autoImplicit false

/- A run is an arithmetic progression of code points in hexadecimal: `41-5a` is every code point from the
first to the last, `100-12e:2` every second one, `b5` a single one. A replacement adds the code points to
put in its place after `>`, joined by dots; a run with one target moves along with it. -/
namespace EventRouting.Unicode

/-- The code points `first`, `first + step`, … up to `last`. -/
structure Run where
  first : Nat
  last : Nat
  step : Nat

namespace Run

def contains (run : Run) (point : Nat) : Bool :=
  run.first ≤ point && point ≤ run.last && (point - run.first) % run.step == 0

end Run

def hexDigitValue (c : Char) : Nat :=
  if c.isDigit then c.toNat - '0'.toNat else c.toNat - 'a'.toNat + 10

def hexValue (digits : List Char) : Nat :=
  digits.foldl (fun value c => value * 16 + hexDigitValue c) 0

/-- The pieces of `text` between occurrences of `separator`. -/
def pieces (separator : Char) (text : List Char) : List (List Char) :=
  text.foldr (fun c done => if c = separator then [] :: done else
    match done with
    | [] => [[c]]
    | piece :: rest => (c :: piece) :: rest) [[]]

/-- What stands between blanks and line ends. -/
def words (text : String) : List (List Char) :=
  (pieces ' ' (text.toList.map fun c => if c = '\n' then ' ' else c)).filter (!·.isEmpty)

def Run.read (text : List Char) : Run :=
  match pieces '-' text with
  | [first] => ⟨hexValue first, hexValue first, 1⟩
  | first :: rest :: _ =>
    match pieces ':' rest with
    | last :: step :: _ => ⟨hexValue first, hexValue last, hexValue step⟩
    | last => ⟨hexValue first, hexValue last.flatten, 1⟩
  | [] => ⟨1, 0, 1⟩

/-- Position of the last element that starts at or before `point`, by halving `[low, high)`. -/
def lastStart (starts : Nat → Nat) (point low high : Nat) : Nat :=
  if high ≤ low + 1 then low
  else
    let middle := (low + high) / 2
    if starts middle ≤ point then lastStart starts point middle high
    else lastStart starts point low middle
termination_by high - low

/-- A set of code points as ascending runs that do not overlap. -/
structure RunTable where
  runs : Array Run

namespace RunTable

def read (text : String) : RunTable :=
  ⟨((words text).map Run.read).toArray⟩

def containsPoint (table : RunTable) (point : Nat) : Bool :=
  let place := lastStart (fun i => (table.runs[i]?.map Run.first).getD 0) point 0 table.runs.size
  (table.runs[place]?.map (·.contains point)).getD false

def contains (table : RunTable) (c : Char) : Bool := table.containsPoint c.toNat

end RunTable

/-- What to put in the place of each member of a run. -/
structure Replacement where
  run : Run
  target : List Nat

def Replacement.read (text : List Char) : Replacement :=
  match pieces '>' text with
  | run :: target :: _ => ⟨Run.read run, (pieces '.' target).map hexValue⟩
  | _ => ⟨⟨1, 0, 1⟩, []⟩

/-- A single target keeps its distance to the run; a longer one stands for every member. -/
def Replacement.at (replacement : Replacement) (point : Nat) : List Nat :=
  match replacement.target with
  | [target] => [target + (point - replacement.run.first)]
  | targets => targets

/-- Replacements in ascending order of their runs. -/
structure ReplacementTable where
  rows : Array Replacement

namespace ReplacementTable

def read (text : String) : ReplacementTable :=
  ⟨((words text).map Replacement.read).toArray⟩

/-- The replacement of a character, or `none` where it stays as it is. -/
def find? (table : ReplacementTable) (c : Char) : Option (List Char) :=
  let place :=
    lastStart (fun i => (table.rows[i]?.map (·.run.first)).getD 0) c.toNat 0 table.rows.size
  match table.rows[place]? with
  | some row => if row.run.contains c.toNat then some ((row.at c.toNat).map Char.ofNat) else none
  | none => none

end ReplacementTable

end EventRouting.Unicode
