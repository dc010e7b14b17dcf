import Std.Data.HashMap
import EventRouting.Unicode.Decomposition

set_option autoImplicit false

namespace EventRouting.Unicode

/-- Hangul syllables are numbered by lead, vowel and trail. -/
def hangulBase : Nat := 0xac00
def leadBase : Nat := 0x1100
def vowelBase : Nat := 0x1161
def trailBase : Nat := 0x11a7
def leadCount : Nat := 19
def vowelCount : Nat := 21
def trailCount : Nat := 28

def hangulParts? (c : Char) : Option (List Char) :=
  let index := c.toNat - hangulBase
  if c.toNat < hangulBase || leadCount * vowelCount * trailCount ≤ index then none
  else
    let lead := Char.ofNat (leadBase + index / (vowelCount * trailCount))
    let vowel := Char.ofNat (vowelBase + index % (vowelCount * trailCount) / trailCount)
    let trail := index % trailCount
    some (if trail = 0 then [lead, vowel] else [lead, vowel, Char.ofNat (trailBase + trail)])

/-- Takes a character apart; no decomposition is nested deeper than `depth`. -/
def decomposeChar : Nat → Char → List Char
  | 0, c => [c]
  | depth + 1, c =>
    match hangulParts? c with
    | some parts => parts
    | none =>
      match decompositionTable.find? c with
      | some parts => parts.flatMap (decomposeChar depth)
      | none => [c]

/-- Puts a mark behind the marks of its own class or a lower one; `marks` is in order. -/
def insertMark (mark : Char) : List Char → List Char
  | [] => [mark]
  | other :: rest =>
    if combiningClass mark < combiningClass other then mark :: other :: rest
    else other :: insertMark mark rest

/-- Sorts each sequence of marks; `marks` holds the marks met since the last base. -/
def orderMarks (marks : List Char) : List Char → List Char
  | [] => marks
  | c :: rest =>
    if combiningClass c = 0 then marks ++ c :: orderMarks [] rest
    else orderMarks (insertMark c marks) rest

def canonicalParts (text : List Char) : List Char :=
  orderMarks [] (text.flatMap (decomposeChar 8))

/-- One number for a pair of characters. -/
def pairNumber (first second : Nat) : Nat := first * 0x110000 + second

/-- The pairs that have a common form. -/
def compositionTable : Std.HashMap Nat Char :=
  decompositionTable.rows.foldl (fun table row =>
    match row.target with
    | [first, second] =>
      if compositionExclusions.containsPoint row.run.first then table
      else table.insert (pairNumber first second) (Char.ofNat row.run.first)
    | _ => table) ∅

def composePair? (first second : Char) : Option Char :=
  let lead := first.toNat - leadBase
  let vowel := second.toNat - vowelBase
  let syllable := first.toNat - hangulBase
  let trail := second.toNat - trailBase
  if leadBase ≤ first.toNat && lead < leadCount && vowelBase ≤ second.toNat &&
      vowel < vowelCount then
    some (Char.ofNat (hangulBase + (lead * vowelCount + vowel) * trailCount))
  else if hangulBase ≤ first.toNat && syllable < leadCount * vowelCount * trailCount &&
      syllable % trailCount = 0 && trailBase < second.toNat && trail < trailCount then
    some (Char.ofNat (first.toNat + trail))
  else compositionTable[pairNumber first.toNat second.toNat]?

/-- Joins marks to their base. `marks` holds, last first, the marks that stay apart. -/
def composeOnto (base : Char) (marks : List Char) : List Char → List Char
  | [] => base :: marks.reverse
  | c :: rest =>
    let reachable :=
      match marks with
      | [] => true
      | last :: _ => combiningClass last < combiningClass c
    match (if reachable then composePair? base c else none) with
    | some joined => composeOnto joined marks rest
    | none =>
      if combiningClass c = 0 then base :: marks.reverse ++ composeOnto c [] rest
      else composeOnto base (c :: marks) rest

def composeParts : List Char → List Char
  | [] => []
  | c :: rest => if combiningClass c = 0 then composeOnto c [] rest else c :: composeParts rest

/-- The composed form of a text. -/
def compose (text : List Char) : List Char := composeParts (canonicalParts text)

end EventRouting.Unicode
