import EventRouting.Regex.Pattern

set_option autoImplicit false

/- A set of places in a text is a number: bit `i` stands for the place before character `i`. All matches are
followed at once. -/
namespace EventRouting.Regex

/-- The places whose neighbours, the characters before and after, pass a test. -/
def placesWhere (test : Option Char → Option Char → Bool) : Option Char → List Char → Nat
  | before, [] => (test before none).toNat
  | before, c :: rest => (test before (some c)).toNat + 2 * placesWhere test (some c) rest

/-- The place lies at one of the ends that `kind` asks for. -/
def LookKind.holds (flags : Flags) (before after : Option Char) : LookKind → Bool
  | .textStart => before.isNone
  | .textEnd => after.isNone
  | .lineStart =>
    before.isNone || flags.multiLine &&
      (before = some '\n' || flags.crlf && before = some '\r' && after != some '\n')
  | .lineEnd =>
    after.isNone || flags.multiLine &&
      if flags.crlf then after = some '\r' || after = some '\n' && before != some '\r'
      else after = some '\n'
  | .wordBoundary => isWord before != isWord after
  | .notWordBoundary => isWord before == isWord after
  | .wordStart => !isWord before && isWord after
  | .wordEnd => isWord before && !isWord after
  | .wordStartHalf => !isWord before
  | .wordEndHalf => !isWord after
where
  isWord (neighbour : Option Char) : Bool := neighbour.any (PerlKind.word.set flags.unicode).contains

/-- `step` done `count` times. -/
def stepTimes (step : Nat → Nat) : Nat → Nat → Nat
  | 0, places => places
  | count + 1, places => if places = 0 then 0 else stepTimes step count (step places)

/-- All places that at most `count` further steps reach; it stops early when nothing is new. -/
def stepUpTo (step : Nat → Nat) : Nat → Nat → Nat
  | 0, places => places
  | count + 1, places =>
    let reached := places ||| step places
    if reached = places then places else stepUpTo step count reached

def Pattern.ends (text : List Char) : Pattern → Nat → Nat
  | .empty, starts => starts
  | .char set, starts => (starts &&& placesWhere (fun _ after => after.any set.contains) none text) <<< 1
  | .look kind flags, starts =>
    starts &&& placesWhere (fun before after => kind.holds flags before after) none text
  | .sequence left right, starts => right.ends text (left.ends text starts)
  | .either left right, starts => left.ends text starts ||| right.ends text starts
  | .repetition least most inner, starts =>
    let first := stepTimes (inner.ends text) least starts
    stepUpTo (inner.ends text) (match most with
      | some most => most - least
      | none => text.length + 1) first

/-- The pattern matches somewhere in the text. -/
def Pattern.occursIn (pattern : Pattern) (text : List Char) : Bool :=
  pattern.ends text (1 <<< (text.length + 1) - 1) != 0

end EventRouting.Regex
