import EventRouting.Unicode.LetterCase
import EventRouting.Unicode.Property

set_option autoImplicit false

namespace EventRouting.Regex

open EventRouting.Unicode

inductive CharSet where
  | nothing
  | range (first last : Char)
  | table (members : RunTable)
  | property (members : Property)
  | union (left right : CharSet)
  | intersection (left right : CharSet)
  | difference (left right : CharSet)
  | symmetricDifference (left right : CharSet)
  | complement (inner : CharSet)
  /-- Closed under a change of letter case, of ASCII letters alone or of all letters. -/
  | caseless (asciiOnly : Bool) (inner : CharSet)

namespace CharSet

/-- The characters that differ from `c` in the case of an ASCII letter. -/
def asciiVariants (c : Char) : List Char := [c.toLower, c.toUpper]

def contains : CharSet → Char → Bool
  | nothing, _ => false
  | range first last, c => first ≤ c && c ≤ last
  | table members, c => members.contains c
  | property members, c => members.contains c
  | union left right, c => left.contains c || right.contains c
  | intersection left right, c => left.contains c && right.contains c
  | difference left right, c => left.contains c && !right.contains c
  | symmetricDifference left right, c => left.contains c != right.contains c
  | complement inner, c => !inner.contains c
  | caseless true inner, c => (asciiVariants c).any inner.contains
  | caseless false inner, c => (caseVariants c).any inner.contains

def single (c : Char) : CharSet := range c c

def unions (sets : List CharSet) : CharSet := sets.foldl union nothing

def anything : CharSet := complement nothing

def complementIf (negated : Bool) (inner : CharSet) : CharSet :=
  if negated then complement inner else inner

/-- No byte beyond ASCII is a member. -/
def isAsciiOnly (inner : CharSet) : Bool :=
  (List.range 128).all fun index => !inner.contains (Char.ofNat (128 + index))

end CharSet

end EventRouting.Regex
