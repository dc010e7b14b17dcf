import EventRouting.Regex.Syntax
import EventRouting.Text.Blank

set_option autoImplicit false

namespace EventRouting.Regex

open EventRouting.Text

structure Cursor where
  rest : List Char
  verbose : Bool
  /-- The names of the groups so far. -/
  names : List (List Char)

abbrev Reading := StateT Cursor Option

/-- Drops blanks and comments; a comment runs from a hash sign to the end of its line. -/
def dropAside : Bool → List Char → List Char
  | _, [] => []
  | true, c :: rest => dropAside (c != '\n') rest
  | false, c :: rest =>
    if isBlank c then dropAside false rest
    else if c = '#' then dropAside true rest
    else c :: rest

namespace Reading

def rest : Reading (List Char) := do return (← get).rest

def setRest (rest : List Char) : Reading Unit := modify fun cursor => { cursor with rest }

def settle : Reading Unit := modify fun cursor =>
  if cursor.verbose then { cursor with rest := dropAside false cursor.rest } else cursor

/-- The next character, which must be there. -/
def take : Reading Char := do
  match ← rest with
  | [] => failure
  | c :: rest =>
    setRest rest
    return c

/-- Moves past `c` if it stands next. -/
def accept (c : Char) : Reading Bool := do
  match ← rest with
  | [] => return false
  | next :: rest =>
    if next = c then
      setRest rest
      return true
    else return false

def expect (c : Char) : Reading Unit := do
  if ← accept c then return () else failure

/-- The longest run of characters in `kind`, settling after each. -/
def takeWhile (kind : Char → Bool) : Reading (List Char) := do
  go (← rest).length
where
  go : Nat → Reading (List Char)
    | 0 => return []
    | fuel + 1 => do
      match ← rest with
      | [] => return []
      | c :: rest =>
        if kind c then
          setRest rest
          settle
          return c :: (← go fuel)
        else return []

/-- What comes next after `text`, with an aside left out in verbose mode. -/
def peekPast (text : List Char) : Reading (Option Char) := do
  if (← get).verbose then
    let text := dropBlanks text
    return (if text.head? = some '#' then dropBlanks text.tail else text).head?
  else return text.head?

end Reading

end EventRouting.Regex
