import EventRouting.Regex.ClassReader

set_option autoImplicit false

namespace EventRouting.Regex

open EventRouting.Unicode EventRouting.Text Reading

def flagNamed : Char → Option Flag
  | 'i' => some .ignoreCase
  | 'm' => some .multiLine
  | 's' => some .dotMatchesNewLine
  | 'U' => some .swapGreed
  | 'u' => some .unicode
  | 'R' => some .crlf
  | 'x' => some .verbose
  | _ => none

/-- The flags up to a colon or a closing parenthesis, which is kept. A hyphen, at most one and not
the last, turns off what follows it; no flag stands twice. -/
def flagLetters : FlagChanges → Bool → Bool → List Char → Option (FlagChanges × Char × List Char)
  | _, _, _, [] => none
  | before, turnedOff, dangling, c :: rest =>
    if c = ':' || c = ')' then if dangling then none else some (before.reverse, c, rest)
    else if c = '-' then if turnedOff then none else flagLetters before true true rest
    else do
      let flag ← flagNamed c
      if before.any (·.1 = flag) then none
      else flagLetters ((flag, !turnedOff) :: before) turnedOff false rest

def isNameStart (c : Char) : Bool := c = '_' || Property.alphabetic.contains c

def isNumeric (c : Char) : Bool := (category c).isNumber

def isNamePart (c : Char) : Bool :=
  c = '.' || c = '[' || c = ']' || isNameStart c || isNumeric c

/-- The name of a group, up to its closing angle bracket. -/
def readGroupName : Reading (List Char) := do
  let text ← rest
  let name := text.takeWhile (· ≠ '>')
  match name, text.drop name.length with
  | first :: others, _ :: rest =>
    let names := (← get).names
    if isNameStart first && others.all isNamePart && !names.contains name then
      modify fun cursor => { cursor with rest, names := name :: names }
      return name
    else failure
  | _, _ => failure

/-- What an opening parenthesis begins: flags alone, or a group with a name or with flags of its own. -/
inductive GroupStart where
  | flags (changes : FlagChanges)
  | opening (name : Option (List Char)) (changes : FlagChanges)

def readFlags (text : List Char) : Reading GroupStart := do
  let (changes, closing, rest) ← flagLetters [] false false text
  setRest rest
  if closing = ':' then return .opening none changes
  else if changes.isEmpty then failure
  else return .flags changes

/-- Reads on after an opening parenthesis. -/
def readGroupStart : Reading GroupStart := do
  settle
  match ← rest with
  | '?' :: '=' :: _ | '?' :: '!' :: _ | '?' :: '<' :: '=' :: _ | '?' :: '<' :: '!' :: _ => failure
  | '?' :: 'P' :: '<' :: rest | '?' :: '<' :: rest =>
    setRest rest
    return .opening (some (← readGroupName)) []
  | '?' :: rest => readFlags rest
  | _ => return .opening none []

/-- The verbose mode after `changes`. -/
def verboseAfter (changes : FlagChanges) : Reading Unit := modify fun cursor =>
  match changes.lookup .verbose with
  | some verbose => { cursor with verbose }
  | none => cursor

/-- A number with blanks around it, in 32 bits. -/
def readCount : Reading Nat := do
  modify fun cursor => { cursor with rest := dropBlanks cursor.rest }
  let digits ← takeWhile Char.isDigit
  modify fun cursor => { cursor with rest := dropBlanks cursor.rest }
  settle
  let count := Nat.ofDigitChars 10 digits 0
  if digits.isEmpty || 0x100000000 ≤ count then failure
  return count

/-- Reads on after an opening brace: a count, or a least and perhaps a greatest one. -/
def readCounts : Reading (Nat × Option Nat) := do
  settle
  let least ← readCount
  let counts ←
    if ← accept ',' then
      settle
      match ← rest with
      | '\x7d' :: _ => pure (least, none)
      | _ =>
        let most ← readCount
        if least ≤ most then pure (least, some most) else failure
    else pure (least, some least)
  expect '\x7d'
  settle
  return counts

def Tree.repeatable : Tree → Bool
  | .empty | .flags _ => false
  | _ => true

def sequenceOf : List Tree → Tree
  | [] => .empty
  | [item] => item
  | items => .sequence items

def alternationOf : List Tree → Tree
  | [branch] => branch
  | branches => .alternation branches

/-- The items before the cursor, last first, with the last one repeated. -/
def repeatLast (least : Nat) (most : Option Nat) : List Tree → Option (List Tree)
  | item :: before => if item.repeatable then some (.repetition least most item :: before) else none
  | [] => none

/-- Reads on to a closing parenthesis or the end. `branches` are the alternatives before the
cursor and `items` the items of the present one, each last first. -/
def readBody : Nat → List Tree → List Tree → Reading Tree
  | 0, _, _ => failure
  | fuel + 1, branches, items => do
    let simple (least : Nat) (most : Option Nat) (rest : List Char) : Reading Tree := do
      setRest rest
      let items ← repeatLast least most items
      let _ ← accept '?'
      readBody fuel branches items
    settle
    match ← rest with
    | [] | ')' :: _ => return alternationOf (sequenceOf items.reverse :: branches).reverse
    | '|' :: rest =>
      setRest rest
      readBody fuel (sequenceOf items.reverse :: branches) []
    | '(' :: rest =>
      setRest rest
      match ← readGroupStart with
      | .flags changes =>
        verboseAfter changes
        readBody fuel branches (.flags changes :: items)
      | .opening name changes =>
        let verbose := (← get).verbose
        verboseAfter changes
        let inner ← readBody fuel [] []
        expect ')'
        modify fun cursor => { cursor with verbose }
        readBody fuel branches (.group name changes inner :: items)
    | '[' :: rest =>
      setRest rest
      let item ← readClass
      readBody fuel branches (item :: items)
    | '?' :: rest => simple 0 (some 1) rest
    | '*' :: rest => simple 0 none rest
    | '+' :: rest => simple 1 none rest
    | '\x7b' :: rest =>
      setRest rest
      let (least, most) ← readCounts
      let items ← repeatLast least most items
      let _ ← accept '?'
      readBody fuel branches items
    | '\\' :: rest =>
      setRest rest
      let item ← readEscape
      readBody fuel branches (item :: items)
    | '.' :: rest =>
      setRest rest
      readBody fuel branches (.dot :: items)
    | '^' :: rest =>
      setRest rest
      readBody fuel branches (.look .lineStart :: items)
    | '$' :: rest =>
      setRest rest
      readBody fuel branches (.look .lineEnd :: items)
    | c :: rest =>
      setRest rest
      readBody fuel branches (plainLiteral c :: items)

/-- How deep the parts of an expression may nest. -/
def depthLimit : Nat := 250

def read? (text : List Char) : Option Tree := do
  let (tree, cursor) ← (readBody (text.length + 1) [] []).run ⟨text, false, []⟩
  if cursor.rest.isEmpty && tree.depth ≤ depthLimit then some tree else none

end EventRouting.Regex
