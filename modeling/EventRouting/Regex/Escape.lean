import EventRouting.Regex.Cursor

set_option autoImplicit false

namespace EventRouting.Regex

open Reading

def hexValue? (c : Char) : Option Nat :=
  if '0' ≤ c && c ≤ '9' then some (c.toNat - '0'.toNat)
  else if 'a' ≤ c && c ≤ 'f' then some (c.toNat - 'a'.toNat + 10)
  else if 'A' ≤ c && c ≤ 'F' then some (c.toNat - 'A'.toNat + 10)
  else none

def hexNumber? (digits : List Char) : Option Nat :=
  digits.foldlM (fun value c => (hexValue? c).map (16 * value + ·)) 0

/-- The character with a given code point. -/
def charAt? (point : Nat) : Option Char :=
  if h : point.isValidChar then some (Char.ofNatAux point h) else none

def takeHex : Nat → Reading (List Char)
  | 0 => return []
  | count + 1 => do
    settle
    let c ← take
    return c :: (← takeHex count)

/-- A code point in hexadecimal: `width` digits, or any number of them in braces. -/
def readCodePoint (width : Nat) : Reading (Char × LiteralForm) := do
  settle
  if ← accept '\x7b' then
    settle
    let digits ← takeWhile (· ≠ '\x7d')
    expect '\x7d'
    if digits.isEmpty then failure
    return (← (hexNumber? digits).bind charAt?, .escaped)
  else
    let digits ← takeHex width
    return (← (hexNumber? digits).bind charAt?, .byte)

/-- The text before and after the first place where `mark` stands. -/
def cutAt (mark : List Char) : List Char → Option (List Char × List Char)
  | [] => none
  | c :: rest =>
    if mark.isPrefixOf (c :: rest) then some ([], (c :: rest).drop mark.length)
    else (cutAt mark rest).map fun halves => (c :: halves.1, halves.2)

/-- A name in braces, with a value after `!=`, a colon or `=`. -/
def unicodeName (text : List Char) : UnicodeName :=
  match cutAt ['!', '='] text <|> cutAt [':'] text <|> cutAt ['='] text with
  | some (property, value) => .valued property value
  | none => .bare text

def readUnicodeName : Reading UnicodeName := do
  settle
  let c ← take
  if c = '\x7b' then
    settle
    let name ← takeWhile (· ≠ '\x7d')
    expect '\x7d'
    return unicodeName name
  else if c = '\\' then failure
  else return .bare [c]

def boundaryNamed (name : List Char) : Option LookKind :=
  match String.ofList name with
  | "start" => some .wordStart
  | "end" => some .wordEnd
  | "start-half" => some .wordStartHalf
  | "end-half" => some .wordEndHalf
  | _ => none

def isBoundaryLetter (c : Char) : Bool := c.isAlpha || c = '-'

/-- A word boundary, whose kind may follow in braces; other braces are a repetition. -/
def readBoundary : Reading LookKind := do
  let before ← get
  if ← accept '\x7b' then
    settle
    match ← rest with
    | [] => failure
    | c :: _ =>
      if isBoundaryLetter c then
        let name ← takeWhile isBoundaryLetter
        expect '\x7d'
        boundaryNamed name
      else
        set before
        return .wordBoundary
  else return .wordBoundary

/-- Characters that a backslash leaves as they are. -/
def isPunctuation (c : Char) : Bool :=
  c.toNat < 128 && !c.isAlphanum && c ≠ '<' && c ≠ '>'

def plainLiteral (c : Char) : Tree := .literal ⟨c, .plain⟩

def escapedLiteral (c : Char) : Tree := .literal ⟨c, .escaped⟩

/-- Reads on after a backslash. -/
def readEscape : Reading Tree := do
  let c ← take
  match c with
  | 'x' =>
    let (char, form) ← readCodePoint 2
    return .literal ⟨char, form⟩
  | 'u' => return escapedLiteral (← readCodePoint 4).1
  | 'U' => return escapedLiteral (← readCodePoint 8).1
  | 'p' => return .unicode false (← readUnicodeName)
  | 'P' => return .unicode true (← readUnicodeName)
  | 'd' => return .perl false .digit
  | 'D' => return .perl true .digit
  | 's' => return .perl false .space
  | 'S' => return .perl true .space
  | 'w' => return .perl false .word
  | 'W' => return .perl true .word
  | 'a' => return escapedLiteral '\x07'
  | 'f' => return escapedLiteral '\x0c'
  | 't' => return escapedLiteral '\t'
  | 'n' => return escapedLiteral '\n'
  | 'r' => return escapedLiteral '\r'
  | 'v' => return escapedLiteral '\x0b'
  | 'A' => return .look .textStart
  | 'z' => return .look .textEnd
  | 'b' => return .look (← readBoundary)
  | 'B' => return .look .notWordBoundary
  | '<' => return .look .wordStart
  | '>' => return .look .wordEnd
  | c => if isPunctuation c then return escapedLiteral c else failure

end EventRouting.Regex
