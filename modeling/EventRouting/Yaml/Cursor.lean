set_option autoImplicit false

namespace EventRouting.Yaml

/-- What is left to read, and where that is. -/
structure Cursor where
  rest : List Char
  index : Nat
  line : Nat
  column : Nat

def isSpace (c : Char) : Bool := c = ' ' || c = '\t'

def isBreak (c : Char) : Bool :=
  c = '\n' || c = '\r' || c = '\u0085' || c = '\u2028' || c = '\u2029'

/-- A character may stand in a text at all. -/
def isPrintable (c : Char) : Bool :=
  let point := c.toNat
  c = '\t' || c = '\n' || c = '\r' || (0x20 ≤ point && point ≤ 0x7e) || point = 0x85 ||
    (0xa0 ≤ point && point ≤ 0xfffd) || 0x10000 ≤ point

/-- The place has a space, a break or nothing ahead. -/
def isGap : List Char → Bool
  | [] => true
  | c :: _ => isSpace c || isBreak c

/-- The place has a break or nothing ahead. -/
def isLineEnd : List Char → Bool
  | [] => true
  | c :: _ => isBreak c

namespace Cursor

/-- Past one character; a carriage return takes a line feed along. -/
def advance (cursor : Cursor) : Cursor :=
  match cursor.rest with
  | [] => cursor
  | '\r' :: '\n' :: rest => ⟨rest, cursor.index + 2, cursor.line + 1, 0⟩
  | c :: rest =>
    if isBreak c then ⟨rest, cursor.index + 1, cursor.line + 1, 0⟩
    else ⟨rest, cursor.index + 1, cursor.line, cursor.column + 1⟩

def advanceBy : Nat → Cursor → Cursor
  | 0, cursor => cursor
  | count + 1, cursor => advanceBy count cursor.advance

def skipWhile (skip : Char → Bool) (cursor : Cursor) : Cursor :=
  advanceBy (cursor.rest.takeWhile skip).length cursor

/-- The marks between documents, which only count at the start of a line. -/
def atDocumentMark (cursor : Cursor) : Bool :=
  cursor.column = 0 &&
    match cursor.rest with
    | '-' :: '-' :: '-' :: rest | '.' :: '.' :: '.' :: rest => isGap rest
    | _ => false

end Cursor

/-- How a break is kept: all but the two separators become line feeds. -/
def breakText (c : Char) : Char := if c = '\u2028' || c = '\u2029' then c else '\n'

end EventRouting.Yaml
