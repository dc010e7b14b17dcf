import EventRouting.Yaml.Cursor

set_option autoImplicit false

namespace EventRouting.Yaml

/-- What separates one word of a scalar from the next: spaces, or breaks. Last character first. -/
inductive Separation where
  | spaces (text : List Char)
  | breaks (first : Char) (others : List Char)
  /-- An escaped break, which leaves nothing of its own, and breaks after it. -/
  | joined (others : List Char)

namespace Separation

def addBreak (separation : Separation) (c : Char) : Separation :=
  match separation with
  | spaces _ => breaks c []
  | breaks first others => breaks first (c :: others)
  | joined others => joined (c :: others)

def isBroken : Separation → Bool
  | spaces _ => false
  | breaks _ _ | joined _ => true

/-- What stands for the separation in the text. -/
def text : Separation → List Char
  | spaces text => text.reverse
  | breaks '\n' [] => [' ']
  | breaks '\n' others => others.reverse
  | breaks first others => first :: others.reverse
  | joined others => others.reverse

end Separation

/-- Reads on through spaces and breaks. A tab may not stand where indentation up to `indent` is
expected. -/
def readSeparation (indent : Int) : Nat → Separation → Cursor → Option (Separation × Cursor)
  | 0, separation, cursor => some (separation, cursor)
  | fuel + 1, separation, cursor =>
    match cursor.rest with
    | [] => some (separation, cursor)
    | c :: _ =>
      if isSpace c then
        match separation with
        | .spaces text => readSeparation indent fuel (.spaces (c :: text)) cursor.advance
        | broken =>
          if c = '\t' && (cursor.column : Int) < indent then none
          else readSeparation indent fuel broken cursor.advance
      else if isBreak c then
        readSeparation indent fuel (separation.addBreak (breakText c)) cursor.advance
      else some (separation, cursor)

def isFlowMark (c : Char) : Bool := [',', '[', ']', '\x7b', '\x7d'].contains c

/-- A plain scalar ends before `text`. -/
def endsPlain (inFlow : Bool) : List Char → Bool
  | [] => true
  | c :: rest => isSpace c || isBreak c || c = ':' && isGap rest || inFlow && isFlowMark c

/-- A colon that could be either part of a scalar or not. -/
def isDoubtfulColon (inFlow : Bool) : List Char → Bool
  | ':' :: c :: _ => inFlow && (c = '?' || isFlowMark c)
  | _ => false

/-- One word of a plain scalar, up to a space or an indicator, put before `done` in reverse. -/
def readWord (inFlow : Bool) : Nat → List Char → Cursor → Option (List Char × Cursor)
  | 0, done, cursor => some (done, cursor)
  | fuel + 1, done, cursor =>
    if isDoubtfulColon inFlow cursor.rest then none
    else if endsPlain inFlow cursor.rest then some (done, cursor)
    else
      match cursor.rest with
      | [] => some (done, cursor)
      | c :: _ => readWord inFlow fuel (c :: done) cursor.advance

/-- A plain scalar: its text in reverse, whether it ended at a line break, and the place after it. -/
def readPlain (inFlow : Bool) (indent : Int) :
    Nat → Separation → List Char → Cursor → Option (List Char × Bool × Cursor)
  | 0, _, _, _ => none
  | fuel + 1, before, done, cursor =>
    if cursor.atDocumentMark || cursor.rest.head? = some '#' then
      some (done, before.isBroken, cursor)
    else do
      let joined := before.text.reverse ++ done
      let (word, after) ← readWord inFlow cursor.rest.length joined cursor
      if after.index = cursor.index then some (done, before.isBroken, after)
      else if after.rest.isEmpty || !isGap after.rest then some (word, false, after)
      else
        let (separation, next) ← readSeparation indent after.rest.length (.spaces []) after
        if !inFlow && (next.column : Int) < indent then some (word, separation.isBroken, next)
        else readPlain inFlow indent fuel separation word next

def hexValue? (c : Char) : Option Nat :=
  if '0' ≤ c && c ≤ '9' then some (c.toNat - '0'.toNat)
  else if 'a' ≤ c && c ≤ 'f' then some (c.toNat - 'a'.toNat + 10)
  else if 'A' ≤ c && c ≤ 'F' then some (c.toNat - 'A'.toNat + 10)
  else none

/-- The character with a code point of exactly `width` hexadecimal digits. -/
def codePoint? (width : Nat) (text : List Char) : Option Char := do
  let digits := text.take width
  if digits.length = width then
    let point ← digits.foldlM (fun value c => (hexValue? c).map (16 * value + ·)) 0
    if point.isValidChar then some (Char.ofNat point) else none
  else none

def simpleEscape? : Char → Option Char
  | '0' => some '\x00'
  | 'a' => some '\x07'
  | 'b' => some '\x08'
  | 't' | '\t' => some '\t'
  | 'n' => some '\n'
  | 'v' => some '\x0b'
  | 'f' => some '\x0c'
  | 'r' => some '\r'
  | 'e' => some '\x1b'
  | ' ' => some ' '
  | '"' => some '"'
  | '/' => some '/'
  | '\\' => some '\\'
  | 'N' => some '\u0085'
  | '_' => some '\u00a0'
  | 'L' => some '\u2028'
  | 'P' => some '\u2029'
  | _ => none

/-- The character that an escape stands for, and how many characters follow the backslash. -/
def escape? : List Char → Option (Char × Nat)
  | 'x' :: rest => (codePoint? 2 rest).map (·, 3)
  | 'u' :: rest => (codePoint? 4 rest).map (·, 5)
  | 'U' :: rest => (codePoint? 8 rest).map (·, 9)
  | c :: _ => (simpleEscape? c).map (·, 1)
  | [] => none

/-- Reads on inside quotes, up to the closing one. -/
def readQuoted (quote : Char) : Nat → List Char → Cursor → Option (List Char × Cursor)
  | 0, _, _ => none
  | fuel + 1, done, cursor =>
    if cursor.atDocumentMark then none
    else
      let separated (separation : Separation) (cursor : Cursor) : Option (List Char × Cursor) := do
        let (separation, next) ← readSeparation (-1) cursor.rest.length separation cursor
        readQuoted quote fuel (separation.text.reverse ++ done) next
      match cursor.rest with
      | [] => none
      | '\x27' :: rest =>
        if quote = '\x27' then
          match rest with
          | '\x27' :: _ => readQuoted quote fuel ('\x27' :: done) (cursor.advanceBy 2)
          | _ => some (done, cursor.advance)
        else readQuoted quote fuel ('\x27' :: done) cursor.advance
      | '\\' :: rest =>
        if quote = '"' then
          if !rest.isEmpty && isLineEnd rest then separated (.joined []) (cursor.advanceBy 2)
          else do
            let (c, count) ← escape? rest
            readQuoted quote fuel (c :: done) (cursor.advanceBy (count + 1))
        else readQuoted quote fuel ('\\' :: done) cursor.advance
      | c :: _ =>
        if c = quote then some (done, cursor.advance)
        else if isSpace c || isBreak c then separated (.spaces []) cursor
        else readQuoted quote fuel (c :: done) cursor.advance

/-- What becomes of the breaks at the end of a block. -/
inductive Chomping where
  | strip
  | clip
  | keep
deriving DecidableEq

def chomping? : Char → Option Chomping
  | '-' => some .strip
  | '+' => some .keep
  | _ => none

/-- The width of indentation that a header gives; zero is refused. -/
def indentation? (c : Char) : Option Nat :=
  if c.isDigit then some (c.toNat - '0'.toNat) else none

/-- The indicators after the sign of a block, in either order, and how many there are. -/
def blockHeader? (text : List Char) : Option (Chomping × Option Nat × Nat) :=
  let (chomping, indentation, count) : Chomping × Option Nat × Nat :=
    match text with
    | [] => (.clip, none, 0)
    | c :: rest =>
      match chomping? c, indentation? c with
      | some chomping, _ =>
        match rest.head?.bind indentation? with
        | some width => (chomping, some width, 2)
        | none => (chomping, none, 1)
      | none, some width =>
        match rest.head?.bind chomping? with
        | some chomping => (chomping, some width, 2)
        | none => (.clip, some width, 1)
      | none, none => (.clip, none, 0)
  if indentation = some 0 then none else some (chomping, indentation, count)

/-- The breaks before the next line of a block, in reverse, with the greatest column reached. An
unknown indentation, zero, takes all spaces. -/
def readBlockBreaks (indent : Nat) :
    Nat → Nat → List Char → Cursor → Option (Nat × List Char × Cursor)
  | 0, greatest, breaks, cursor => some (greatest, breaks, cursor)
  | fuel + 1, greatest, breaks, cursor =>
    let blanks := (cursor.rest.takeWhile (· = ' ')).length
    let width := if indent = 0 then blanks else min blanks (indent - cursor.column)
    let cursor := cursor.advanceBy width
    let greatest := max greatest cursor.column
    match cursor.rest with
    | [] => some (greatest, breaks, cursor)
    | c :: _ =>
      if c = '\t' && (indent = 0 || cursor.column < indent) then none
      else if isBreak c then
        readBlockBreaks indent fuel greatest (breakText c :: breaks) cursor.advance
      else some (greatest, breaks, cursor)

/-- The lines of a block. `lead` is the break before the next line and `breaks` are those after it,
in reverse; `indented` says that the line before started with a space. -/
def readBlockLines (folded : Bool) (chomping : Chomping) (indent : Nat) :
    Nat → List Char → List Char → Bool → List Char → Cursor → Option (List Char × Cursor)
  | 0, _, _, _, _, _ => none
  | fuel + 1, lead, breaks, indented, done, cursor =>
    if cursor.column = indent && !cursor.rest.isEmpty then do
      let spaced := (cursor.rest.head?.map isSpace).getD false
      let folds := folded && lead = ['\n'] && !indented && !spaced
      let join := if folds then (if breaks.isEmpty then [' '] else breaks) else breaks ++ lead
      let line := cursor.rest.takeWhile fun c => !isBreak c
      let after := cursor.advanceBy line.length
      let lead := after.rest.head?.toList.map breakText
      let (_, breaks, next) ← readBlockBreaks indent (after.rest.length + 1) 0 [] after.advance
      readBlockLines folded chomping indent fuel lead breaks spaced (line.reverse ++ join ++ done) next
    else
      match chomping with
      | .strip => some (done, cursor)
      | .clip => some (lead ++ done, cursor)
      | .keep => some (breaks ++ lead ++ done, cursor)

/-- A block scalar from the place after its sign, inside a node at column `parent`. -/
def readBlock (folded : Bool) (parent : Int) (cursor : Cursor) : Option (List Char × Cursor) := do
  let (chomping, width, count) ← blockHeader? cursor.rest
  let cursor := (cursor.advanceBy count).skipWhile isSpace
  let cursor := if cursor.rest.head? = some '#' then cursor.skipWhile (!isBreak ·) else cursor
  if isLineEnd cursor.rest then
    let cursor := cursor.advance
    let given := match width with
      | some width => (max parent 0).toNat + width
      | none => 0
    let (greatest, breaks, cursor) ←
      readBlockBreaks given (cursor.rest.length + 1) 0 [] cursor
    let indent := if given = 0 then max greatest (max (parent + 1) 1).toNat else given
    readBlockLines folded chomping indent (cursor.rest.length + 1) [] breaks false [] cursor
  else none

end EventRouting.Yaml
