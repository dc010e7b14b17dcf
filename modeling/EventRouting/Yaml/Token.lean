import EventRouting.Yaml.Scalar

set_option autoImplicit false

/- Outside brackets the layout counts: a token further to the right than those before opens a sequence or a
mapping, and one further to the left closes what was opened to its right. A key is only known by the colon
after it, so its tokens are put in afterwards, where the key began. -/
namespace EventRouting.Yaml

inductive Token where
  | version (major minor : Nat)
  | tagPrefix (handle expansion : List Char)
  | documentStart
  | documentEnd
  | sequenceStart
  | mappingStart
  | blockEnd
  | openBracket
  | closeBracket
  | openBrace
  | closeBrace
  | item
  | comma
  | key
  | value
  | alias (name : List Char)
  | anchor (name : List Char)
  | tag (handle suffix : List Char)
  | scalar (text : List Char) (plain : Bool)
deriving DecidableEq, Repr

/-- A place where a key may have begun. -/
structure PossibleKey where
  /-- The number of tokens before it. -/
  place : Nat
  /-- Nothing but a key may stand there. -/
  required : Bool
  index : Nat
  line : Nat
  column : Nat

structure Scanner extends Cursor where
  /-- The column of the innermost block, or -1. -/
  indent : Int
  /-- The columns of the blocks around it. -/
  indents : List Int
  /-- For each open bracket, and for the text outside them, where a key may have begun. -/
  keys : List (Option PossibleKey)
  keyAllowed : Bool
  tokens : Array Token

abbrev Scan := StateT Scanner Option

namespace Scan

def inFlow : Scan Bool := do return 1 < (← get).keys.length

def cursor : Scan Cursor := do return (← get).toCursor

def moveTo (cursor : Cursor) : Scan Unit := modify fun state => { state with toCursor := cursor }

def skip (count : Nat) : Scan Unit := do moveTo ((← cursor).advanceBy count)

def emit (token : Token) : Scan Unit :=
  modify fun state => { state with tokens := state.tokens.push token }

/-- Puts a token in after the first `place` ones. -/
def emitAt (place : Nat) (token : Token) : Scan Unit := modify fun state =>
  { state with tokens :=
    (state.tokens.extract 0 place).push token ++ state.tokens.extract place state.tokens.size }

def allowKey (keyAllowed : Bool) : Scan Unit := modify fun state => { state with keyAllowed }

def setKey (key : Option PossibleKey) : Scan Unit := modify fun state =>
  { state with keys := key :: state.keys.tail }

/-- Gives up the possible key here; one that was required is missed. -/
def dropKey : Scan Unit := do
  match (← get).keys with
  | some key :: _ => if key.required then failure else setKey none
  | _ => return ()

/-- Remembers that a key may begin here. -/
def saveKey : Scan Unit := do
  let state ← get
  if state.keyAllowed then
    dropKey
    let required := state.keys.length = 1 && state.indent = state.column
    setKey (some ⟨state.tokens.size, required, state.index, state.line, state.column⟩)

/-- A key ends on its line and within 1024 characters. -/
def isStale (cursor : Cursor) (key : PossibleKey) : Bool :=
  key.line < cursor.line || key.index + 1024 < cursor.index

def dropStaleKeys : Scan Unit := do
  let state ← get
  let stale (key : Option PossibleKey) : Bool := key.any (isStale state.toCursor)
  if state.keys.any fun key => stale key && key.any (·.required) then failure
  set { state with keys := state.keys.map fun key => if stale key then none else key }

/-- Opens a block at `column` if that is further to the right than the present one. -/
def openBlock (column : Nat) (place : Nat) (token : Token) : Scan Unit := do
  let state ← get
  if !(← inFlow) && state.indent < column then
    set { state with indent := column, indents := state.indent :: state.indents }
    emitAt place token

/-- Closes the blocks further to the right than `column`. -/
def closeBlocks (column : Int) : Scan Unit := do
  if !(← inFlow) then
    modify fun state => go state state.indents
where
  go (state : Scanner) : List Int → Scanner
    | [] => state
    | outer :: rest =>
      if column < state.indent then
        go { state with indent := outer, indents := rest, tokens := state.tokens.push .blockEnd } rest
      else state

/-- Moves to the next token, past spaces, comments and breaks. Tabs count as spaces only where no key
may begin. -/
def skipToToken : Nat → Scan Unit
  | 0 => return ()
  | fuel + 1 => do
    let tabs := (← inFlow) || !(← get).keyAllowed
    let cursor := (← cursor).skipWhile fun c => c = ' ' || tabs && c = '\t'
    let cursor := if cursor.rest.head? = some '#' then cursor.skipWhile (!isBreak ·) else cursor
    moveTo cursor
    match cursor.rest with
    | [] => return ()
    | c :: _ =>
      if isBreak c then
        moveTo cursor.advance
        if !(← inFlow) then allowKey true
        skipToToken fuel

def isWordChar (c : Char) : Bool := c.isAlphanum || c = '-' || c = '_'

/-- The name of an anchor or of an alias, after its sign. -/
def readName : Scan (List Char) := do
  skip 1
  let cursor ← cursor
  let name := cursor.rest.takeWhile isWordChar
  let after := cursor.advanceBy name.length
  moveTo after
  let ends := isGap after.rest ||
    after.rest.head?.any fun c => ['?', ':', ',', ']', '\x7d', '%', '@', '\x60'].contains c
  if name.isEmpty || !ends then failure
  return name

def isUriChar (full : Bool) (c : Char) : Bool :=
  isWordChar c || [';', '/', '?', ':', '@', '&', '=', '+', '$', '.', '!', '~', '*', '\x27', '(', ')',
    '%'].contains c || full && (c = ',' || c = '[' || c = ']')

/-- The handle and the suffix of a tag. -/
def splitTag (text : List Char) : List Char × List Char :=
  match text with
  | '!' :: rest =>
    let name := rest.takeWhile isWordChar
    match rest.drop name.length with
    | '!' :: suffix => ('!' :: name ++ ['!'], suffix)
    | _ => if rest.isEmpty then ([], ['!']) else (['!'], rest)
  | _ => ([], text)

def readTag : Scan Token := do
  let cursor ← cursor
  let token ←
    match cursor.rest with
    | '!' :: '<' :: rest =>
      let uri := rest.takeWhile (isUriChar true)
      if uri.isEmpty || (rest.drop uri.length).head? ≠ some '>' then failure
      skip (uri.length + 3)
      pure (.tag [] uri)
    | text =>
      let written := text.takeWhile (isUriChar false)
      skip written.length
      let (handle, suffix) := splitTag written
      if suffix.isEmpty then failure
      pure (.tag handle suffix)
  let rest := (← Scan.cursor).rest
  if isGap rest || (← inFlow) && rest.head? = some ',' then return token else failure

/-- The end of a directive: nothing but blanks and a comment may follow on its line. -/
def endDirective : Scan Unit := do
  let cursor := (← cursor).skipWhile isSpace
  let cursor := if cursor.rest.head? = some '#' then cursor.skipWhile (!isBreak ·) else cursor
  if isLineEnd cursor.rest then moveTo cursor.advance else failure

def readNumber : Scan Nat := do
  let digits := (← cursor).rest.takeWhile Char.isDigit
  skip digits.length
  if digits.isEmpty || 9 < digits.length then failure
  return Nat.ofDigitChars 10 digits 0

def skipSpaces : Scan Unit := do moveTo ((← cursor).skipWhile isSpace)

/-- A handle between exclamation marks, or a lone one. -/
def isHandle (text : List Char) : Bool :=
  match text with
  | ['!'] => true
  | '!' :: rest => rest.getLast? = some '!' && rest.dropLast.all isWordChar
  | _ => false

def readDirective : Scan Token := do
  skip 1
  let name := (← cursor).rest.takeWhile isWordChar
  skip name.length
  let token ←
    if name = "YAML".toList then
      skipSpaces
      let major ← readNumber
      if (← cursor).rest.head? ≠ some '.' then failure
      skip 1
      pure (Token.version major (← readNumber))
    else if name = "TAG".toList then
      skipSpaces
      let handle := (← cursor).rest.takeWhile fun c => !isSpace c && !isBreak c
      skip handle.length
      skipSpaces
      let expansion := (← cursor).rest.takeWhile (isUriChar true)
      skip expansion.length
      if !isHandle handle || expansion.isEmpty || !isGap (← cursor).rest then failure
      pure (.tagPrefix handle expansion)
    else failure
  endDirective
  return token

/-- Ends all that a document has open. -/
def endDocument : Scan Unit := do
  closeBlocks (-1)
  dropKey
  allowKey false

/-- A bracket or a brace opens. -/
def openFlow (token : Token) : Scan Unit := do
  saveKey
  modify fun state => { state with keys := none :: state.keys }
  allowKey true
  skip 1
  emit token

def closeFlow (token : Token) : Scan Unit := do
  dropKey
  modify fun state =>
    { state with keys := if 1 < state.keys.length then state.keys.tail else state.keys }
  allowKey false
  skip 1
  emit token

/-- A sign that a block begins with, such as a hyphen before an item. -/
def blockSign (block token : Token) (allowed : Bool) : Scan Unit := do
  if !(← inFlow) then
    let state ← get
    if !state.keyAllowed then failure
    openBlock state.column state.tokens.size block
  dropKey
  allowKey allowed
  skip 1
  emit token

def valueSign : Scan Unit := do
  match (← get).keys with
  | some key :: _ =>
    emitAt key.place .key
    openBlock key.column key.place .mappingStart
    setKey none
    allowKey false
  | _ =>
    if !(← inFlow) then
      let state ← get
      if !state.keyAllowed then failure
      openBlock state.column state.tokens.size .mappingStart
      allowKey true
    else allowKey false
  skip 1
  emit .value

def quotedScalar (quote : Char) : Scan Unit := do
  saveKey
  allowKey false
  let start := (← cursor).advance
  let (text, after) ← readQuoted quote (start.rest.length + 1) [] start
  moveTo after
  emit (.scalar text.reverse false)

def blockScalar (folded : Bool) : Scan Unit := do
  dropKey
  allowKey true
  let (text, after) ← readBlock folded (← get).indent (← cursor).advance
  moveTo after
  emit (.scalar text.reverse false)

def plainScalar : Scan Unit := do
  saveKey
  allowKey false
  let start ← cursor
  let (text, broken, after) ←
    readPlain (← inFlow) ((← get).indent + 1) (start.rest.length + 1) (.spaces []) [] start
  moveTo after
  if broken then allowKey true
  emit (.scalar text.reverse true)

/-- Characters with which something else than a plain scalar begins. -/
def indicators : List Char :=
  ['-', '?', ':', ',', '[', ']', '\x7b', '\x7d', '#', '&', '*', '!', '|', '>', '\x27', '"', '%', '@',
    '\x60']

/-- A plain scalar may begin with `c` before `rest`. -/
def startsPlain (inFlow : Bool) (c : Char) (rest : List Char) : Bool :=
  c ∉ indicators ||
  c = '-' && !(rest.head?.any isSpace) || !inFlow && (c = '?' || c = ':') && !isGap rest

/-- Reads the next token; says whether there may be more. -/
def next : Scan Bool := do
  skipToToken ((← cursor).rest.length + 1)
  dropStaleKeys
  closeBlocks (← get).column
  let inFlow ← inFlow
  let atStart := (← get).column = 0
  match (← cursor).rest with
  | [] =>
    endDocument
    return false
  | c :: rest =>
    if atStart && c = '%' then
      endDocument
      emit (← readDirective)
    else if (← cursor).atDocumentMark then
      endDocument
      skip 3
      emit (if c = '-' then .documentStart else .documentEnd)
    else if c = '[' then openFlow .openBracket
    else if c = '\x7b' then openFlow .openBrace
    else if c = ']' then closeFlow .closeBracket
    else if c = '\x7d' then closeFlow .closeBrace
    else if c = ',' then
      dropKey
      allowKey true
      skip 1
      emit .comma
    else if c = '-' && isGap rest then blockSign .sequenceStart .item true
    else if c = '?' && (inFlow || isGap rest) then blockSign .mappingStart .key (!inFlow)
    else if c = ':' && (inFlow || isGap rest) then valueSign
    else if c = '*' || c = '&' then
      saveKey
      allowKey false
      let name ← readName
      emit (if c = '*' then .alias name else .anchor name)
    else if c = '!' then
      saveKey
      allowKey false
      emit (← readTag)
    else if c = '|' && !inFlow then blockScalar false
    else if c = '>' && !inFlow then blockScalar true
    else if c = '\x27' || c = '"' then quotedScalar c
    else if startsPlain inFlow c rest then plainScalar
    else failure
    return true

def all : Nat → Scan Unit
  | 0 => failure
  | fuel + 1 => do if ← next then all fuel

end Scan

/-- The tokens of a text, if it can be divided into tokens. A byte order mark may stand in front. -/
def tokens? (text : List Char) : Option (List Token) :=
  let text := if text.head? = some '\uFEFF' then text.tail else text
  if text.all isPrintable then
    let start : Scanner := ⟨⟨text, 0, 0, 0⟩, -1, [], [none], true, #[]⟩
    ((Scan.all (text.length + 2)).run start).map fun result => result.2.tokens.toList
  else none

end EventRouting.Yaml
