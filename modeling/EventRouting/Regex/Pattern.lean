import EventRouting.Regex.ClassName
import EventRouting.Regex.Syntax

set_option autoImplicit false

namespace EventRouting.Regex

structure Flags where
  ignoreCase : Bool
  multiLine : Bool
  dotMatchesNewLine : Bool
  unicode : Bool
  crlf : Bool
deriving DecidableEq, Repr

/-- Greed and verbosity say nothing about what matches. -/
def Flags.set (flags : Flags) (change : Flag × Bool) : Flags :=
  match change with
  | (.ignoreCase, on) => { flags with ignoreCase := on }
  | (.multiLine, on) => { flags with multiLine := on }
  | (.dotMatchesNewLine, on) => { flags with dotMatchesNewLine := on }
  | (.unicode, on) => { flags with unicode := on }
  | (.crlf, on) => { flags with crlf := on }
  | (.swapGreed, _) | (.verbose, _) => flags

def Flags.after (flags : Flags) (changes : FlagChanges) : Flags := changes.foldl Flags.set flags

inductive Pattern where
  | empty
  /-- One character of a set. -/
  | char (set : CharSet)
  /-- A place between characters, as read under some flags. -/
  | look (kind : LookKind) (flags : Flags)
  | sequence (left right : Pattern)
  | either (left right : Pattern)
  | repetition (least : Nat) (most : Option Nat) (inner : Pattern)

def foldCase (flags : Flags) (set : CharSet) : CharSet :=
  if flags.ignoreCase then .caseless (!flags.unicode) set else set

/-- A set that was put together under `flags`, negated last. -/
def closeSet (flags : Flags) (negated : Bool) (set : CharSet) : Option CharSet :=
  let set := CharSet.complementIf negated (foldCase flags set)
  if flags.unicode || set.isAsciiOnly then some set else none

def PerlKind.set (unicode : Bool) : PerlKind → CharSet
  | .digit => if unicode then digitSet else .range '0' '9'
  | .space => if unicode then spaceSet else asciiSpaceSet
  | .word => if unicode then wordSet else asciiWordSet

/-- These sets are closed under letter case already. -/
def perlSet (flags : Flags) (negated : Bool) (kind : PerlKind) : Option CharSet :=
  let set := CharSet.complementIf negated (kind.set flags.unicode)
  if flags.unicode || set.isAsciiOnly then some set else none

def UnicodeName.set? : UnicodeName → Option CharSet
  | .bare name => setNamed name
  | .valued property value => setValued property value

def unicodeSet (flags : Flags) (negated : Bool) (name : UnicodeName) : Option CharSet :=
  if flags.unicode then
    name.set?.map fun set => CharSet.complementIf negated (foldCase flags set)
  else none

/-- A character in brackets; without Unicode it has to be a byte of ASCII. -/
def literalInSet (flags : Flags) (literal : Literal) : Option Char :=
  if flags.unicode || literal.char.toNat < 128 then some literal.char else none

def SetOperator.apply : SetOperator → CharSet → CharSet → CharSet
  | .intersection => .intersection
  | .difference => .difference
  | .symmetricDifference => .symmetricDifference

def ClassSet.meaning? (flags : Flags) : ClassSet → Option CharSet
  | .empty => some .nothing
  | .literal written => (literalInSet flags written).map CharSet.single
  | .range first last => do return .range (← literalInSet flags first) (← literalInSet flags last)
  | .ascii negated name => (asciiClass name).bind (closeSet flags negated)
  | .unicode negated name => unicodeSet flags negated name
  | .perl negated kind => perlSet flags negated kind
  | .bracketed negated inner => (inner.meaning? flags).bind (closeSet flags negated)
  | .union items => (all items).map CharSet.unions
  | .operation operator left right => do
    let left ← left.meaning? flags
    let right ← right.meaning? flags
    return operator.apply (foldCase flags left) (foldCase flags right)
where
  all : List ClassSet → Option (List CharSet)
    | [] => some []
    | item :: rest => do return (← item.meaning? flags) :: (← all rest)

/-- Any character, but for the end of a line unless the flags say so. -/
def dotSet (flags : Flags) : Option CharSet :=
  if !flags.unicode then none
  else if flags.dotMatchesNewLine then some .anything
  else if flags.crlf then some (.complement (.union (.single '\r') (.single '\n')))
  else some (.complement (.single '\n'))

def literalPattern (flags : Flags) (literal : Literal) : Option Pattern :=
  if !flags.unicode && literal.form = .byte && 128 ≤ literal.char.toNat then none
  else some (.char (foldCase flags (.single literal.char)))

/-- What a tree matches under `flags`, with the flags that hold after it. -/
def Tree.meaning? (flags : Flags) : Tree → Option (Pattern × Flags)
  | .empty => some (.empty, flags)
  | .flags changes => some (.empty, flags.after changes)
  | .literal written => (literalPattern flags written).map (·, flags)
  | .dot => (dotSet flags).map fun set => (.char set, flags)
  | .look kind => some (.look kind flags, flags)
  | .unicode negated name => (unicodeSet flags negated name).map fun set => (.char set, flags)
  | .perl negated kind => (perlSet flags negated kind).map fun set => (.char set, flags)
  | .bracketed negated set => do
    let set ← (set.meaning? flags).bind (closeSet flags negated)
    return (.char set, flags)
  | .repetition least most inner => do
    let (inner, flags) ← inner.meaning? flags
    return (.repetition least most inner, flags)
  | .group _ changes inner => do
    let (inner, _) ← inner.meaning? (flags.after changes)
    return (inner, flags)
  | .alternation branches => alternatives flags branches
  | .sequence items => sequence flags items
where
  alternatives (flags : Flags) : List Tree → Option (Pattern × Flags)
    | [] => some (.empty, flags)
    | [branch] => branch.meaning? flags
    | branch :: rest => do
      let (first, flags) ← branch.meaning? flags
      let (others, flags) ← alternatives flags rest
      return (.either first others, flags)
  sequence (flags : Flags) : List Tree → Option (Pattern × Flags)
    | [] => some (.empty, flags)
    | item :: rest => do
      let (first, flags) ← item.meaning? flags
      let (others, flags) ← sequence flags rest
      return (.sequence first others, flags)

end EventRouting.Regex
