set_option autoImplicit false

namespace EventRouting.Regex

inductive Flag where
  | ignoreCase
  | multiLine
  | dotMatchesNewLine
  | swapGreed
  | unicode
  | crlf
  | verbose
deriving DecidableEq, Repr

/-- What a flag group does: each flag in it and whether it is turned on. -/
abbrev FlagChanges := List (Flag × Bool)

/-- How a character was written: as itself, by an escape, or by an escape for a single byte. -/
inductive LiteralForm where
  | plain
  | escaped
  | byte
deriving DecidableEq, Repr

structure Literal where
  char : Char
  form : LiteralForm
deriving DecidableEq, Repr

inductive PerlKind where
  | digit
  | space
  | word
deriving DecidableEq, Repr

inductive UnicodeName where
  | bare (name : List Char)
  | valued (property value : List Char)
deriving DecidableEq, Repr

inductive SetOperator where
  | intersection
  | difference
  | symmetricDifference
deriving DecidableEq, Repr

/-- The contents of square brackets. -/
inductive ClassSet where
  | empty
  | literal (literal : Literal)
  | range (first last : Literal)
  | ascii (negated : Bool) (name : List Char)
  | unicode (negated : Bool) (name : UnicodeName)
  | perl (negated : Bool) (kind : PerlKind)
  | bracketed (negated : Bool) (inner : ClassSet)
  | union (items : List ClassSet)
  | operation (operator : SetOperator) (left right : ClassSet)
deriving Repr

inductive LookKind where
  | lineStart
  | lineEnd
  | textStart
  | textEnd
  | wordBoundary
  | notWordBoundary
  | wordStart
  | wordEnd
  | wordStartHalf
  | wordEndHalf
deriving DecidableEq, Repr

inductive Tree where
  | empty
  | flags (changes : FlagChanges)
  | literal (literal : Literal)
  | dot
  | look (kind : LookKind)
  | unicode (negated : Bool) (name : UnicodeName)
  | perl (negated : Bool) (kind : PerlKind)
  | bracketed (negated : Bool) (set : ClassSet)
  | repetition (least : Nat) (most : Option Nat) (inner : Tree)
  /-- A group, with its name and its flags if it has any. -/
  | group (name : Option (List Char)) (changes : FlagChanges) (inner : Tree)
  | alternation (branches : List Tree)
  | sequence (items : List Tree)
deriving Repr

/-- Levels of brackets, unions and operations. -/
def ClassSet.depth : ClassSet → Nat
  | .bracketed _ inner => inner.depth + 1
  | .union items => depths items + 1
  | .operation _ left right => max left.depth right.depth + 1
  | _ => 0
where
  depths : List ClassSet → Nat
    | [] => 0
    | item :: rest => max item.depth (depths rest)

def Tree.depth : Tree → Nat
  | .bracketed _ set => set.depth + 1
  | .repetition _ _ inner => inner.depth + 1
  | .group _ _ inner => inner.depth + 1
  | .alternation branches => depths branches + 1
  | .sequence items => depths items + 1
  | _ => 0
where
  depths : List Tree → Nat
    | [] => 0
    | item :: rest => max item.depth (depths rest)

/-- Every flag group in the tree, in the order of the text. -/
def Tree.flagGroups : Tree → List FlagChanges
  | .flags changes => [changes]
  | .repetition _ _ inner => inner.flagGroups
  | .group _ changes inner => changes :: inner.flagGroups
  | .alternation branches => allFlagGroups branches
  | .sequence items => allFlagGroups items
  | _ => []
where
  allFlagGroups : List Tree → List FlagChanges
    | [] => []
    | item :: rest => item.flagGroups ++ allFlagGroups rest

/-- Some flag group in the tree turns `flag` on. -/
def Tree.enables (flag : Flag) (tree : Tree) : Bool :=
  tree.flagGroups.any (·.contains (flag, true))

end EventRouting.Regex
