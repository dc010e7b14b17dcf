import EventRouting.Regex.ClassName
import EventRouting.Regex.Escape

set_option autoImplicit false

namespace EventRouting.Regex

open Reading

/-- A member of a class, if what was read can be one. -/
def Tree.member? : Tree → Option ClassSet
  | .literal written => some (.literal written)
  | .unicode negated name => some (.unicode negated name)
  | .perl negated kind => some (.perl negated kind)
  | _ => none

def Tree.literal? : Tree → Option Literal
  | .literal written => some written
  | _ => none

/-- The members read so far, last first, as one set. -/
def unionOf (members : List ClassSet) : ClassSet :=
  match members with
  | [] => .empty
  | [member] => member
  | members => .union members.reverse

def operate (pending : Option (SetOperator × ClassSet)) (set : ClassSet) : ClassSet :=
  match pending with
  | some (operator, left) => .operation operator left set
  | none => set

def setOperator? : Char → Char → Option SetOperator
  | '&', '&' => some .intersection
  | '-', '-' => some .difference
  | '~', '~' => some .symmetricDifference
  | _, _ => none

/-- A class by name, such as `:alpha:`, with what follows its closing bracket. -/
def namedClass? (text : List Char) : Option (ClassSet × List Char) :=
  match text with
  | ':' :: '^' :: rest => named true rest
  | ':' :: rest => named false rest
  | _ => none
where
  named (negated : Bool) (text : List Char) : Option (ClassSet × List Char) := do
    let (name, rest) ← cutAt [':', ']'] text
    if name.contains ':' then none
    else
      let _ ← asciiClass name
      some (.ascii negated name, rest)

/-- Negation, and the hyphens or the bracket that stand for themselves at the front. -/
def openClass : Reading (Bool × List ClassSet) := do
  settle
  let negated ← accept '^'
  settle
  let hyphens ← takeWhile (· = '-')
  if hyphens.isEmpty then
    if ← accept ']' then
      settle
      return (negated, [.literal ⟨']', .plain⟩])
  return (negated, hyphens.map fun c => .literal ⟨c, .plain⟩)

def readMember : Reading Tree := do
  let c ← take
  if c = '\\' then readEscape else return plainLiteral c

/-- One member, or two with a hyphen between them. -/
def readRange : Reading ClassSet := do
  let first ← readMember
  settle
  match ← rest with
  | [] => failure
  | '-' :: rest =>
    let next ← peekPast rest
    if next = some ']' || next = some '-' then first.member?
    else
      setRest rest
      settle
      let last ← readMember
      let first ← first.literal?
      let last ← last.literal?
      if first.char ≤ last.char then return .range first last else failure
  | _ => first.member?

/-- Reads on to the closing bracket; `members` are those since the last operator, last first. -/
def readMembers :
    Nat → Option (SetOperator × ClassSet) → List ClassSet → Reading ClassSet
  | 0, _, _ => failure
  | fuel + 1, pending, members => do
    settle
    match ← rest with
    | [] => failure
    | ']' :: rest =>
      setRest rest
      return operate pending (unionOf members)
    | '[' :: rest =>
      match namedClass? rest with
      | some (named, rest) =>
        setRest rest
        readMembers fuel pending (named :: members)
      | none =>
        setRest rest
        let (negated, front) ← openClass
        let inner ← readMembers fuel none front
        readMembers fuel pending (.bracketed negated inner :: members)
    | c :: rest =>
      match rest.head?.bind (setOperator? c) with
      | some operator =>
        setRest rest.tail
        readMembers fuel (some (operator, operate pending (unionOf members))) []
      | none =>
        let member ← readRange
        readMembers fuel pending (member :: members)

/-- Reads on after an opening bracket. -/
def readClass : Reading Tree := do
  let (negated, front) ← openClass
  let set ← readMembers ((← rest).length + 1) none front
  return .bracketed negated set

end EventRouting.Regex
