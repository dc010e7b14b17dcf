import EventRouting.Regex.Matching
import EventRouting.Regex.Reader
import EventRouting.Text.Quoted

set_option autoImplicit false

namespace EventRouting

open Regex

/-- Modes that can be asked for next to a pattern. -/
inductive RegexpMode where
  | ignoreCase
  | multiLine
  | verbose
  | locale
  | unicode
  | dotMatchesNewLine
deriving DecidableEq, Repr

def RegexpMode.name : RegexpMode → String
  | .ignoreCase => "IGNORE_CASE"
  | .multiLine => "MULTILINE"
  | .verbose => "VERBOSE"
  | .locale => "LOCALE"
  | .unicode => "UNICODE"
  | .dotMatchesNewLine => "DOTALL"

def RegexpMode.all : List RegexpMode :=
  [.ignoreCase, .multiLine, .verbose, .locale, .unicode, .dotMatchesNewLine]

/-- Refused modes; the first of them that was asked for is reported. -/
def RegexpMode.refused : List RegexpMode := [.verbose, .multiLine, .locale]

inductive RegexpError where
  | forbiddenMode (mode : RegexpMode)
  | invalid (source : String)
deriving DecidableEq, Repr

def RegexpError.message : RegexpError → String
  | .forbiddenMode mode => "forbidden regular expression flag " ++ mode.name
  | .invalid source => "invalid regular expression " ++ Text.quoted source

/-- The first refused mode among flag letters. -/
def refusedLetter : List Char → Option RegexpMode
  | [] => none
  | c :: rest =>
    if c = 'm' then some .multiLine
    else if c = 'x' then some .verbose
    else if c.isAlpha then refusedLetter rest
    else none

/-- The refused mode that some flag group turns on. `inClass` says that the last bracket that no
backslash precedes was an opening one. -/
def refusedInline (inClass : Bool) : List Char → Option RegexpMode
  | [] => none
  | '\\' :: _ :: rest => refusedInline inClass rest
  | '[' :: rest => refusedInline true rest
  | ']' :: rest => refusedInline false rest
  | '(' :: '?' :: rest =>
    if inClass then refusedInline inClass rest
    else
      match refusedLetter rest with
      | some mode => some mode
      | none => refusedInline inClass rest
  | _ :: rest => refusedInline inClass rest

/-- Writes every escaped slash as a plain one. -/
def unescapeSlashes : List Char → List Char
  | '\\' :: '/' :: rest => '/' :: unescapeSlashes rest
  | '\\' :: c :: rest => '\\' :: c :: unescapeSlashes rest
  | c :: rest => c :: unescapeSlashes rest
  | [] => []

/-- The flags that hold at the start of a pattern. -/
def startFlags (ignoreCase : Bool) : Flags where
  ignoreCase
  multiLine := false
  dotMatchesNewLine := true
  unicode := true
  crlf := false

/-- The meaning of a pattern, if it is well formed and `small`. Who runs patterns may refuse those
that grow too large when their repetitions are written out. -/
def compileWithin? (small : Pattern → Bool) (source : List Char) (ignoreCase : Bool) :
    Option Pattern := do
  let tree ← Regex.read? source
  let (pattern, _) ← tree.meaning? (startFlags ignoreCase)
  if small pattern then some pattern else none

/-- The meaning of a well formed pattern of any size. -/
def compile? : List Char → Bool → Option Pattern := compileWithin? fun _ => true

/-- A limit takes patterns away and changes no other. -/
theorem compileWithin?_eq_some_iff {small : Pattern → Bool} {source : List Char} {ignoreCase : Bool}
    {pattern : Pattern} : compileWithin? small source ignoreCase = some pattern ↔
      compile? source ignoreCase = some pattern ∧ small pattern = true := by
  simp only [compile?, compileWithin?, Option.bind_eq_bind, Option.bind_eq_some_iff, if_true]
  constructor
  · rintro ⟨tree, read, ⟨found, flags⟩, meant, fits⟩
    split at fits
    · next fit =>
      obtain rfl := Option.some.inj fits
      exact ⟨⟨tree, read, (found, flags), meant, rfl⟩, fit⟩
    · contradiction
  · rintro ⟨⟨tree, read, ⟨found, flags⟩, meant, same⟩, fit⟩
    obtain rfl := Option.some.inj same
    exact ⟨tree, read, (found, flags), meant, if_pos fit⟩

structure Regexp where
  source : String
  ignoreCase : Bool
  pattern : Pattern
  compiled : compile? source.toList ignoreCase = some pattern

namespace Regexp

theorem ext_of_source {left right : Regexp} (source : left.source = right.source)
    (ignoreCase : left.ignoreCase = right.ignoreCase) : left = right := by
  obtain ⟨source₁, case₁, pattern₁, compiled₁⟩ := left
  obtain ⟨source₂, case₂, pattern₂, compiled₂⟩ := right
  simp only at source ignoreCase
  subst source ignoreCase
  have same : pattern₁ = pattern₂ := Option.some.inj (compiled₁.symm.trans compiled₂)
  subst same
  rfl

instance : DecidableEq Regexp := fun left right =>
  if h : left.source = right.source ∧ left.ignoreCase = right.ignoreCase then
    .isTrue (ext_of_source h.1 h.2)
  else .isFalse fun same => h ⟨congrArg source same, congrArg ignoreCase same⟩

instance : Hashable Regexp where
  hash regexp := mixHash (hash regexp.source) (hash regexp.ignoreCase)

def ofSource (source : List Char) (ignoreCase : Bool) : Except RegexpError Regexp :=
  match refusedInline false source with
  | some mode => .error (.forbiddenMode mode)
  | none =>
    let source := String.ofList (unescapeSlashes source)
    match compiled : compile? source.toList ignoreCase with
    | some pattern => .ok ⟨source, ignoreCase, pattern, compiled⟩
    | none => .error (.invalid source)

def withModes (source : List Char) (modes : List RegexpMode) : Except RegexpError Regexp :=
  match RegexpMode.refused.find? modes.contains with
  | some mode => .error (.forbiddenMode mode)
  | none => ofSource source (modes.contains .ignoreCase)

/-- The expression matches somewhere in `value`. -/
def occursIn (regexp : Regexp) (value : String) : Bool := regexp.pattern.occursIn value.toList

end Regexp

end EventRouting
