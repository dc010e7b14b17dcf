import EventRouting.Error
import EventRouting.Grammar.Combinators
import EventRouting.Grammar.Machine
import EventRouting.RuleText.Token

set_option autoImplicit false

namespace EventRouting.RuleText

open Text

/-- What parts of a rule text stand for. -/
inductive Phrase where
  | nothing
  | key (name : Option String)
  | operand (atom : Option Atom)
  | rule (expression : Expression)
deriving Inhabited

inductive Level where
  | expression
  | disjunction
  | conjunction
  | unary
deriving DecidableEq, Repr

abbrev RuleGrammar := Grammar Level Phrase

/-- A token at the cursor, as a phrase. -/
def token {Value : Type} (read : List Char → Option (Value × List Char)) (phrase : Value → Phrase) :
    RuleGrammar :=
  .scan fun cursor => (read cursor.ahead).map fun found =>
    (phrase found.1, cursor.ahead.length - found.2.length)

def blanks : RuleGrammar :=
  .scan fun cursor =>
    match cursor.ahead.takeWhile isBlank with
    | [] => none
    | found => some (.nothing, found.length)

def someBlanks : RuleGrammar := blanks.maybe id .nothing

/-- Blanks, or nothing at all next to a parenthesis. -/
def gap : RuleGrammar :=
  .scan fun cursor =>
    let found := cursor.ahead.takeWhile isBlank
    if !found.isEmpty || cursor.behind.head? = some ')' ||
        (cursor.ahead.drop found.length).head? = some '(' then
      some (.nothing, found.length)
    else none

def keyword (text : String) : RuleGrammar := .word text.toList fun _ => .nothing

def mark (text : String) (phrase : Phrase) : RuleGrammar := .literal text.toList phrase

def stringOperand (value : List Char) : Phrase :=
  .operand (some (.string (String.ofList value)))

/-- An address range or a domain pattern. -/
def network : RuleGrammar :=
  .union [token scanIp fun range => .operand (some (.ip range)),
    token scanDomain fun pattern => .operand (some (.domainName pattern))]

/-- What stands after an equals sign. -/
def value : RuleGrammar :=
  .union [mark "*" (.operand none), token scanRegexp fun regexp => .operand (some (.regexp regexp)),
    token scanString stringOperand]

def matchTail : RuleGrammar :=
  .union [
    ((((someBlanks.andThen (mark "=" .nothing)).andThen ((mark "=" .nothing).maybe id .nothing)).andThen
      someBlanks).andThen value),
    ((blanks.andThen (keyword "in")).andThen blanks).andThen network]

def nonMatchTail : RuleGrammar :=
  .union [
    ((someBlanks.andThen (mark "!=" .nothing)).andThen someBlanks).andThen value,
    ((((blanks.andThen (keyword "not")).andThen blanks).andThen (keyword "in")).andThen
      blanks).andThen network]

/-- The test of a key against an operand. -/
def testOf (sense : Sense) : Phrase → Phrase → Phrase
  | .key key, .operand atom => .rule (.test sense key atom)
  | _, _ => .nothing

def fuzzyOf : Phrase → Phrase
  | .operand (some atom) => .rule (.fuzzy atom)
  | _ => .nothing

def noOf : Phrase → Phrase
  | .rule operand => .rule (.no operand)
  | _ => .nothing

def junctionOf (kind : Junction) : Phrase → Phrase → Phrase
  | .rule left, .rule right => .rule (.junction kind left [right])
  | _, _ => .nothing

/-- Tests, and whatever else stands alone. -/
def basic : RuleGrammar :=
  .union [
    token scanRegexp fun regexp => .rule (.fuzzy (.regexp regexp)),
    .step
      (.union [mark "*" (.key none), token scanString fun name => .key (some (String.ofList name))])
      [(matchTail, testOf .matching), (nonMatchTail, testOf .nonMatching)],
    network.map fuzzyOf,
    (token scanString stringOperand).map fuzzyOf,
    mark "*" (.rule .anything)]

def parentheses : RuleGrammar :=
  .sequence [mark "(" .nothing, .forward .expression, mark ")" .nothing] fun
    | [_, inner, _] => inner
    | _ => .nothing

def negation : RuleGrammar :=
  ((keyword "no").andThen
    (.union [someBlanks.andThen parentheses, blanks.andThen (.forward .unary)])).map noOf

/-- Operands of one level with a word between them, grouped to the right. -/
def chain (operand same : Level) (word : String) (kind : Junction) : RuleGrammar :=
  .step (.forward operand)
    [(((gap.andThen (keyword word)).andThen gap).andThen (.forward same), junctionOf kind),
      (.epsilon .nothing, fun left _ => left)]

def definitions : Definitions Level Phrase :=
  ⟨[(.unary, .union [negation, parentheses, basic]),
    (.conjunction, chain .unary .conjunction "and" .and),
    (.disjunction, chain .conjunction .disjunction "or" .or),
    (.expression, (someBlanks.andThen (.forward .disjunction)).andSkip someBlanks)]⟩

/-- The rule that a whole text spells, or what is wrong. -/
def parse (text : String) : Except Error Expression := do
  let definitions ← (Definitions.build definitions.entries).mapError .grammar
  match ← (Grammar.parse definitions (.forward .expression) text.toList).mapError .grammar with
  | some (.rule expression, []) => .ok expression
  | _ => .error (.parse text)

/-- The rule that a whole text spells. -/
def read? (text : String) : Option Expression :=
  match Grammar.parse definitions (.forward .expression) text.toList with
  | .ok (some (.rule expression, [])) => some expression
  | _ => none

end EventRouting.RuleText
