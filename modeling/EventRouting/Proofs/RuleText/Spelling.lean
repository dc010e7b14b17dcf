import EventRouting.Proofs.Network.DomainText
import EventRouting.RuleText.Reader
import EventRouting.RuleText.Writer

set_option autoImplicit false

namespace EventRouting.RuleText

open Text

def Blanks (text : List Char) : Prop := ∀ c ∈ text, isBlank c = true

/-- The text is the word in some letter case. -/
def Spells (word : String) (text : List Char) : Prop := text.map Char.toLower = word.toList

/-- What may stand between the quotes of a JSON string, and what it stands for. -/
inductive Quoted : List Char → List Char → Prop where
  | nil : Quoted [] []
  | plain {c : Char} {text value : List Char} (printable : 0x20 ≤ c.toNat) (notQuote : c ≠ '"')
    (notBackslash : c ≠ '\\') (rest : Quoted text value) : Quoted (c :: text) (c :: value)
  | escape {c meant : Char} {text value : List Char} (escapes : Json.escape? c = some meant)
    (rest : Quoted text value) : Quoted ('\\' :: c :: text) (meant :: value)
  | unit {a b c d : Char} {unit : Nat} {text value : List Char} (digits : Json.unit? a b c d = some unit)
    (notHigh : Json.isHighSurrogate unit = false) (notLow : Json.isLowSurrogate unit = false)
    (rest : Quoted text value) : Quoted ('\\' :: 'u' :: a :: b :: c :: d :: text) (Char.ofNat unit :: value)
  | pair {a b c d e f g h : Char} {high low : Nat} {text value : List Char}
    (first : Json.unit? a b c d = some high) (second : Json.unit? e f g h = some low)
    (isHigh : Json.isHighSurrogate high = true) (isLow : Json.isLowSurrogate low = true)
    (rest : Quoted text value) :
    Quoted ('\\' :: 'u' :: a :: b :: c :: d :: '\\' :: 'u' :: e :: f :: g :: h :: text)
      (Char.ofNat (0x10000 + (high - 0xd800) * 0x400 + (low - 0xdc00)) :: value)

/-- A string is bare or in quotes. -/
inductive StringText : List Char → List Char → Prop where
  | bare {value : List Char} (some : value ≠ []) (bare : ∀ c ∈ value, isBare c = true)
    (free : isKeyword value = false) : StringText value value
  | quoted {inner value : List Char} (quoted : Quoted inner value) :
    StringText ('"' :: inner ++ ['"']) value

/-- What may stand between the slashes of a regular expression. -/
inductive SourceText : List Char → Prop where
  | nil : SourceText []
  | escaped {c : Char} {text : List Char} (sameLine : c ≠ '\n') (rest : SourceText text) :
    SourceText ('\\' :: c :: text)
  | plain {c : Char} {text : List Char} (notBackslash : c ≠ '\\') (notSlash : c ≠ '/')
    (rest : SourceText text) : SourceText (c :: text)

inductive RegexpText : List Char → Regexp → Prop where
  | regexp {source : List Char} {ignoreCase : Bool} {regexp : Regexp} (spelled : SourceText source)
    (valid : Regexp.ofSource source ignoreCase = .ok regexp) :
    RegexpText ('/' :: source ++ (if ignoreCase then ['/', 'i'] else ['/'])) regexp

/-- An address, a block or a range, with white space around the slash or the hyphen. -/
inductive IpText : List Char → IpRange → Prop where
  | address {text : List Char} {address : IpAddress} (read : IpAddress.read? text = some address) :
    IpText text (.ofAddress address)
  | block {text before after digits : List Char} {address : IpAddress} {range : IpRange}
    (read : IpAddress.read? text = some address) (front : Blanks before) (back : Blanks after)
    (some : digits ≠ []) (short : digits.length ≤ 5) (decimal : ∀ c ∈ digits, c.isDigit = true)
    (valid : IpRange.ofBlock address (IpAddress.decimalValue digits) = .ok range) :
    IpText (text ++ before ++ '/' :: after ++ digits) range
  | ends {text before after other : List Char} {one last : IpAddress} {range : IpRange}
    (read : IpAddress.read? text = some one) (front : Blanks before) (back : Blanks after)
    (readOther : IpAddress.read? other = some last) (valid : IpRange.ofEnds one last = .ok range) :
    IpText (text ++ before ++ '-' :: after ++ other) range

inductive DomainText : List Char → DomainPattern → Prop where
  | domain {token : List Char} {pattern : DomainPattern} (wildcards : Nat) (some : token ≠ [])
    (bare : ∀ c ∈ token, isBare c = true)
    (read : DomainPattern.read (DomainPattern.wildcardText wildcards ++ token) = .ok pattern) :
    DomainText (DomainPattern.wildcardText wildcards ++ token) pattern

inductive NetworkText : List Char → Atom → Prop where
  | ip {text : List Char} {range : IpRange} (spelled : IpText text range) : NetworkText text (.ip range)
  | domainName {text : List Char} {pattern : DomainPattern} (spelled : DomainText text pattern) :
    NetworkText text (.domainName pattern)

inductive KeyText : List Char → Option String → Prop where
  | any : KeyText ['*'] none
  | string {text value : List Char} (spelled : StringText text value) :
    KeyText text (some (String.ofList value))

inductive ValueText : List Char → Option Atom → Prop where
  | any : ValueText ['*'] none
  | regexp {text : List Char} {regexp : Regexp} (spelled : RegexpText text regexp) :
    ValueText text (some (.regexp regexp))
  | string {text value : List Char} (spelled : StringText text value) :
    ValueText text (some (.string (String.ofList value)))

/-- A rule without parts. A bare string alone must not be readable as an address or a domain. -/
inductive LeafText : Expression → List Char → Prop where
  | anything : LeafText .anything ['*']
  | equal {key : Option String} {atom : Option Atom} {name before sign after value : List Char}
    (keyed : KeyText name key) (front : Blanks before) (signed : sign = ['='] ∨ sign = ['=', '='])
    (back : Blanks after) (valued : ValueText value atom) :
    LeafText (.test .matching key atom) (name ++ before ++ sign ++ after ++ value)
  | unequal {key : Option String} {atom : Option Atom} {name before after value : List Char}
    (keyed : KeyText name key) (front : Blanks before) (back : Blanks after)
    (valued : ValueText value atom) :
    LeafText (.test .nonMatching key atom) (name ++ before ++ ['!', '='] ++ after ++ value)
  | inside {key : Option String} {atom : Atom} {name before word after network : List Char}
    (keyed : KeyText name key) (front : Blanks before) (apart : before ≠ []) (spelled : Spells "in" word)
    (back : Blanks after) (separate : after ≠ []) (networked : NetworkText network atom) :
    LeafText (.test .matching key (some atom)) (name ++ before ++ word ++ after ++ network)
  | outside {key : Option String} {atom : Atom} {name before denial middle word after network : List Char}
    (keyed : KeyText name key) (front : Blanks before) (apart : before ≠ [])
    (denied : Spells "not" denial) (between : Blanks middle) (distinct : middle ≠ [])
    (spelled : Spells "in" word) (back : Blanks after) (separate : after ≠ [])
    (networked : NetworkText network atom) :
    LeafText (.test .nonMatching key (some atom))
      (name ++ before ++ denial ++ middle ++ word ++ after ++ network)
  | regexp {text : List Char} {regexp : Regexp} (spelled : RegexpText text regexp) :
    LeafText (.fuzzy (.regexp regexp)) text
  | network {text : List Char} {atom : Atom} (networked : NetworkText text atom) :
    LeafText (.fuzzy atom) text
  | bare {value : List Char} (some : value ≠ []) (bare : ∀ c ∈ value, isBare c = true)
    (free : isKeyword value = false) (notIp : scanIp value = none) (notDomain : scanDomain value = none) :
    LeafText (.fuzzy (.string (String.ofList value))) value
  | quoted {inner value : List Char} (quoted : Quoted inner value) :
    LeafText (.fuzzy (.string (String.ofList value))) ('"' :: inner ++ ['"'])

/-- White space before a word, or none after a closing parenthesis. -/
def GapAfter (text gap : List Char) : Prop := Blanks gap ∧ (gap ≠ [] ∨ text.getLast? = some ')')

/-- White space after a word, or none before an opening parenthesis. -/
def GapBefore (gap text : List Char) : Prop := Blanks gap ∧ (gap ≠ [] ∨ text.head? = some '(')

inductive Layout : Level → Expression → List Char → Prop where
  | leaf {expression : Expression} {text : List Char} (leaf : LeafText expression text) :
    Layout .unary expression text
  | parentheses {expression : Expression} {text : List Char} (inner : Layout .expression expression text) :
    Layout .unary expression ('(' :: text ++ [')'])
  | no {operand : Expression} {word gap text : List Char} (spelled : Spells "no" word)
    (apart : GapBefore gap text) (inner : Layout .unary operand text) :
    Layout .unary (.no operand) (word ++ gap ++ text)
  | unary {expression : Expression} {text : List Char} (inner : Layout .unary expression text) :
    Layout .conjunction expression text
  | and {left right : Expression} {first front word back second : List Char}
    (inLeft : Layout .conjunction left first) (before : GapAfter first front) (spelled : Spells "and" word)
    (after : GapBefore back second) (inRight : Layout .conjunction right second) :
    Layout .conjunction (.both left right) (first ++ front ++ word ++ back ++ second)
  | conjunction {expression : Expression} {text : List Char} (inner : Layout .conjunction expression text) :
    Layout .disjunction expression text
  | or {left right : Expression} {first front word back second : List Char}
    (inLeft : Layout .disjunction left first) (before : GapAfter first front) (spelled : Spells "or" word)
    (after : GapBefore back second) (inRight : Layout .disjunction right second) :
    Layout .disjunction (.either left right) (first ++ front ++ word ++ back ++ second)
  | expression {expression : Expression} {before text after : List Char} (front : Blanks before)
    (inner : Layout .disjunction expression text) (back : Blanks after) :
    Layout .expression expression (before ++ text ++ after)

end EventRouting.RuleText
