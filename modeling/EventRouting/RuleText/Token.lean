import EventRouting.Atom
import EventRouting.Json.Reader

set_option autoImplicit false

namespace EventRouting.RuleText

open Text

/-- Characters that end a bare token. -/
def delimiters : List Char := ['\\', '(', ')', '"', '*', '!', '=', '/']

/-- Characters of bare tokens. -/
def isBare (c : Char) : Bool := !isBlank c && c ∉ delimiters

def scanBare (text : List Char) : Option (List Char × List Char) :=
  match text.takeWhile isBare with
  | [] => none
  | token => some (token, text.dropWhile isBare)

def scanString : List Char → Option (List Char × List Char)
  | '"' :: rest => Json.readString [] rest
  | text => scanBare text

/-- What stands up to the next slash. A backslash takes along the character after it, which may be a
slash but not a line feed. -/
def scanSource : List Char → Option (List Char × List Char)
  | '/' :: rest => some ([], rest)
  | '\\' :: c :: rest =>
    if c = '\n' then none
    else (scanSource rest).map fun found => ('\\' :: c :: found.1, found.2)
  | ['\\'] => none
  | c :: rest => (scanSource rest).map fun found => (c :: found.1, found.2)
  | [] => none

/-- A regular expression between slashes, with an `i` behind it to ignore letter case. -/
def scanRegexp : List Char → Option (Regexp × List Char)
  | '/' :: text => do
    let (source, rest) ← scanSource text
    let (ignoreCase, rest) := match rest with
      | 'i' :: rest => (true, rest)
      | rest => (false, rest)
    let regexp ← (Regexp.ofSource source ignoreCase).toOption
    some (regexp, rest)
  | _ => none

/-- One to `most` digits. -/
def scanDigits (most : Nat) (text : List Char) : Option (List Char × List Char) :=
  match (text.takeWhile Char.isDigit).take most with
  | [] => none
  | digits => some (digits, text.drop digits.length)

def scanDot : List Char → Option (List Char)
  | '.' :: rest => some rest
  | _ => none

/-- Four numbers with dots between them. -/
def scanDotted (text : List Char) : Option (List Char × List Char) := do
  let (a, rest) ← scanDigits 3 text
  let (b, rest) ← scanDigits 3 (← scanDot rest)
  let (c, rest) ← scanDigits 3 (← scanDot rest)
  let (d, rest) ← scanDigits 3 (← scanDot rest)
  some (a ++ '.' :: b ++ '.' :: c ++ '.' :: d, rest)

def isAddressChar (c : Char) : Bool := IpAddress.isHexDigit c || c = ':' || c = '.'

/-- Hexadecimal digits, colons and dots, two colons before the first dot. -/
def scanColons (text : List Char) : Option (List Char × List Char) :=
  match text.dropWhile IpAddress.isHexDigit with
  | ':' :: rest =>
    match rest.dropWhile IpAddress.isHexDigit with
    | ':' :: _ => some (text.takeWhile isAddressChar, text.dropWhile isAddressChar)
    | _ => none
  | _ => none

def scanAddress (text : List Char) : Option (List Char × List Char) :=
  scanDotted text <|> scanColons text

/-- What makes more of an address: a count of bits after a slash, or another address after a
hyphen. -/
inductive AddressSuffix where
  | bits (digits : List Char)
  | last (address : List Char)

def scanSuffix (text : List Char) : Option (AddressSuffix × List Char) :=
  match dropBlanks text with
  | '/' :: rest => (scanDigits 5 (dropBlanks rest)).map fun found => (.bits found.1, found.2)
  | '-' :: rest => (scanAddress (dropBlanks rest)).map fun found => (.last found.1, found.2)
  | _ => none

/-- A token may end before `text`. -/
def atBoundary : List Char → Bool
  | [] => true
  | c :: _ => c = ')' || isBlank c

def suffixedRange (address : IpAddress) : Option AddressSuffix → Option IpRange
  | none => some (.ofAddress address)
  | some (.bits digits) => (IpRange.ofBlock address (IpAddress.decimalValue digits)).toOption
  | some (.last last) => do (IpRange.ofEnds address (← IpAddress.read? last)).toOption

/-- An address, a block or a range. -/
def scanIp (text : List Char) : Option (IpRange × List Char) := do
  let (first, rest) ← scanAddress text
  let (suffix, rest) := match scanSuffix rest with
    | some (suffix, rest) => (some suffix, rest)
    | none => (none, rest)
  let range ← suffixedRange (← IpAddress.read? first) suffix
  if atBoundary rest then some (range, rest) else none

/-- The wildcard labels at the front, and what follows them. -/
def spanWildcards : List Char → List Char × List Char
  | '*' :: '.' :: rest => ('*' :: '.' :: (spanWildcards rest).1, (spanWildcards rest).2)
  | rest => ([], rest)

def scanDomain (text : List Char) : Option (DomainPattern × List Char) := do
  let (wildcards, rest) := spanWildcards text
  let (token, rest) ← scanBare rest
  let pattern ← (DomainPattern.read (wildcards ++ token)).toOption
  some (pattern, rest)

end EventRouting.RuleText
