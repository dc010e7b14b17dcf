import EventRouting.Json.Value

set_option autoImplicit false

namespace EventRouting.Json

def hexDigit (value : Nat) : Char := Nat.digitChar value

/-- Quotes, backslashes and control characters are escaped, all else stands for itself. -/
def escapedChar (c : Char) : List Char :=
  match c with
  | '"' => ['\\', '"']
  | '\\' => ['\\', '\\']
  | '\x08' => ['\\', 'b']
  | '\x0c' => ['\\', 'f']
  | '\n' => ['\\', 'n']
  | '\r' => ['\\', 'r']
  | '\t' => ['\\', 't']
  | c =>
    if c.toNat < 0x20 then
      ['\\', 'u', '0', '0', hexDigit (c.toNat / 16), hexDigit (c.toNat % 16)]
    else [c]

def writeString (text : List Char) : List Char :=
  '"' :: (text.flatMap escapedChar ++ ['"'])

mutual

/-- The document on one line, without blanks. -/
def write : Json → List Char
  | .null => "null".toList
  | .bool true => "true".toList
  | .bool false => "false".toList
  | .number literal => literal.toList
  | .string value => writeString value.toList
  | .array items => '[' :: (writeItems items ++ [']'])
  | .object fields => '\x7b' :: (writeFields fields ++ ['\x7d'])

def writeItems : List Json → List Char
  | [] => []
  | [item] => write item
  | item :: next :: rest => write item ++ ',' :: writeItems (next :: rest)

def writeFields : List (String × Json) → List Char
  | [] => []
  | [(name, value)] => writeString name.toList ++ ':' :: write value
  | (name, value) :: next :: rest =>
    writeString name.toList ++ ':' :: (write value ++ ',' :: writeFields (next :: rest))

end

def newLine (depth : Nat) : List Char := '\n' :: List.replicate (2 * depth) ' '

mutual

/-- The document spread over lines, inside `depth` levels. -/
def pretty (depth : Nat) : Json → List Char
  | .array [] => ['[', ']']
  | .array items => '[' :: (prettyItems (depth + 1) items ++ newLine depth ++ [']'])
  | .object [] => ['\x7b', '\x7d']
  | .object fields => '\x7b' :: (prettyFields (depth + 1) fields ++ newLine depth ++ ['\x7d'])
  | .null => "null".toList
  | .bool true => "true".toList
  | .bool false => "false".toList
  | .number literal => literal.toList
  | .string value => writeString value.toList

def prettyItems (depth : Nat) : List Json → List Char
  | [] => []
  | [item] => newLine depth ++ pretty depth item
  | item :: next :: rest =>
    newLine depth ++ pretty depth item ++ ',' :: prettyItems depth (next :: rest)

def prettyFields (depth : Nat) : List (String × Json) → List Char
  | [] => []
  | [(name, value)] =>
    newLine depth ++ writeString name.toList ++ ':' :: ' ' :: pretty depth value
  | (name, value) :: next :: rest =>
    newLine depth ++ writeString name.toList ++ ':' :: ' ' ::
      (pretty depth value ++ ',' :: prettyFields depth (next :: rest))

end

def toText (value : Json) : String := String.ofList (write value)

def toPrettyText (value : Json) : String := String.ofList (pretty 0 value)

end EventRouting.Json
