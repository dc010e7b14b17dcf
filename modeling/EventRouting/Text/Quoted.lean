import EventRouting.Unicode.Property

set_option autoImplicit false

namespace EventRouting.Text

open EventRouting.Unicode

/-- Characters that leave a mark of their own on the page. -/
def isVisible (c : Char) : Bool :=
  if c.toNat < 0x7f then 0x20 ≤ c.toNat
  else
    match category c with
    | .control | .format | .privateUse | .unassigned
    | .spaceSeparator | .lineSeparator | .paragraphSeparator => false
    | _ => !Property.graphemeExtend.contains c

def hexDigits (value : Nat) : List Char := Nat.toDigits 16 value

def quotedChar (c : Char) : List Char :=
  match c with
  | '"' => ['\\', '"']
  | '\\' => ['\\', '\\']
  | '\n' => ['\\', 'n']
  | '\r' => ['\\', 'r']
  | '\t' => ['\\', 't']
  | '\x00' => ['\\', '0']
  | c => if isVisible c then [c] else ['\\', 'u', '\x7b'] ++ hexDigits c.toNat ++ ['\x7d']

def quoted (text : String) : String :=
  String.ofList ('"' :: text.toList.flatMap quotedChar ++ ['"'])

end EventRouting.Text
