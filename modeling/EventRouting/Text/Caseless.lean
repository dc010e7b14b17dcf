import EventRouting.Unicode.LetterCase

set_option autoImplicit false

namespace EventRouting.Text

open EventRouting.Unicode

def lowered (text : List Char) : List Char := text.flatMap lowercase

def sameIgnoringCase (left right : String) : Bool := lowered left.toList == lowered right.toList

/-- Two single characters compare by their whole lower case. -/
def sameLetter (left right : Char) : Bool := lowercase left == lowercase right

end EventRouting.Text
