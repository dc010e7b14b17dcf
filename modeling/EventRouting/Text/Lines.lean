set_option autoImplicit false

namespace EventRouting.Text

/-- `line` without one carriage return at its end. -/
def dropReturn {α : Type} [BEq α] (carriageReturn : α) (line : List α) : List α :=
  if line.getLast? == some carriageReturn then line.dropLast else line

/-- Splits at every `lineFeed`; `before` is the current line so far, last symbol first. -/
def splitLines {α : Type} [BEq α] (lineFeed carriageReturn : α) :
    List α → List α → List (List α)
  | before, [] => if before.isEmpty then [] else [before.reverse]
  | before, symbol :: rest =>
    if symbol == lineFeed then
      dropReturn carriageReturn before.reverse :: splitLines lineFeed carriageReturn [] rest
    else splitLines lineFeed carriageReturn (symbol :: before) rest

def lines (text : String) : List String :=
  (splitLines '\n' '\r' [] text.toList).map String.ofList

/-- The lines of raw bytes before the first one that is not UTF-8, and whether all of them are. -/
def decodeLines (bytes : ByteArray) : List String × Bool :=
  go ((splitLines 10 13 [] bytes.toList).map fun line => String.fromUTF8? ⟨line.toArray⟩)
where
  go : List (Option String) → List String × Bool
    | [] => ([], true)
    | none :: _ => ([], false)
    | some line :: rest => (line :: (go rest).1, (go rest).2)

end EventRouting.Text
