import EventRouting.CommandLine

set_option autoImplicit false

open EventRouting

/-- The file's contents, or why it could not be read. -/
def fileContents (path : String) : IO (Except Error ByteArray) := do
  try
    return .ok (← IO.FS.readBinFile path)
  catch cause =>
    match cause with
    | .noFileOrDirectory _ _ _ | .noSuchThing _ _ _ => return .error .noSuchFile
    | _ => return .error .isDirectory

partial def readToEnd (stream : IO.FS.Stream) (before : ByteArray) : IO ByteArray := do
  let bytes ← stream.read 65536
  if bytes.isEmpty then return before else readToEnd stream (before ++ bytes)

def main (arguments : List String) : IO UInt32 := do
  let request := CommandLine.readRequest arguments
  let files ← request.files.mapM fun path => return (path, ← fileContents path)
  let input ←
    if request.readsInput then readToEnd (← IO.getStdin) ByteArray.empty else pure ByteArray.empty
  let outcome := request.answer (fun path => (files.lookup path).getD (.error .noSuchFile)) input
  for entry in outcome.log do
    if entry.level ≠ .debug then
      IO.eprintln ("[" ++ entry.level.name ++ "] " ++ entry.message)
  IO.print outcome.output
  match outcome.error with
  | some error => IO.eprintln ("Error: " ++ error.message)
  | none => pure ()
  return outcome.status.toUInt32
