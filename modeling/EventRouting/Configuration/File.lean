import EventRouting.Configuration.Listing
import EventRouting.Configuration.Sections
import EventRouting.Json.Reader
import EventRouting.Yaml.Value

set_option autoImplicit false

namespace EventRouting.Configuration

inductive Format where
  | sections
  | yaml
  | json
deriving DecidableEq, Repr

def ofYaml (text : String) : Load :=
  ofDocument .yaml (Yaml.document? text.toList)

def ofJson (text : String) : Load :=
  ofDocument .json ((Json.read? text.toList).map Document.ofJson)

/-- A document has to be UTF-8 throughout before it is read. -/
def ofBytes (format : Format) (bytes : ByteArray) : Load :=
  let decoded (read : String → Load) : Load :=
    match String.fromUTF8? bytes with
    | some text => read text
    | none => ⟨.error .notUtf8, []⟩
  match format with
  | .sections => ofSections bytes
  | .yaml => decoded ofYaml
  | .json => decoded ofJson

/-- What follows the last dot of a name, unless the name begins with that dot. -/
def extension? (name : List Char) : Option (List Char) :=
  let reversed := name.reverse
  let extension := reversed.takeWhile (· ≠ '.')
  match reversed.drop extension.length with
  | [] | ['.'] => none
  | _ => some extension.reverse

/-- The last part of a path. -/
def fileName (path : List Char) : List Char :=
  (path.reverse.takeWhile (· ≠ '/')).reverse

def Format.ofPath (path : String) : Format :=
  match (extension? (fileName path.toList)).map (String.ofList ∘ List.map Char.toLower) with
  | some "yaml" | some "yml" => .yaml
  | some "json" => .json
  | _ => .sections

/-- Loads a file, of which `content` is what could be read. -/
def ofFile (path : String) (content : Except Error ByteArray) : Load :=
  match content with
  | .error error => ⟨.error error, []⟩
  | .ok bytes =>
    let load := ofBytes (Format.ofPath path) bytes
    match load.outcome with
    | .error _ => load
    | .ok plans =>
      { load with log := load.log ++
          [⟨.info, "Loaded " ++ toString plans.length ++ " sessions from " ++ Text.quoted path⟩] }

end EventRouting.Configuration
