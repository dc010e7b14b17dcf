import EventRouting.Yaml.Token

set_option autoImplicit false

namespace EventRouting.Yaml

inductive Node where
  | scalar (text : String) (plain : Bool) (tag : Option String)
  | sequence (items : List Node)
  | mapping (fields : List (Node × Node))
deriving Repr

def Node.blank : Node := .scalar "" true none

structure Reader where
  rest : List Token
  /-- The nodes that anchors name, the last one first; none for a node under way. -/
  anchors : List (List Char × Option Node)
  /-- The expansions of tag handles. -/
  handles : List (List Char × List Char)

abbrev Read := StateT Reader Option

namespace Read

def peek : Read (Option Token) := do return (← get).rest.head?

def skip : Read Unit := modify fun state => { state with rest := state.rest.tail }

/-- Moves past `token` if it comes next. -/
def accept (token : Token) : Read Bool := do
  if (← peek) = some token then
    skip
    return true
  else return false

def isNext (tokens : List Token) : Read Bool := do return (← peek).any tokens.contains

def anchored (name : Option (List Char)) (node : Option Node) : Read Unit :=
  match name with
  | some name => modify fun state => { state with anchors := (name, node) :: state.anchors }
  | none => return ()

/-- The node that an alias stands for. -/
def resolve (name : List Char) : Read Node := do (← get).anchors.lookup name |>.join

/-- The full form of a tag. -/
def tagText? (handle suffix : List Char) : Read String := do
  if handle.isEmpty then return String.ofList suffix
  else return String.ofList ((← (← get).handles.lookup handle) ++ suffix)

def readAnchor : Read (Option (List Char)) := do
  match ← peek with
  | some (.anchor name) =>
    skip
    return some name
  | _ => return none

def readTag : Read (Option String) := do
  match ← peek with
  | some (.tag handle suffix) =>
    skip
    return some (← tagText? handle suffix)
  | _ => return none

/-- An anchor and a tag, in either order, each of which may be missing. -/
def readProperties : Read (Option (List Char) × Option String) := do
  match ← readAnchor with
  | some name => return (some name, ← readTag)
  | none =>
    let tag ← readTag
    return (← if tag.isSome then readAnchor else pure none, tag)

mutual

/-- A node. Blocks may begin here if `block` is set, and items at the column of the node around it if
`indentless` is. -/
def node (block indentless : Bool) : Nat → Read Node
  | 0 => failure
  | fuel + 1 => do
    match ← peek with
    | some (.alias name) =>
      skip
      resolve name
    | _ =>
      let (name, tag) ← readProperties
      anchored name none
      let node ←
        match ← peek with
        | some .item => if indentless then indentlessItems fuel [] else empty name tag
        | some (.scalar text plain) =>
          skip
          pure (.scalar (String.ofList text) plain tag)
        | some .openBracket =>
          skip
          flowItems true fuel []
        | some .openBrace =>
          skip
          flowFields true fuel []
        | some .sequenceStart =>
          if block then
            skip
            blockItems fuel []
          else empty name tag
        | some .mappingStart =>
          if block then
            skip
            blockFields fuel []
          else empty name tag
        | _ => empty name tag
      anchored name (some node)
      return node
where
  /-- Properties alone make an empty scalar. -/
  empty (name : Option (List Char)) (tag : Option String) : Read Node :=
    if name.isSome || tag.isSome then pure (.scalar "" true tag) else failure

def blockItems : Nat → List Node → Read Node
  | 0, _ => failure
  | fuel + 1, items => do
    if ← accept .item then
      let item ←
        if ← isNext [.item, .blockEnd] then pure Node.blank else node true false fuel
      blockItems fuel (item :: items)
    else if ← accept .blockEnd then return .sequence items.reverse
    else failure

def indentlessItems : Nat → List Node → Read Node
  | 0, _ => failure
  | fuel + 1, items => do
    if ← accept .item then
      let item ←
        if ← isNext [.item, .key, .value, .blockEnd] then pure Node.blank else node true false fuel
      indentlessItems fuel (item :: items)
    else return .sequence items.reverse

def blockFields : Nat → List (Node × Node) → Read Node
  | 0, _ => failure
  | fuel + 1, fields => do
    if ← accept .blockEnd then return .mapping fields.reverse
    else if !(← accept .key) then failure
    else
      let name ←
        if ← isNext [.key, .value, .blockEnd] then pure Node.blank else node true true fuel
      let value ←
        if ← accept .value then
          if ← isNext [.key, .value, .blockEnd] then pure Node.blank else node true true fuel
        else pure Node.blank
      blockFields fuel ((name, value) :: fields)

/-- The items in brackets; one of them may be a lone field. -/
def flowItems (first : Bool) : Nat → List Node → Read Node
  | 0, _ => failure
  | fuel + 1, items => do
    if ← accept .closeBracket then return .sequence items.reverse
    else if !first && !(← accept .comma) then failure
    else if !first && (← accept .closeBracket) then return .sequence items.reverse
    else if ← accept .key then
      let name ←
        if ← isNext [.value, .comma, .closeBracket] then pure Node.blank else node false false fuel
      let value ←
        if ← accept .value then
          if ← isNext [.comma, .closeBracket] then pure Node.blank else node false false fuel
        else pure Node.blank
      flowItems false fuel (.mapping [(name, value)] :: items)
    else
      let item ← node false false fuel
      flowItems false fuel (item :: items)

def flowFields (first : Bool) : Nat → List (Node × Node) → Read Node
  | 0, _ => failure
  | fuel + 1, fields => do
    if ← accept .closeBrace then return .mapping fields.reverse
    else if !first && !(← accept .comma) then failure
    else if !first && (← accept .closeBrace) then return .mapping fields.reverse
    else
      let named ← accept .key
      let name ←
        if named && (← isNext [.value, .comma, .closeBrace]) then pure Node.blank
        else node false false fuel
      let value ←
        if !named then pure Node.blank
        else if ← accept .value then
          if ← isNext [.comma, .closeBrace] then pure Node.blank else node false false fuel
        else pure Node.blank
      flowFields false fuel ((name, value) :: fields)

end

def standardHandles : List (List Char × List Char) :=
  [(['!'], ['!']), (['!', '!'], "tag:yaml.org,2002:".toList)]

/-- The directives in front of a document: at most one version, each handle at most once. -/
def directives : Nat → Bool → List (List Char) → Read Bool
  | 0, _, _ => failure
  | fuel + 1, versioned, handles => do
    match ← peek with
    | some (.version major minor) =>
      skip
      if versioned || major ≠ 1 || (minor ≠ 1 && minor ≠ 2) then failure
      directives fuel true handles
    | some (.tagPrefix handle expansion) =>
      skip
      if handles.contains handle then failure
      modify fun state => { state with handles := (handle, expansion) :: state.handles }
      directives fuel versioned (handle :: handles)
    | _ => return versioned || !handles.isEmpty

/-- The single document of a text; none if there is no document at all. -/
def document (fuel : Nat) : Read (Option Node) := do
  if (← peek).isNone then return none
  else
    let directed ← directives fuel false []
    let root ←
      if ← accept .documentStart then
        if (← peek).isNone || (← isNext [.documentStart, .documentEnd]) then pure Node.blank
        else node true false fuel
      else if directed then failure
      else node true false fuel
    skipEnds fuel
    if (← peek).isSome then failure
    return some root
where
  skipEnds : Nat → Read Unit
    | 0 => return ()
    | fuel + 1 => do if ← accept .documentEnd then skipEnds fuel

end Read

/-- The tree of a text, with nothing for a text without a document. -/
def tree? (text : List Char) : Option (Option Node) := do
  let tokens ← tokens? text
  let (root, _) ← (Read.document (2 * tokens.length + 2)).run ⟨tokens, [], Read.standardHandles⟩
  some root

end EventRouting.Yaml
