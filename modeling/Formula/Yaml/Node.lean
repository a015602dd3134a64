import Formula.Yaml.Schema
import Formula.Yaml.Token

/-! Nodes of a YAML text: scalars, sequences and mappings, each with a tag. A node with an anchor
can be referred to after it, and from within, where it is known only by its kind. -/
namespace Formula.Yaml

/-- A node. The last form stands for a node inside itself. -/
inductive Node where
  | scalar (tag content : String)
  | sequence (tag : String) (items : List Node)
  | mapping (tag : String) (entries : List (Node × Node))
  | loop (isMapping : Bool)
  deriving Inhabited

namespace Node

def nothing : Node :=
  scalar nullTag ""

/-- The handles of tags that need no directive. -/
def standardHandles : List (String × String) :=
  [("!", "!"), ("!!", standardPrefix)]

/-- The state of reading nodes: the tokens left, the nodes with anchors, of which an unfinished one
is known by its kind, and the handles of tags. -/
structure Reading where
  tokens : List Token
  anchors : List (String × Node)
  handles : List (String × String)

abbrev Reader (α : Type) := StateT Reading (Except Unread) α

def refuse : Reader α :=
  throw .malformed

def peek : Reader (Option Token) := do
  return (← get).tokens.head?

def skip : Reader Unit :=
  modify fun r => { r with tokens := r.tokens.tail }

/-- Takes the next token if it is the given one. -/
def accept (token : Token) : Reader Bool := do
  if (← peek) = some token then
    skip
    return true
  else return false

/-- Takes the next token, which has to be the given one. -/
def expect (token : Token) : Reader Unit := do
  if !(← accept token) then refuse

def isAt (tokens : List Token) : Reader Bool := do
  return (← peek).any tokens.contains

/-! ### Properties -/

structure Properties where
  anchor : Option String
  tag : Option String

def expandTag (handle : Option String) (suffix : String) : Reader String := do
  match handle with
  | none => return suffix
  | some name =>
    match (← get).handles.find? (·.1 == name) with
    | some (_, expansion) => return expansion ++ suffix
    | none => refuse

def takeAnchor : Reader (Option String) := do
  match ← peek with
  | some (.anchor name) =>
    skip
    return some name
  | _ => return none

def takeTag : Reader (Option String) := do
  match ← peek with
  | some (.tag handle suffix) =>
    skip
    return some (← expandTag handle suffix)
  | _ => return none

/-- Takes an anchor and a tag, in either order. -/
def takeProperties : Reader Properties := do
  let first ← takeAnchor
  let tag ← takeTag
  let last ← if first.isNone && tag.isSome then takeAnchor else pure none
  return ⟨first <|> last, tag⟩

def collectionTag (given : Option String) (standard : String) : String :=
  match given with
  | none => standard
  | some tag => if tag = "!" then standard else tag

/-- The tag of a scalar. It is told by the content of a plain one without tag, and of any one with
the tag that leaves the choice. -/
def scalarTag (given : Option String) (content : String) (plain : Bool) : String :=
  match given with
  | none => if plain then plainTag content else textTag
  | some tag => if tag = "!" then plainTag content else tag

/-- Makes a node known by its anchor; an anchor is used once. -/
def announce (anchor : Option String) (node : Node) : Reader Unit := do
  match anchor with
  | none => return
  | some name =>
    if (← get).anchors.any (·.1 == name) then refuse
    else modify fun r => { r with anchors := (name, node) :: r.anchors }

/-- Replaces the node that is known by an anchor by the finished one. -/
def complete (anchor : Option String) (node : Node) : Reader Node := do
  match anchor with
  | none => return node
  | some name =>
    let replaced (entry : String × Node) := if entry.1 == name then (name, node) else entry
    modify fun r => { r with anchors := r.anchors.map replaced }
    return node

def resolve (name : String) : Reader Node := do
  match (← get).anchors.find? (·.1 == name) with
  | some (_, node) => return node
  | none => refuse

def takeScalar (properties : Properties) (content : String) (plain : Bool) : Reader Node := do
  let node := scalar (scalarTag properties.tag content plain) content
  announce properties.anchor node
  return node

/-- The node of properties without content; there is one at least. -/
def takeEmpty (properties : Properties) : Reader Node := do
  if properties.anchor.isNone && properties.tag.isNone then refuse
  else takeScalar properties "" true

/-- A sequence with its properties, of which `items` reads the items. -/
def takeSequence (properties : Properties) (items : Reader (List Node)) : Reader Node := do
  announce properties.anchor (loop false)
  let items ← items
  complete properties.anchor (sequence (collectionTag properties.tag sequenceTag) items)

/-- A mapping with its properties, of which `entries` reads the entries. -/
def takeMapping (properties : Properties) (entries : Reader (List (Node × Node))) :
    Reader Node := do
  announce properties.anchor (loop true)
  let entries ← entries
  complete properties.anchor (mapping (collectionTag properties.tag mappingTag) entries)

/-! ### Structure -/

/-- Where a node stands: inside brackets, in a block, or as a part of a mapping in a block, where a
sequence need not be indented. -/
inductive Position where
  | inFlow
  | inBlock
  | inMapping
  deriving DecidableEq

def blockPartEnds : List Token :=
  [.key, .value, .blockEnd]

/-- A node by `node`, or nothing where one of the given tokens is next. -/
def orNothing (ends : List Token) (node : Reader Node) : Reader Node := do
  if ← isAt ends then return nothing else node

/-- The value of a key, or nothing if there is none. -/
def valueOrNothing (ends : List Token) (node : Reader Node) : Reader Node := do
  if ← accept .value then orNothing ends node else return nothing

/-- Between two parts of a collection in brackets stands a comma, which may also precede the closing
bracket. Tells whether the collection ends here. -/
def atFlowEnd (first : Bool) (close : Token) : Reader Bool := do
  if ← accept close then return true
  else if first then return false
  else
    expect .comma
    accept close

mutual

def take (position : Position) : Nat → Reader Node
  | 0 => refuse
  | fuel + 1 => do
    match ← peek with
    | some (.reference name) =>
      skip
      resolve name
    | _ =>
      let properties ← takeProperties
      match ← peek with
      | some (.scalar content plain) =>
        skip
        takeScalar properties content plain
      | some .openBracket =>
        skip
        takeSequence properties (takeFlowItems true fuel)
      | some .openBrace =>
        skip
        takeMapping properties (takeFlowEntries true fuel)
      | some .entry =>
        if position = .inMapping then takeSequence properties (takeAdjoiningItems fuel)
        else takeEmpty properties
      | some .sequenceStart =>
        if position = .inFlow then takeEmpty properties
        else
          skip
          takeSequence properties (takeItems fuel)
      | some .mappingStart =>
        if position = .inFlow then takeEmpty properties
        else
          skip
          takeMapping properties (takeEntries fuel)
      | _ => takeEmpty properties

def takeItems : Nat → Reader (List Node)
  | 0 => refuse
  | fuel + 1 => do
    if ← accept .entry then
      let item ← orNothing [.entry, .blockEnd] (take .inBlock fuel)
      let items ← takeItems fuel
      return item :: items
    else
      expect .blockEnd
      return []

/-- The items of a sequence that is not indented in the mapping that it is a part of. -/
def takeAdjoiningItems : Nat → Reader (List Node)
  | 0 => refuse
  | fuel + 1 => do
    if ← accept .entry then
      let item ← orNothing (.entry :: blockPartEnds) (take .inBlock fuel)
      let items ← takeAdjoiningItems fuel
      return item :: items
    else return []

def takeEntries : Nat → Reader (List (Node × Node))
  | 0 => refuse
  | fuel + 1 => do
    if ← accept .key then
      let key ← orNothing blockPartEnds (take .inMapping fuel)
      let value ← valueOrNothing blockPartEnds (take .inMapping fuel)
      let entries ← takeEntries fuel
      return (key, value) :: entries
    else
      expect .blockEnd
      return []

/-- The items of a sequence in brackets. An item with a value is a mapping of one entry. -/
def takeFlowItems (first : Bool) : Nat → Reader (List Node)
  | 0 => refuse
  | fuel + 1 => do
    if ← atFlowEnd first .closeBracket then return []
    else
      let item ←
        if ← accept .key then
          let key ← orNothing [.value, .comma, .closeBracket] (take .inFlow fuel)
          let value ← valueOrNothing [.comma, .closeBracket] (take .inFlow fuel)
          pure (mapping mappingTag [(key, value)])
        else take .inFlow fuel
      let items ← takeFlowItems false fuel
      return item :: items

def takeFlowEntries (first : Bool) : Nat → Reader (List (Node × Node))
  | 0 => refuse
  | fuel + 1 => do
    if ← atFlowEnd first .closeBrace then return []
    else
      let entry ←
        if ← accept .key then
          let key ← orNothing [.value, .comma, .closeBrace] (take .inFlow fuel)
          let value ← valueOrNothing [.comma, .closeBrace] (take .inFlow fuel)
          pure (key, value)
        else
          let key ← take .inFlow fuel
          pure (key, nothing)
      let entries ← takeFlowEntries false fuel
      return entry :: entries

end

/-! ### Documents -/

/-- Takes the directives of a document; at most one tells the version, which has to begin with one,
and a handle is declared once. -/
def takeDirectives : Nat → Bool → List (String × String) → Reader Unit
  | 0, _, _ => refuse
  | fuel + 1, versioned, declared => do
    match ← peek with
    | some (.version major) =>
      skip
      if versioned || major ≠ 1 then refuse else takeDirectives fuel true declared
    | some (.handle name expansion) =>
      skip
      if declared.any (·.1 == name) then refuse
      else takeDirectives fuel versioned ((name, expansion) :: declared)
    | some .otherDirective =>
      skip
      takeDirectives fuel versioned declared
    | _ => modify fun r => { r with handles := declared ++ standardHandles }

def isAtDirective : Reader Bool := do
  match ← peek with
  | some (.version _) | some (.handle ..) | some .otherDirective => return true
  | _ => return false

/-- The content of a document after its mark, which may be missing. -/
def takeMarked (fuel : Nat) : Reader Node := do
  expect .documentStart
  if (← peek).isNone then return nothing
  else if ← isAtDirective then return nothing
  else orNothing [.documentStart, .documentEnd] (take .inBlock fuel)

def skipDocumentEnds : Nat → Reader Unit
  | 0 => return
  | fuel + 1 => do
    if ← accept .documentEnd then skipDocumentEnds fuel

/-- The document that the tokens make, if there is one; there may not be two. -/
def takeDocument (fuel : Nat) : Reader (Option Node) := do
  if (← peek).isNone then return none
  else
    let marked := (← isAtDirective) || (← isAt [.documentStart])
    let root ←
      if marked then
        takeDirectives fuel false []
        takeMarked fuel
      else take .inBlock fuel
    skipDocumentEnds fuel
    if (← peek).isSome then refuse else return some root

/-- The document of a text, if there is one. Every step takes a token or is followed by one that
does, so twice their number is enough fuel. -/
def ofText (text : List Char) : Except Unread (Option Node) := do
  let tokens ← tokens text
  let (node, _) ← (takeDocument (2 * tokens.length + 2)).run ⟨tokens, [], standardHandles⟩
  .ok node

end Node

end Formula.Yaml
