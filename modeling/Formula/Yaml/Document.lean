import Formula.Value.Order
import Formula.Yaml.Node

/-! The value of a YAML document. Scalars have the values that their tags and contents tell. Of
entries with equal keys the last one counts, at the place of the first; an entry whose key is the
merge key contributes the entries of other mappings, before all others. -/
namespace Formula

namespace Value

def isSameKey (a b : Value) : Bool :=
  match compareNumbers? a b with
  | some (.ok order) => order == some .eq
  | some (.error _) => false
  | Option.none =>
    match a, b with
    | none, none => true
    | text s, text t => s == t
    | shown type texts _, shown type' texts' _ => type == type' && texts == texts'
    | _, _ => false

/-- Entries in which the last value of each key counts, at the place of its first one. -/
def insertEntry (entries : List (Value × Value)) (entry : Value × Value) :
    List (Value × Value) :=
  if entries.any (·.1.isSameKey entry.1) then
    entries.map fun old => if old.1.isSameKey entry.1 then (old.1, entry.2) else old
  else entries ++ [entry]

def isKey : Value → Bool
  | list _ | mapping _ => false
  | shown type _ _ => type != "set" && type != "list" && type != "dict"
  | _ => true

def ofElements (elements : List Value) : Value :=
  if elements.isEmpty then shown "set" (some ("set()", "set()")) false
  else
    let content := (quotedAll? elements).map fun parts =>
      "\x7b" ++ ", ".intercalate parts ++ "\x7d"
    shown "set" (content.map fun text => (text, text)) true

end Value

namespace Yaml

/-- The entries that a mapping has from others, and its own ones. -/
structure Contents where
  merged : List (Value × Value)
  own : List (Value × Value)

def Contents.all (c : Contents) : List (Value × Value) :=
  c.merged ++ c.own

namespace Node

/-- The tag of a node; that of a node inside itself is not known. -/
def tag? : Node → Option String
  | scalar tag _ | sequence tag _ | mapping tag _ => some tag
  | loop _ => none

def isMergeKey (key : Node) : Bool :=
  key.tag? == some mergeTag

def isValueKey (key : Node) : Bool :=
  key.tag? == some valueTag

mutual

/-- The content of a node that counts as a scalar: a mapping does by the entry for its own value. -/
def content? : Node → Option String
  | scalar _ content => some content
  | mapping _ entries => ownContent? entries
  | sequence .. | loop _ => none

def ownContent? : List (Node × Node) → Option String
  | [] => none
  | (key, content) :: entries => if key.isValueKey then content.content? else ownContent? entries

end

/-- The value of a mapping that counts as a scalar with the given tag. A timestamp is read from a
text, which a mapping has not. -/
def ownValue (tag : String) (entries : List (Node × Node)) : Except Unread Value :=
  match ownContent? entries with
  | none => malformed
  | some content =>
    if tag = timestampTag then
      .error (.fault (.mismatch (.argument "expected string or bytes-like object, got 'list'")))
    else scalarValue tag content

def asKey (value : Value) : Except Unread Value :=
  if value.isKey then .ok value else malformed

mutual

def value : Node → Except Unread Value
  | scalar tag content => scalarValue tag content
  | loop isMapping =>
    .ok (if isMapping then .shown "dict" (some ("\x7b...\x7d", "\x7b...\x7d")) true
      else .shown "list" (some ("[...]", "[...]")) true)
  | sequence tag items =>
    if tag = sequenceTag then do
      let values ← values items
      .ok (.list values)
    else if pairTags.contains tag then do
      let pairs ← pairs items
      .ok (.list pairs)
    else malformed
  | mapping tag entries =>
    if tag = mappingTag then do
      let contents ← contents entries
      .ok (.mapping (contents.all.foldl Value.insertEntry []))
    else if tag = setTag then do
      let contents ← contents entries
      .ok (.ofElements ((contents.all.foldl Value.insertEntry []).map (·.1)))
    else ownValue tag entries

def values : List Node → Except Unread (List Value)
  | [] => .ok []
  | item :: items => do
    let first ← value item
    let others ← values items
    .ok (first :: others)

/-- The pairs of key and value that mappings of one entry are. -/
def pairs : List Node → Except Unread (List Value)
  | [] => .ok []
  | mapping _ [(key, content)] :: items => do
    let first ← value key
    let second ← value content
    let others ← pairs items
    .ok (.tuple [first, second] :: others)
  | _ :: _ => malformed

def contents : List (Node × Node) → Except Unread Contents
  | [] => .ok ⟨[], []⟩
  | (key, content) :: entries =>
    if key.isMergeKey then do
      let here ← merged content
      let others ← contents entries
      .ok ⟨here ++ others.merged, others.own⟩
    else do
      let name ←
        if key.isValueKey then
          match key.content? with
          | some name => .ok (Value.text name)
          | none => malformed
        else value key
      let name ← asKey name
      let first ← value content
      let others ← contents entries
      .ok ⟨others.merged, (name, first) :: others.own⟩

/-- The entries that the value of a merge key contributes: those of a mapping, or of several ones
of which the first counts most. -/
def merged : Node → Except Unread (List (Value × Value))
  | mapping _ entries => do
    let contents ← contents entries
    .ok contents.all
  | loop true => .ok []
  | sequence _ items => mergedAll items
  | _ => malformed

/-- The entries of several mappings, those of the first one last. -/
def mergedAll : List Node → Except Unread (List (Value × Value))
  | [] => .ok []
  | mapping _ entries :: items => do
    let contents ← contents entries
    let others ← mergedAll items
    .ok (others ++ contents.all)
  | _ :: _ => malformed

end

end Node

/-- A text in which every line ends with a line feed; the control character for the next line ends
one as well. -/
def unifyBreaks (text : List Char) : List Char :=
  (Text.unifyLineEnds text).map fun c => if c = '\u0085' then '\n' else c

/-- The value of the document that a text holds; an empty one has the value of nothing. -/
def read (text : List Char) : Except Unread Value :=
  if text.all isAdmitted then do
    match ← Node.ofText (unifyBreaks text) with
    | some node => node.value
    | none => .ok .none
  else malformed

end Yaml

end Formula
