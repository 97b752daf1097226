import SolAudit.Document.Scalar
import SolAudit.Yaml.Scanner

/-!
# Reading YAML

Builds the one document of a text from its tokens. The keys of records are scalars. An alias stands for the node that
bears its anchor, which has to be complete by then.
-/

namespace SolAudit.Yaml

/-- The tokens left, what the handles of tags stand for, and the anchored nodes, the latest first. -/
structure NodeState where
  tokens : List Token
  handles : List (String × String)
  anchors : List (String × Option Data) := []

abbrev Nodes := StateT NodeState Option

def emptyScalar : Data := .scalar .plain none ""

/-- The marks before a node that name it and give it a type. -/
structure Properties where
  anchor : Option String := none
  tag : Option String := none

namespace Nodes

def peek? : Nodes (Option Token) := return (← get).tokens.head?

def skip : Nodes Unit := modify fun s ↦ { s with tokens := s.tokens.drop 1 }

/-- Reads a token if it comes next. -/
def accept (token : Token) : Nodes Bool := do
  if (← peek?) == some token then
    skip
    return true
  return false

def expect (token : Token) : Nodes Unit := do if !(← accept token) then failure

def lookup? {α : Type} (name : String) : List (String × α) → Option α
  | [] => none
  | (key, value) :: rest => if key == name then some value else lookup? name rest

def resolveTag (handle suffix : String) : Nodes String := do
  if handle.isEmpty then return suffix
  return (← lookup? handle (← get).handles) ++ suffix

/-- An anchor and a tag, in either order and each at most once. -/
def properties : Nodes Properties := do
  match (← get).tokens with
  | .anchor name :: .tag handle suffix :: _ =>
    skip
    skip
    return ⟨some name, some (← resolveTag handle suffix)⟩
  | .tag handle suffix :: .anchor name :: _ =>
    skip
    skip
    return ⟨some name, some (← resolveTag handle suffix)⟩
  | .anchor name :: _ =>
    skip
    return ⟨some name, none⟩
  | .tag handle suffix :: _ =>
    skip
    return ⟨none, some (← resolveTag handle suffix)⟩
  | _ => return {}

def bind (properties : Properties) (node : Option Data) : Nodes Unit :=
  match properties.anchor with
  | some name => modify fun s ↦ { s with anchors := (name, node) :: s.anchors }
  | none => pure ()

/-- Reads a collection under its anchor, which is taken while the collection is not complete. -/
def collection (properties : Properties) (read : Nodes Data) : Nodes Data := do
  skip
  bind properties none
  let node ← read
  bind properties (some node)
  return node

def keyText (key : Data) : Nodes String := key.text?

/-- The token after a mark that stands for no value there. -/
def isOneOf (token : Option Token) (marks : List Token) : Bool := token.any marks.contains

mutual

/-- Reads a node. `block` allows block collections, `flush` a list whose entries are no further in than the record
around it. -/
def node (block flush : Bool) : Nat → Nodes Data
  | 0 => failure
  | fuel + 1 => do
    if let some (.alias name) ← peek? then
      skip
      return ← (← lookup? name (← get).anchors)
    let properties ← properties
    let scalar (style : ScalarStyle) (tag : Option String) (text : String) : Nodes Data := do
      let data := Data.scalar style tag text
      bind properties (some data)
      return data
    match ← peek? with
    | some (.scalar style text) =>
      skip
      scalar style (properties.tag.filter (· != "!")) text
    | some .flowListStart => collection properties (flowList true fuel [])
    | some .flowRecordStart => collection properties (flowRecord true fuel [])
    | other =>
      if flush && other == some .blockEntry then
        bind properties none
        let data ← flushList fuel []
        bind properties (some data)
        return data
      else if block && other == some .blockListStart then collection properties (blockList fuel [])
      else if block && other == some .blockRecordStart then collection properties (blockRecord fuel [])
      else if properties.anchor.isSome || properties.tag.isSome then scalar .plain properties.tag ""
      else failure

/-- Reads a node unless a mark shows that there is none. -/
def nodeUnless (marks : List Token) (block flush : Bool) : Nat → Nodes Data
  | 0 => failure
  | fuel + 1 => do
    if isOneOf (← peek?) marks then return emptyScalar
    node block flush fuel

def blockList : Nat → List Data → Nodes Data
  | 0, _ => failure
  | fuel + 1, items => do
    if ← accept .blockEntry then
      let item ← nodeUnless [.blockEntry, .blockEnd] true false fuel
      blockList fuel (item :: items)
    else if ← accept .blockEnd then return .list false items.reverse
    else failure

def flushList : Nat → List Data → Nodes Data
  | 0, _ => failure
  | fuel + 1, items => do
    if ← accept .blockEntry then
      let item ← nodeUnless [.blockEntry, .key, .value, .blockEnd] true false fuel
      flushList fuel (item :: items)
    else return .list false items.reverse

def blockRecord : Nat → List (String × Data) → Nodes Data
  | 0, _ => failure
  | fuel + 1, members => do
    if ← accept .blockEnd then return .record members.reverse
    if !(← accept .key) then failure
    let key ← nodeUnless [.key, .value, .blockEnd] true true fuel
    let value ← if ← accept .value then nodeUnless [.key, .value, .blockEnd] true true fuel else pure emptyScalar
    blockRecord fuel ((← keyText key, value) :: members)

def flowList (first : Bool) : Nat → List Data → Nodes Data
  | 0, _ => failure
  | fuel + 1, items => do
    if ← accept .flowListEnd then return .list false items.reverse
    if !first then expect .flowEntry
    if ← accept .flowListEnd then return .list false items.reverse
    if ← accept .key then
      let pair ← flowPair fuel
      flowList false fuel (pair :: items)
    else
      let item ← node false false fuel
      flowList false fuel (item :: items)

/-- A record of one member that is an item of a list. Its key has to be there. -/
def flowPair : Nat → Nodes Data
  | 0 => failure
  | fuel + 1 => do
    let key ← node false false fuel
    let value ← if ← accept .value then nodeUnless [.flowEntry, .flowListEnd] false false fuel else pure emptyScalar
    return .record [(← keyText key, value)]

def flowRecord (first : Bool) : Nat → List (String × Data) → Nodes Data
  | 0, _ => failure
  | fuel + 1, members => do
    if ← accept .flowRecordEnd then return .record members.reverse
    if !first then expect .flowEntry
    if ← accept .flowRecordEnd then return .record members.reverse
    let marked ← accept .key
    if marked then
      let key ← nodeUnless [.value, .flowEntry, .flowRecordEnd] false false fuel
      let value ← if ← accept .value then nodeUnless [.flowEntry, .flowRecordEnd] false false fuel else pure emptyScalar
      flowRecord false fuel ((← keyText key, value) :: members)
    else
      let key ← node false false fuel
      flowRecord false fuel ((← keyText key, emptyScalar) :: members)

end

def defaultHandles : List (String × String) := [("!", "!"), ("!!", "tag:yaml.org,2002:")]

/-- The directives before a document: the version, which has to be 1.1 or 1.2, and handles of tags, each once. -/
def directives (version : Bool) (handles : List (String × String)) : List Token →
    Option (Bool × List (String × String) × List Token)
  | .version major minor :: rest =>
    if version || major != 1 || (minor != 1 && minor != 2) then none else directives true handles rest
  | .tagHandle handle expansion :: rest =>
    if (lookup? handle handles).isSome then none
    else directives version ((handle, expansion) :: handles) rest
  | rest => some (version, handles, rest)

/-- Reads the root of the only document. -/
def document : Nodes Data := do
  let s ← get
  let fuel := 4 * s.tokens.length + 8
  let (version, handles, rest) ← directives false [] s.tokens
  let hasDirectives := version || !handles.isEmpty
  set { s with tokens := rest, handles := handles ++ defaultHandles }
  match rest with
  | [] => if hasDirectives then failure else return .record []
  | .documentStart :: _ =>
    skip
    match ← peek? with
    | none => return emptyScalar
    | some next =>
      match next with
      | .version .. | .tagHandle .. | .documentStart | .documentEnd => return emptyScalar
      | _ => node true false fuel
  | _ => if hasDirectives then failure else node true false fuel

end Nodes

/-- How many collections may be nested. -/
def depthLimit : Nat := 128

/-- Reads the document of a text. -/
def parse? (text : String) : Option Data := do
  let tokens ← scan? text
  let (data, s) ← Nodes.document.run { tokens, handles := [] }
  let rest := s.tokens.dropWhile (· == .documentEnd)
  if rest.isEmpty && data.height ≤ depthLimit then some data else none

end SolAudit.Yaml
