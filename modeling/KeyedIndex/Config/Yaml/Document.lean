import KeyedIndex.Config.Yaml.Outline
import KeyedIndex.Config.Yaml.Scalar
import KeyedIndex.Config.Yaml.Token

/-!
Nodes and documents of YAML texts.

In the source, a format that its reader of configurations knows besides.
-/
namespace KeyedIndex.Config.Yaml

/-! ### Nodes

Nodes of YAML documents: scalars, lists and tables, made from the tokens of an outline. A
node with an anchor can be repeated by an alias behind it. The names of a table are texts
or integers, each of which it has only once.
-/

/-! ### Tables -/

/-- The name of an entry; an integer is another name than its digits as a text. -/
inductive Name where
  | text (content : String)
  | integer (number : Int)
deriving DecidableEq

/-- The text by which an entry is found. -/
def Name.content : Name → String
  | .text content => content
  | .integer number => Number.decimal number

def Name.ofValue? : Value → Option Name
  | .text content => some (.text content)
  | .integer number => some (.integer number)
  | _ => none

/-- A node: its value, or none if it does not go with its tag. -/
abbrev Node := Option Value

def Node.value (node : Node) : Value := node.getD .null

/-- A table that is being read: its names, its entries, and a name whose value is missing. -/
structure TableDraft where
  names : List Name
  entries : Table
  name : Option Value

/-- Put a node into a table, as a name or as the value of one. A misfit is no name. -/
def TableDraft.push? (draft : TableDraft) (node : Node) : Option TableDraft :=
  match draft.name with
  | some value => do
    let name ← Name.ofValue? value
    if draft.names.contains name then none
    else return ⟨name :: draft.names, setEntry name.content (Node.value node) draft.entries, none⟩
  | none => some { draft with name := node }

/-! ### Anchors -/

/-- The nodes that have labels. A label belongs to the node that had it last. -/
structure Anchors where
  labels : List (String × Nat)
  /-- The nodes that are complete, by their numbers. -/
  nodes : List (Nat × Node)

/-- Give a label to the next node. -/
def Anchors.add (anchors : Anchors) (label : String) : Anchors :=
  { anchors with labels := (label, anchors.labels.length) :: anchors.labels }

/-- The node with a label; one that is not complete is a misfit. -/
def Anchors.find? (anchors : Anchors) (label : String) : Option Node :=
  (anchors.labels.lookup label).map (fun number => (anchors.nodes.lookup number).getD none)

/-! ### Readers -/

structure NodeState where
  rest : List Token
  handles : Handles
  anchors : Anchors

/-- A reader of tokens, which may fail. -/
abbrev NodeReader := StateT NodeState Option

namespace NodeReader

/-- The token at the front. -/
def peek : NodeReader (Option Token) := do return (← get).rest.head?

def skip : NodeReader Unit := modify (fun state => { state with rest := state.rest.drop 1 })

/-- Whether the token at the front is one of some. -/
def sees (tokens : List Token) : NodeReader Bool := do
  return (← peek).any (· ∈ tokens)

/-- Take a token that must be at the front. -/
def expect (token : Token) : NodeReader Unit := do
  if ← sees [token] then skip else failure

/-- Take a token if it is at the front. -/
def accept (token : Token) : NodeReader Bool := do
  if ← sees [token] then
    skip
    return true
  else return false

/-- What stands before a node: a number if it has an anchor, and a tag. -/
structure Properties where
  number : Option Nat
  tag : Option Tag

/-- Take a tag, if there is one. -/
def tag : NodeReader (Option Tag) := do
  match ← peek with
  | some (.tag handle rest) =>
    skip
    match Tag.ofHandle? (← get).handles handle rest with
    | some tag => return some tag
    | none => failure
  | _ => return none

/-- Take an anchor, if there is one. -/
def anchor : NodeReader (Option Nat) := do
  match ← peek with
  | some (.anchor label) =>
    skip
    let number := (← get).anchors.labels.length
    modify (fun state => { state with anchors := state.anchors.add label })
    return some number
  | _ => return none

/-- Take an anchor and a tag in any order. -/
def properties : NodeReader Properties := do
  match ← anchor with
  | some number => return ⟨some number, ← tag⟩
  | none =>
    match ← tag with
    | some tag => return ⟨← anchor, some tag⟩
    | none => return ⟨none, none⟩

/-- Keep a complete node if it has an anchor. -/
def keep (properties : Properties) (node : Node) : NodeReader Node := do
  match properties.number with
  | some number =>
    modify (fun state => { state with
      anchors := { state.anchors with nodes := (number, node) :: state.anchors.nodes } })
  | none => pure ()
  return node

def scalar (properties : Properties) (content : String) (plain : Bool) : NodeReader Node :=
  match readScalar properties.tag content plain with
  | .value content => return some content
  | .misfit => return none
  | .refused => failure

/-- The node with a label. -/
def aliased (label : String) : NodeReader Node := do
  match (← get).anchors.find? label with
  | some node => return node
  | none => failure

def push (draft : TableDraft) (node : Node) : NodeReader TableDraft :=
  match draft.push? node with
  | some draft => return draft
  | none => failure

def emptyNode : Node := some .null

/-- Take a node. It is empty if one of some tokens is at the front. -/
def orEmpty (ends : List Token) (node : NodeReader Node) : NodeReader Node := do
  if ← sees ends then return emptyNode else node

/-- Take a value behind its sign. It is empty if the sign is missing, or if one of some tokens is
    behind it. -/
def valueOrEmpty (ends : List Token) (node : NodeReader Node) : NodeReader Node := do
  if ← accept .value then orEmpty ends node else return emptyNode

mutual
/-- Take a node, with at most so many steps. Blocks may be allowed, and also items that are not
    indented. -/
def node (blocks items : Bool) : Nat → NodeReader Node
  | 0 => failure
  | steps + 1 => do
    match ← peek with
    | some (.alias label) =>
      skip
      aliased label
    | _ =>
      let properties ← properties
      let content ← content blocks items properties steps
      keep properties content

/-- Take a node behind its properties. With properties, it may be empty. -/
def content (blocks items : Bool) (properties : Properties) : Nat → NodeReader Node
  | 0 => failure
  | steps + 1 => do
    match ← peek, blocks, items with
    | some (.scalar content plain), _, _ =>
      skip
      scalar properties content plain
    | some .flowListStart, _, _ =>
      skip
      flowList true steps
    | some .flowTableStart, _, _ =>
      skip
      flowTable true ⟨[], [], none⟩ steps
    | some .blockItem, _, true => looseList steps
    | some .blockListStart, true, _ =>
      skip
      blockList steps
    | some .blockTableStart, true, _ =>
      skip
      blockTable ⟨[], [], none⟩ steps
    | _, _, _ =>
      if properties.number.isSome || properties.tag.isSome then scalar properties "" true
      else failure

/-- Take the items of a list that is not indented. -/
def looseList : Nat → NodeReader Node
  | 0 => failure
  | steps + 1 => do
    if ← accept .blockItem then
      let _ ← orEmpty [.blockItem, .name, .value, .blockEnd] (node true false steps)
      looseList steps
    else return some .list

/-- Take the items of a list that is indented, and its end. -/
def blockList : Nat → NodeReader Node
  | 0 => failure
  | steps + 1 => do
    if ← accept .blockEnd then return some .list
    else
      expect .blockItem
      let _ ← orEmpty [.blockItem, .blockEnd] (node true false steps)
      blockList steps

/-- Take the entries of a table that is indented, and its end. -/
def blockTable (draft : TableDraft) : Nat → NodeReader Node
  | 0 => failure
  | steps + 1 => do
    if ← accept .blockEnd then return some (.table draft.entries)
    else
      let ends := [Token.name, .value, .blockEnd]
      let name ← if ← accept .name then orEmpty ends (node true true steps)
        else
          if ← sees [.value] then pure emptyNode else failure
      let draft ← push draft name
      let value ← valueOrEmpty ends (node true true steps)
      blockTable (← push draft value) steps

/-- Take the items of a list between brackets, and its end. An entry stands for a table. -/
def flowList (first : Bool) : Nat → NodeReader Node
  | 0 => failure
  | steps + 1 => do
    if ← accept .flowListEnd then return some .list
    if !first then expect .comma
    if ← accept .flowListEnd then return some .list
    if ← accept .name then
      let draft ← push ⟨[], [], none⟩ (← node false false steps)
      let _ ← push draft (← valueOrEmpty [.comma, .flowListEnd] (node false false steps))
    else
      let _ ← node false false steps
    flowList false steps

/-- Take the entries of a table between braces, and its end. A node by itself is a name. -/
def flowTable (first : Bool) (draft : TableDraft) : Nat → NodeReader Node
  | 0 => failure
  | steps + 1 => do
    if ← accept .flowTableEnd then return some (.table draft.entries)
    if !first then expect .comma
    if ← accept .flowTableEnd then return some (.table draft.entries)
    let ends := [Token.comma, .flowTableEnd]
    if ← accept .name then
      let draft ← push draft (← orEmpty (.value :: ends) (node false false steps))
      let draft ← push draft (← valueOrEmpty ends (node false false steps))
      flowTable false draft steps
    else if ← sees [.value] then
      let draft ← push draft emptyNode
      let draft ← push draft (← valueOrEmpty ends (node false false steps))
      flowTable false draft steps
    else
      let draft ← push draft (← node false false steps)
      flowTable false (← push draft emptyNode) steps
end

end NodeReader

/-! ### Documents

Configurations as YAML. The text is a stream of documents, of which there is at most one;
its root is a table.
-/

/-- Whether a token is the end of a document. Ends may be repeated. -/
def Token.isEnd (token : Token) : Bool := token = .documentEnd

/-- Take directives. Only one of them may be a version, and of handles only those of the last
    directive are known. -/
def directives? (versioned : Bool) (handles : Handles) :
    List Token → Option (Handles × List Token)
  | .version :: rest => if versioned then none else directives? true [] rest
  | .tagHandle handle meaning :: rest => directives? versioned [(handle, meaning)] rest
  | rest => some (handles, rest)

/-- Whether a document ends before any node. -/
def isEmptyContent : List Token → Bool
  | [] => true
  | token :: _ => match token with
    | .version | .tagHandle _ _ | .documentStart | .documentEnd => true
    | _ => false

/-- Take a node. No token needs more than three steps. -/
def root? (handles : Handles) (tokens : List Token) : Option (Value × List Token) := do
  let reader := NodeReader.node true false (3 * tokens.length + 3)
  let (node, state) ← reader.run ⟨tokens, handles, ⟨[], []⟩⟩
  return (Node.value node, state.rest)

/-- Take a document. Behind directives, its start must be marked. -/
def document? (tokens : List Token) : Option (Value × List Token) := do
  match ← directives? false [] tokens with
  | (handles, .documentStart :: rest) =>
    if isEmptyContent rest then return (.null, rest) else root? handles rest
  | (handles, rest) => if rest.length < tokens.length then none else root? handles rest

/-- The table of a text. A text without a document is an empty table. -/
def read? (text : String) : Option Table := do
  match (← tokens? text).dropWhile Token.isEnd with
  | [] => return []
  | tokens =>
    match ← document? tokens with
    | (.table entries, rest) => if rest.all Token.isEnd then return entries else none
    | _ => none

end KeyedIndex.Config.Yaml
