import Rebac.Keyed
import Rebac.Yaml.Basic
import Rebac.Yaml.Token

/-! # Nodes

The values that tokens spell out. A node may be named by an anchor and used again by an alias, and a
tag may say what a plain scalar is. A key stands once in its map. -/

namespace Rebac.Yaml

/-- A value in a document. -/
inductive Node where
  /-- A scalar whose spelling does not fit its tag, or an alias of what is still being read. -/
  | misfit
  | scalar (kind : Kind) (spelling : String)
  | list (items : List Yaml)
  | map (entries : List (String × Yaml))
deriving Repr

/-- What a key is told apart by: its kind and its text. -/
structure MapKey where
  kind : Kind
  text : String
deriving DecidableEq, Repr

namespace Node

/-- The node that is left out. -/
def empty : Node := .scalar .null "~"

/-- The value of a node. A misfit is null. -/
def value? : Node → Option Yaml
  | .misfit => some null
  | .scalar kind spelling => (Scalar.ofKind? kind spelling).map .scalar
  | .list items => some (.list items)
  | .map entries => some (.map entries)

/-- The node as a key. Neither null nor a collection can be one. A number is known by its spelling
when it is none of the whole ones. -/
def key? : Node → Option MapKey
  | .scalar (.bool b) _ => some ⟨.bool b, if b then "true" else "false"⟩
  | .scalar (.int i) _ => some ⟨.int i, toString i⟩
  | .scalar .real spelling => some ⟨.real, spelling⟩
  | .scalar .text spelling => some ⟨.text, spelling⟩
  | _ => none

end Node

/-- The entries of a map as far as they are read. -/
structure Entries where
  /-- The key whose value comes next. A misfit is no key, so that the next node is taken for one. -/
  pending : Node := .misfit
  /-- The entries, last first. -/
  done : List (MapKey × Yaml) := []

namespace Entries

/-- Takes one more node. -/
def add? (n : Node) (e : Entries) : Option Entries :=
  match e.pending with
  | .misfit => some { e with pending := n }
  | key => do
    let k ← key.key?
    if e.done.any (·.1 = k) then none else return { done := (k, ← n.value?) :: e.done }

/-- The map of the entries. -/
def node (e : Entries) : Node := .map (Keyed.ofList (e.done.reverse.map fun (k, v) => (k.text, v)))

end Entries

/-! ## Reading -/

/-- What is left to read, and what has been named. -/
structure Source where
  tokens : List Token
  /-- What the handles of the document stand for. -/
  handles : List (String × String) := []
  /-- The numbers of the anchors of the document, the last first. -/
  anchors : List (String × Nat) := []
  /-- The nodes of anchors by number. -/
  named : List (Nat × Node) := []
  nextAnchor : Nat := 0

/-- Reading from a source. -/
abbrev Read := StateT Source Option

namespace Read

/-- The next token. -/
def peek : Read Token := do return (← get).tokens.headD .streamEnd

/-- Passes the next token. -/
def pass : Read Unit := modify fun s => { s with tokens := s.tokens.drop 1 }

/-- Passes the next token if it is `t`. -/
def passed (t : Token) : Read Bool := do
  if (← peek) = t then
    pass
    return true
  else return false

/-- Gives a number to an anchor. -/
def register (name : String) : Read Nat :=
  modifyGet fun s => (s.nextAnchor,
    { s with anchors := (name, s.nextAnchor) :: s.anchors, nextAnchor := s.nextAnchor + 1 })

/-- What the core tags begin with. -/
def coreHandle : String := "tag:yaml.org,2002:"

/-- The tag with what its handle stands for. A handle with a name has to be known. -/
def resolve (t : Tag) : Read Tag := do
  match (← get).handles.lookup t.handle with
  | some expansion => return { t with handle := expansion }
  | none =>
    if t.handle = "!!" then return { t with handle := coreHandle }
    else if isClosedHandle t.handle.toList then failure
    else return t

/-- The number of the anchor and the tag in front of a node, in either order. -/
def properties : Read (Option Nat × Option Tag) := do
  match ← peek with
  | .anchor name =>
    pass
    let id ← register name
    match ← peek with
    | .tag t =>
      pass
      return (some id, some (← resolve t))
    | _ => return (some id, none)
  | .tag t =>
    pass
    let t ← resolve t
    match ← peek with
    | .anchor name =>
      pass
      return (some (← register name), some t)
    | _ => return (none, some t)
  | _ => return (none, none)

/-- The node that an alias stands for. -/
def aliased (name : String) : Read Node := do
  let s ← get
  match s.anchors.lookup name with
  | none => failure
  | some id => return (s.named.lookup id).getD .misfit

/-- Names a node. -/
def bindNode (id : Option Nat) (n : Node) : Read Unit :=
  match id with
  | some id => modify fun s => { s with named := (id, n) :: s.named }
  | none => return ()

/-- The node of a plain or other scalar under a tag. -/
def scalarNode (tag : Option Tag) (plain : Bool) (text : String) : Node :=
  let kind := match plain, tag with
    | false, _ => some .text
    | true, none => some (.ofPlain text)
    | true, some t => if t.handle = coreHandle then Kind.ofCore? t.rest text else some .text
  match kind with
  | some kind => .scalar kind text
  | none => .misfit

mutual

/-- A node. In a block it may be a block itself, and after a key also a list without a block of its
own. -/
def node : (fuel : Nat) → (inBlock bare : Bool) → Read Node
  | 0, _, _ => failure
  | fuel + 1, inBlock, bare => do
    match ← peek with
    | .alias name =>
      pass
      aliased name
    | _ =>
      let (id, tag) ← properties
      let n ← content fuel inBlock bare (id.isSome || tag.isSome) tag
      bindNode id n
      return n

/-- A node behind its properties. With one of them the rest may be left out. -/
def content : (fuel : Nat) → (inBlock bare marked : Bool) → Option Tag → Read Node
  | 0, _, _, _, _ => failure
  | fuel + 1, inBlock, bare, marked, tag => do
    match ← peek, inBlock, bare with
    | .scalar plain text, _, _ =>
      pass
      return scalarNode tag plain text
    | .flowList, _, _ =>
      pass
      return .list (← flowItems fuel true [])
    | .flowMap, _, _ =>
      pass
      flowEntries fuel true {}
    | .blockEntry, _, true => return .list (← bareItems fuel [])
    | .blockList, true, _ =>
      pass
      return .list (← blockItems fuel [])
    | .blockMap, true, _ =>
      pass
      blockEntries fuel {}
    | _, _, _ => if marked then return scalarNode tag true "" else failure

/-- The items of a flow list up to its end. An item with a key is a map of one entry. `acc` holds
the items read, last first. -/
def flowItems : (fuel : Nat) → (first : Bool) → (acc : List Yaml) → Read (List Yaml)
  | 0, _, _ => failure
  | fuel + 1, first, acc => do
    if ← passed .flowListEnd then return acc.reverse
    else if !first && !(← passed .flowEntry) then failure
    else if ← passed .flowListEnd then return acc.reverse
    else
      let item ← if ← passed .key then pairNode fuel else node fuel false false
      flowItems fuel false ((← item.value?) :: acc)

/-- The map of one entry behind the mark of its key. -/
def pairNode : (fuel : Nat) → Read Node
  | 0 => failure
  | fuel + 1 => do
    let key ← if (← peek) ∈ [.value, .flowEntry, .flowListEnd] then do
        pass
        pure .empty
      else node fuel false false
    let value ← if ← passed .value then
        if (← peek) ∈ [.flowEntry, .flowListEnd] then pure .empty else node fuel false false
      else pure .empty
    return (← (← ({} : Entries).add? key).add? value).node

/-- The entries of a flow map up to its end. -/
def flowEntries : (fuel : Nat) → (first : Bool) → Entries → Read Node
  | 0, _, _ => failure
  | fuel + 1, first, e => do
    if ← passed .flowMapEnd then return e.node
    else if !first && !(← passed .flowEntry) then failure
    else if ← passed .flowMapEnd then return e.node
    else
      let (key, valued) ← if ← passed .key then
          if (← peek) ∈ [.value, .flowEntry, .flowMapEnd] then pure (.empty, true)
          else do pure (← node fuel false false, true)
        else if (← peek) = .value then pure (.empty, true)
        else do pure (← node fuel false false, false)
      let value ← if valued then
          if ← passed .value then
            if (← peek) ∈ [.flowEntry, .flowMapEnd] then pure .empty else node fuel false false
          else pure .empty
        else pure .empty
      flowEntries fuel false (← (← e.add? key).add? value)

/-- The items of a block list up to its end. -/
def blockItems : (fuel : Nat) → (acc : List Yaml) → Read (List Yaml)
  | 0, _ => failure
  | fuel + 1, acc => do
    if ← passed .blockEnd then return acc.reverse
    else if ← passed .blockEntry then
      let item ← if (← peek) ∈ [.blockEntry, .blockEnd] then pure .empty else node fuel true false
      blockItems fuel ((← item.value?) :: acc)
    else failure

/-- The items of a list without a block of its own. -/
def bareItems : (fuel : Nat) → (acc : List Yaml) → Read (List Yaml)
  | 0, _ => failure
  | fuel + 1, acc => do
    if ← passed .blockEntry then
      let item ← if (← peek) ∈ [.blockEntry, .key, .value, .blockEnd] then pure .empty
        else node fuel true false
      bareItems fuel ((← item.value?) :: acc)
    else return acc.reverse

/-- The entries of a block map up to its end. -/
def blockEntries : (fuel : Nat) → Entries → Read Node
  | 0, _ => failure
  | fuel + 1, e => do
    if ← passed .blockEnd then return e.node
    else
      let key ← if ← passed .key then blockPart fuel
        else if (← peek) = .value then pure .empty
        else failure
      let value ← if ← passed .value then blockPart fuel else pure .empty
      blockEntries fuel (← (← e.add? key).add? value)

/-- A key or a value of a block map, which may be left out. -/
def blockPart : (fuel : Nat) → Read Node
  | 0 => failure
  | fuel + 1 => do
    if (← peek) ∈ [.key, .value, .blockEnd] then pure .empty else node fuel true true

end

/-- The directives in front of a document. There is one version at most, and a handle is explained
once. -/
def directives : (fuel : Nat) → (versioned : Bool) → (handles : List (String × String)) → Read Unit
  | 0, _, _ => failure
  | fuel + 1, versioned, handles => do
    match ← peek with
    | .directive .version =>
      if versioned then failure
      else
        pass
        directives fuel true handles
    | .directive (.handle handle expansion) =>
      if (handles.lookup handle).isSome then failure
      else
        pass
        directives fuel versioned ((handle, expansion) :: handles)
    | _ => modify fun s => { s with handles }

/-- Whether a token is a directive. -/
def isDirective : Token → Bool
  | .directive _ => true
  | _ => false

/-- A document behind the mark that begins it. -/
def markedDocument (fuel : Nat) : Read Node := do
  directives fuel false []
  if ← passed .documentStart then
    let next ← peek
    if isDirective next || next ∈ [.documentStart, .documentEnd, .streamEnd] then pure .empty
    else node fuel true false
  else failure

/-- Passes the marks that end documents. -/
def passEnds : (fuel : Nat) → Read Unit
  | 0 => failure
  | fuel + 1 => do if ← passed .documentEnd then passEnds fuel

/-- The documents up to the end. The first one, and one behind the mark that ends another, need no
mark. -/
def documents : (fuel : Nat) → (unmarked : Bool) → Read (List Node)
  | 0, _ => failure
  | fuel + 1, unmarked => do
    passEnds (fuel + 1)
    let next ← peek
    if next = .streamEnd then return []
    else
      modify fun s => { s with anchors := [] }
      let n ← if unmarked && !isDirective next && next ≠ .documentStart then node fuel true false
        else markedDocument fuel
      modify fun s => { s with handles := [] }
      let ended ← passed .documentEnd
      if !ended && isDirective (← peek) then failure
      else return n :: (← documents fuel ended)

end Read

/-- The nodes of the documents that tokens spell out. -/
def Node.ofTokens? (tokens : List Token) : Option (List Node) :=
  ((Read.documents (4 * tokens.length + 8) true).run { tokens }).map (·.1)

/-- The value of the one document in a text. A text without a document stands for an empty map. -/
def read? (text : String) : Option Yaml := do
  match ← Node.ofTokens? (← Token.scan text) with
  | [] => return .map []
  | [n] => n.value?
  | _ => none

end Rebac.Yaml
