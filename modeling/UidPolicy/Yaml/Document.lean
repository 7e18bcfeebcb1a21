import UidPolicy.Yaml.Token

/-!
# Documents

What the tokens of a document say.

* `Yaml.Node` — texts, lists and mappings; a node can have a number, and an alias refers to a
  node by number.
* `Yaml.Grammar` — the rules of the grammar, as readers that consume tokens.
* `Yaml.Document` — the node that a document consists of; `Document.parse?` is its reader, and
  `Document.content?` what a node stands for.

A document without content is an empty plain text, as is every node that is left out.
-/

namespace UidPolicy

namespace Yaml

inductive Node where
  | scalar (tag : Option TagName) (style : Style) (text : String)
  | sequence (items : List Node)
  | mapping (entries : List (Node × Node))
  /-- A node with a number. -/
  | anchored (number : Nat) (node : Node)
  /-- A node that stands for the one with this number. -/
  | alias (number : Nat)
  deriving Inhabited

def Node.empty : Node := .scalar none .plain ""

/-- What the readers of the grammar work on. -/
structure Reader where
  tokens : List Token
  /-- The handles of tags and what they stand for. -/
  handles : List (String × TagName) :=
    [("!", TagName.mark), ("!!", TagName.ofText "tag:yaml.org,2002:")]
  /-- The names of nodes and their numbers; the last definition of a name comes first. -/
  names : List (String × Nat) := []
  deriving Inhabited

/-- A rule of the grammar. -/
abbrev Grammar (α : Type) : Type := StateT Reader Option α

namespace Grammar

def peek : Grammar (Option Token) := do
  return (← get).tokens.head?

def advance : Grammar Unit :=
  modify fun r => { r with tokens := r.tokens.drop 1 }

/-- Consumes the next token if it is a given one, and says whether it was. -/
def accept (t : Token) : Grammar Bool := do
  if (← peek) = some t then
    advance
    return true
  else return false

/-- What comes before the content of a node. -/
structure Properties where
  anchor : Option String := none
  tag : Option TagName := none
  deriving Inhabited

/-- The name of a tag: what its handle stands for, and the rest. -/
def resolveTag (handle : String) (suffix : TagName) : Grammar TagName := do
  if handle.isEmpty then return suffix
  match (← get).handles.find? fun e => e.1 = handle with
  | some (_, base) => return base ++ suffix
  | none => failure

/-- An anchor and a tag in either order, both of which may be missing. -/
def properties : (count : Nat) → Properties → Grammar Properties
  | 0, p => pure p
  | count + 1, p => do
    match ← peek with
    | some (.anchor name) =>
      if p.anchor.isSome then return p
      advance
      properties count { p with anchor := some name }
    | some (.tag handle suffix) =>
      if p.tag.isSome then return p
      advance
      let tag ← resolveTag handle suffix
      properties count { p with tag := some tag }
    | _ => return p

/-- The number of a new anchor: how many different names there have been. -/
def newNumber (name : String) : Grammar Nat := do
  let r ← get
  let number := (r.names.map (·.1)).eraseDups.length
  set { r with names := (name, number) :: r.names }
  return number

/-- The number of the node that an alias names. -/
def numberOf (name : String) : Grammar Nat := do
  match (← get).names.find? fun e => e.1 = name with
  | some (_, number) => return number
  | none => failure

mutual

/-- A node.  `block` says whether it may be an indented block, and `indentless` whether a list
may stand at the column of the key before it.  `fuel` bounds the depth and the length. -/
def node (fuel : Nat) (block indentless : Bool) : Grammar Node := do
  match fuel with
  | 0 => failure
  | fuel + 1 =>
    match ← peek with
    | some (.alias name) =>
      advance
      let number ← numberOf name
      return .alias number
    | _ =>
      let p ← properties 2 {}
      match p.anchor with
      | none => content fuel block indentless p
      | some name => do
        let number ← newNumber name
        let inner ← content fuel block indentless p
        return .anchored number inner

/-- A node after its anchor and tag. -/
def content (fuel : Nat) (block indentless : Bool) (p : Properties) : Grammar Node := do
  match fuel with
  | 0 => failure
  | fuel + 1 =>
    match ← peek with
    | some (.scalar style text) =>
      advance
      return .scalar p.tag style text
    | some .flowSequenceStart =>
      advance
      return .sequence (← flowItems fuel true)
    | some .flowMappingStart =>
      advance
      return .mapping (← flowEntries fuel true)
    | some .blockEntry =>
      if indentless then return .sequence (← plainItems fuel) else failure
    | some .blockSequenceStart =>
      if block then
        advance
        return .sequence (← blockItems fuel)
      else leftOut p
    | some .blockMappingStart =>
      if block then
        advance
        return .mapping (← blockEntries fuel)
      else leftOut p
    | _ => leftOut p

/-- A node that is left out; it needs an anchor or a tag to be seen. -/
def leftOut (p : Properties) : Grammar Node :=
  if p.anchor.isSome || p.tag.isSome then pure (.scalar p.tag .plain "") else failure

/-- A node, unless one of some tokens shows that it is left out. -/
def optional (fuel : Nat) (block indentless : Bool) (enders : List Token) : Grammar Node := do
  match fuel with
  | 0 => failure
  | fuel + 1 =>
    match ← peek with
    | none => failure
    | some t =>
      if enders.contains t then return .empty else node fuel block indentless

def blockItems (fuel : Nat) : Grammar (List Node) := do
  match fuel with
  | 0 => failure
  | fuel + 1 =>
    if ← accept .blockEntry then
      let item ← optional fuel true false [.blockEntry, .blockEnd]
      return item :: (← blockItems fuel)
    else if ← accept .blockEnd then return []
    else failure

/-- The items of a list at the column of its key. -/
def plainItems (fuel : Nat) : Grammar (List Node) := do
  match fuel with
  | 0 => failure
  | fuel + 1 =>
    if ← accept .blockEntry then
      let item ← optional fuel true false [.blockEntry, .key, .value, .blockEnd]
      return item :: (← plainItems fuel)
    else return []

def blockEntries (fuel : Nat) : Grammar (List (Node × Node)) := do
  match fuel with
  | 0 => failure
  | fuel + 1 =>
    if ← accept .blockEnd then return []
    else
      let enders := [Token.key, .value, .blockEnd]
      if !(← accept .key) then failure
      let key ← optional fuel true true enders
      let value ← if ← accept .value then optional fuel true true enders else pure .empty
      return (key, value) :: (← blockEntries fuel)

/-- The items of a list between brackets. -/
def flowItems (fuel : Nat) (first : Bool) : Grammar (List Node) := do
  match fuel with
  | 0 => failure
  | fuel + 1 =>
    if ← accept .flowSequenceEnd then return []
    if !first then
      if !(← accept .flowEntry) then failure
      if ← accept .flowSequenceEnd then return []
    let item ←
      if ← accept .key then do
        let enders := [Token.value, .flowEntry, .flowSequenceEnd]
        let key ← optional fuel false false enders
        let value ←
          if ← accept .value then optional fuel false false [.flowEntry, .flowSequenceEnd]
          else pure .empty
        pure (Node.mapping [(key, value)])
      else node fuel false false
    return item :: (← flowItems fuel false)

/-- The entries of a mapping between braces.  A key without a value has an empty one. -/
def flowEntries (fuel : Nat) (first : Bool) : Grammar (List (Node × Node)) := do
  match fuel with
  | 0 => failure
  | fuel + 1 =>
    if ← accept .flowMappingEnd then return []
    if !first then
      if !(← accept .flowEntry) then failure
      if ← accept .flowMappingEnd then return []
    let entry ←
      if ← accept .key then do
        let key ← optional fuel false false [.value, .flowEntry, .flowMappingEnd]
        let value ←
          if ← accept .value then optional fuel false false [.flowEntry, .flowMappingEnd]
          else pure .empty
        pure (key, value)
      else do
        let key ← node fuel false false
        pure (key, Node.empty)
    return entry :: (← flowEntries fuel false)

end

/-- The directives of a document: one version at most, and each handle once. -/
def directives : (fuel : Nat) → (versioned : Bool) → (own : List (String × TagName)) → Grammar Unit
  | 0, _, _ => failure
  | fuel + 1, versioned, own => do
    match ← peek with
    | some (.versionDirective major minor) =>
      if versioned || major ≠ 1 || (minor ≠ 1 && minor ≠ 2) then failure
      advance
      directives fuel true own
    | some (.tagDirective handle base) =>
      if own.any fun e => e.1 = handle then failure
      advance
      directives fuel versioned (own ++ [(handle, base)])
    | _ => modify fun r => { r with handles := own ++ r.handles }

def skipEnds : (fuel : Nat) → Grammar Unit
  | 0 => pure ()
  | fuel + 1 => do
    if ← accept .documentEnd then skipEnds fuel

/-- A stream of at most one document. -/
def stream : Grammar Node := do
  let fuel := 3 * (← get).tokens.length + 3
  let isExplicit :=
    match ← peek with
    | some (.versionDirective ..) | some (.tagDirective ..) | some .documentStart => true
    | _ => false
  let root ←
    match ← peek with
    | none => pure Node.empty
    | some _ =>
      if isExplicit then do
        directives fuel false []
        if !(← accept .documentStart) then failure
        match ← peek with
        | none | some (.versionDirective ..) | some (.tagDirective ..) | some .documentStart
        | some .documentEnd => pure .empty
        | some _ => node fuel true false
      else node fuel true false
  skipEnds fuel
  if (← peek).isSome then failure
  return root

end Grammar

mutual

/-- The numbered nodes below a node, each with its content, in the order of the document. -/
def Node.numbered : Node → List (Nat × Node)
  | .scalar .. | .alias _ => []
  | .sequence items => Node.numberedItems items
  | .mapping entries => Node.numberedEntries entries
  | .anchored number node => (number, node) :: node.numbered

def Node.numberedItems : List Node → List (Nat × Node)
  | [] => []
  | item :: rest => item.numbered ++ Node.numberedItems rest

def Node.numberedEntries : List (Node × Node) → List (Nat × Node)
  | [] => []
  | (key, value) :: rest => key.numbered ++ value.numbered ++ Node.numberedEntries rest

end

structure Document where
  root : Node
  deriving Inhabited

namespace Document

/-- The content of a node: an alias stands for the last node with its number.  An anchor may be
given anew, and what was named by it before is then out of reach. -/
def content? (d : Document) : Node → Option Node
  | .anchored _ node => some node
  | .alias number => ((d.root.numbered.filter fun e => e.1 = number).getLast?).map (·.2)
  | node => some node

def parse? (text : String) : Option Document := do
  let tokens ← tokens? text
  let (root, _) ← Grammar.stream.run { tokens }
  pure ⟨root⟩

end Document

end Yaml

end UidPolicy
