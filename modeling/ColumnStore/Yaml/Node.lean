import ColumnStore.Text.Dictionary
import ColumnStore.Yaml.Token

/-!
# YAML documents

A document is a tree of scalars, sequences and mappings. `Document.ofText?` reads a text that holds
one document or none. A node that is left out counts as an empty plain scalar, and an alias counts
as the node that its anchor names.
-/

set_option autoImplicit false

namespace ColumnStore

namespace Yaml

/-- A node of a document. -/
inductive Node where
  | scalar (text : String) (plain : Bool)
  | sequence (items : List Node)
  | mapping (entries : List (Node × Node))

/-- A node that is left out. -/
def Node.empty : Node := .scalar "" true

/-- The tokens that are left, the nodes with anchors, and the declared handles of tags. -/
structure Reading where
  tokens : List Token
  anchors : Dictionary Node
  handles : List String

/-- The handles of tags that need no declaration. -/
def standardHandles : List String := ["!", "!!"]

/-- Reading of a part of a document, which may break a rule. -/
abbrev Parse (α : Type) := StateT Reading Option α

namespace Parse

/-- The next token, if one is left. -/
def peek : Parse (Option Token) := do
  pure (← get).tokens.head?

/-- Passes a token. -/
def skip : Parse Unit :=
  modify fun reading ↦ { reading with tokens := reading.tokens.tail }

/-- Passes a token if it is the given one, and says whether it was. -/
def accept (token : Token) : Parse Bool := do
  if (← peek) = some token then
    skip
    pure true
  else pure false

/-- Is the next token one of these, or none left? -/
def atOneOf (tokens : List Token) : Parse Bool := do
  match ← peek with
  | some token => pure (tokens.contains token)
  | none => pure true

/-- Passes an anchor. -/
def anchor? : Parse (Option String) := do
  match ← peek with
  | some (.anchor name) => do
    skip
    pure (some name)
  | _ => pure none

/-- Passes a tag, whose handle must be known, and says whether there was one. -/
def tag? : Parse Bool := do
  match ← peek with
  | some (.tag handle) => do
    skip
    let known := (← get).handles
    if handle.all fun handle ↦ known.contains handle then pure true else failure
  | _ => pure false

/-- Passes an anchor and a tag in any order. -/
def properties : Parse (Option String × Bool) := do
  match ← anchor? with
  | some name => pure (some name, ← tag?)
  | none => do
    let tagged ← tag?
    pure (← anchor?, tagged)

/-- The node that an alias names. -/
def named (name : String) : Parse Node := do
  match (← get).anchors.get? name with
  | some node => pure node
  | none => failure

/-- Remembers a node under its anchor. -/
def remember (anchor : Option String) (node : Node) : Parse Node := do
  match anchor with
  | some name =>
    modify fun reading ↦ { reading with anchors := reading.anchors.insert name node }
  | none => pure ()
  pure node

mutual

/-- Reads a node. In the value of a mapping, a sequence of a block need not be indented. -/
def node (block indentless : Bool) : Nat → Parse Node
  | 0 => failure
  | fuel + 1 => do
    match ← peek with
    | some (.alias name) => do
      skip
      named name
    | _ => do
      let (anchor, tagged) ← properties
      let content ←
        match ← peek with
        | some .blockEntry => if indentless then Node.sequence <$> looseItems fuel else failure
        | some (.scalar text plain) => do
          skip
          pure (.scalar text plain)
        | some .flowSequenceStart => do
          skip
          Node.sequence <$> flowItems true fuel
        | some .flowMappingStart => do
          skip
          Node.mapping <$> flowEntries true fuel
        | some .blockSequenceStart =>
          if block then do
            skip
            Node.sequence <$> blockItems fuel
          else failure
        | some .blockMappingStart =>
          if block then do
            skip
            Node.mapping <$> blockEntries fuel
          else failure
        | _ => if anchor.isSome || tagged then pure Node.empty else failure
      remember anchor content

/-- Reads a node, or an empty one if one of these tokens comes next. -/
def nodeUnless (ends : List Token) (block indentless : Bool) : Nat → Parse Node
  | 0 => failure
  | fuel + 1 => do
    if ← atOneOf ends then pure Node.empty else node block indentless fuel

/-- Reads the items of a block. -/
def blockItems : Nat → Parse (List Node)
  | 0 => failure
  | fuel + 1 => do
    if ← accept .blockEntry then
      let item ← nodeUnless [.blockEntry, .blockEnd] true false fuel
      pure (item :: (← blockItems fuel))
    else if ← accept .blockEnd then pure []
    else failure

/-- Reads the items of a sequence that is not indented. -/
def looseItems : Nat → Parse (List Node)
  | 0 => failure
  | fuel + 1 => do
    if ← accept .blockEntry then
      let item ← nodeUnless [.blockEntry, .key, .value, .blockEnd] true false fuel
      pure (item :: (← looseItems fuel))
    else pure []

/-- Reads the entries of a block. -/
def blockEntries : Nat → Parse (List (Node × Node))
  | 0 => failure
  | fuel + 1 => do
    if ← accept .key then
      let ends : List Token := [.key, .value, .blockEnd]
      let key ← nodeUnless ends true true fuel
      let value ← if ← accept .value then nodeUnless ends true true fuel else pure Node.empty
      pure ((key, value) :: (← blockEntries fuel))
    else if ← accept .blockEnd then pure []
    else failure

/-- Reads the items of a flow sequence. An item may be a mapping of one entry without braces. -/
def flowItems (first : Bool) : Nat → Parse (List Node)
  | 0 => failure
  | fuel + 1 => do
    if ← accept .flowSequenceEnd then pure []
    else if !first && !(← accept .flowEntry) then failure
    else if ← accept .flowSequenceEnd then pure []
    else if ← accept .key then
      let ends : List Token := [.flowEntry, .flowSequenceEnd]
      let key ←
        if ← atOneOf (.value :: ends) then do
          skip
          pure Node.empty
        else node false false fuel
      let value ← if ← accept .value then nodeUnless ends false false fuel else pure Node.empty
      pure (.mapping [(key, value)] :: (← flowItems false fuel))
    else
      let item ← node false false fuel
      pure (item :: (← flowItems false fuel))

/-- Reads the entries of a flow mapping. A key may stand without a value. -/
def flowEntries (first : Bool) : Nat → Parse (List (Node × Node))
  | 0 => failure
  | fuel + 1 => do
    if ← accept .flowMappingEnd then pure []
    else if !first && !(← accept .flowEntry) then failure
    else if ← accept .flowMappingEnd then pure []
    else if ← accept .key then
      let ends : List Token := [.flowEntry, .flowMappingEnd]
      let key ← nodeUnless (.value :: ends) false false fuel
      let value ← if ← accept .value then nodeUnless ends false false fuel else pure Node.empty
      pure ((key, value) :: (← flowEntries false fuel))
    else
      let key ← node false false fuel
      pure ((key, Node.empty) :: (← flowEntries false fuel))

end

/-- Passes the lines in front of a document that declare something. The flag says whether the
version has been declared. -/
def directives : Nat → Bool → Parse Bool
  | 0, _ => failure
  | fuel + 1, versioned => do
    match ← peek with
    | some .version => do
      skip
      if versioned then failure else directives fuel true
    | some (.tagHandle handle) => do
      skip
      let declared := (← get).handles
      if (declared.drop standardHandles.length).contains handle then failure
      else do
        modify fun reading ↦ { reading with handles := declared ++ [handle] }
        let _ ← directives fuel versioned
        pure true
    | _ => pure versioned

/-- Passes marks of ended documents. -/
def documentEnds : Nat → Parse Unit
  | 0 => pure ()
  | fuel + 1 => do
    if ← accept .documentEnd then documentEnds fuel else pure ()

/-- Reads the only document, if there is one. -/
def document (fuel : Nat) : Parse (Option Node) := do
  if (← get).tokens.isEmpty then pure none
  else
    let declares ← directives fuel false
    let marked ← accept .documentStart
    if declares && !marked then failure
    else
      let ends : List Token := [.version, .documentStart, .documentEnd]
      let node ← if marked then nodeUnless ends true false fuel else node true false fuel
      documentEnds fuel
      if (← get).tokens.isEmpty then pure (some node) else failure

end Parse

/-- The document in a text. The inner result is empty if the text holds none. -/
def Node.ofText? (text : String) : Option (Option Node) := do
  let tokens ← Token.ofText? text
  let (document, _) ← (Parse.document (4 * tokens.length + 8)).run ⟨tokens, [], standardHandles⟩
  pure document

end Yaml

end ColumnStore
