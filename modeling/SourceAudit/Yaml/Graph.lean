import SourceAudit.Yaml.Tag
import SourceAudit.Yaml.Tokens

/-!
# Node graphs

The nodes of a document, numbered, with their tags. A reference leads to the number of the node with
its anchor, so a collection may be reached in many ways and even contain itself. `Graph.ofSupply`
reads the single document of a text.
-/

namespace SourceAudit.Yaml

/-- What a node consists of. -/
inductive Body where
  | scalar (text : Text.Wording)
  | sequence (items : List Nat)
  | mapping (entries : List (Nat × Nat))
  deriving Repr, Inhabited

/-- A node of a document. -/
structure Node where
  tag : Tag
  body : Body
  deriving Repr, Inhabited

/-- The nodes of a document. -/
structure Graph where
  nodes : Array Node
  /-- The document's node; an empty text has none. -/
  root : Option Nat
  deriving Repr

/-- What is kept while a document is read. -/
structure Reading where
  scan : Scan
  /-- The number of collections around the place. -/
  depth : Nat := 0
  nodes : Array Node := #[]
  anchors : List (String × Nat) := []
  /-- The abbreviations for the beginnings of tags. -/
  handles : List (String × String) := []

/-- A step in reading a document. -/
abbrev Reader := StateT Reading (Except Error)

namespace Reader

def malformed {α : Type} : Reader α :=
  throw .malformed

def peek : Reader Token := do
  let r ← get
  match r.scan.next with
  | .error e => throw e
  | .ok (t, scan) =>
    set { r with scan := scan }
    return t

def pop : Reader Unit :=
  modify fun r => { r with scan := { r.scan with used := r.scan.used + 1 } }

/-- The greatest number of collections around a place. -/
def maxDepth : Nat := 485

/-- What is inside a collection. -/
def inside {α : Type} (contents : Reader α) : Reader α := do
  if maxDepth ≤ (← get).depth then throw .tooDeep
  modify fun r => { r with depth := r.depth + 1 }
  let a ← contents
  modify fun r => { r with depth := r.depth - 1 }
  return a

def add (n : Node) : Reader Nat := do
  let r ← get
  set { r with nodes := r.nodes.push n }
  return r.nodes.size

/-- Adds the scalar that stands for nothing written. -/
def empty : Reader Nat :=
  add ⟨.null, .scalar (.text "")⟩

/-- Gives a node its anchor, which is used once. -/
def bindAnchor (anchor : Option String) (id : Nat) : Reader Unit := do
  match anchor with
  | none => return
  | some a =>
    let r ← get
    if (r.anchors.lookup a).isSome then malformed
    set { r with anchors := (a, id) :: r.anchors }

/-- Sets what a node consists of. -/
def setBody (id : Nat) (body : Body) : Reader Unit :=
  modify fun r => { r with nodes := r.nodes.modify id fun n => { n with body := body } }

/-! ## Properties -/

/-- The anchor and the tag in front of a node, in either order. -/
def properties : Reader (Option String × Option (Option String × String)) := do
  match ← peek with
  | .anchor a =>
    pop
    match ← peek with
    | .tag h t =>
      pop
      return (some a, some (h, t))
    | _ => return (some a, none)
  | .tag h t =>
    pop
    match ← peek with
    | .anchor a =>
      pop
      return (some a, some (h, t))
    | _ => return (none, some (h, t))
  | _ => return (none, none)

/-- A tag with its abbreviation written out. -/
def fullTag : Option (Option String × String) → Reader (Option String)
  | none => return none
  | some (none, t) => return some t
  | some (some h, t) => do
    match (← get).handles.lookup h with
    | some expansion => return some (expansion ++ t)
    | none => malformed

/-- The tag of a collection of the given shape. -/
def collectionTag (written : Option String) (shape : Tag) : Tag :=
  match written with
  | none | some "!" => shape
  | some t => .ofName t

/-- The tag of a scalar. -/
def scalarTag (written : Option String) (text : Text.Wording) (plain : Bool) : Tag :=
  match written with
  | none => if plain then .ofWording text else .text
  | some "!" => .ofWording text
  | some t => .ofName t

/-- Whether the token ends an item of an indented sequence. -/
def endsItem : Token → Bool
  | .blockEntry | .blockEnd => true
  | _ => false

/-- Whether the token ends an item of a sequence at the column of its mapping. -/
def endsLevelItem : Token → Bool
  | .blockEntry | .key | .value | .blockEnd => true
  | _ => false

/-- Whether the token ends a key or value of an indented mapping. -/
def endsEntry : Token → Bool
  | .key | .value | .blockEnd => true
  | _ => false

/-- Whether the token ends a value between brackets that `close` closes. -/
def endsFlowValue (close t : Token) : Bool :=
  t == .flowEntry || t == close

/-- Whether the token ends a key between brackets that `close` closes. -/
def endsFlowKey (close t : Token) : Bool :=
  t == .value || endsFlowValue close t

/-! ## Nodes -/

mutual

/-- A node. `block` allows indented collections, `level` a sequence at the present column. -/
def node : Nat → (block level : Bool) → Reader Nat
  | 0, _, _ => malformed
  | fuel + 1, block, level => do
    match ← peek with
    | .reference a =>
      pop
      match (← get).anchors.lookup a with
      | some id => return id
      | none => malformed
    | _ =>
      let (anchor, tag) ← properties
      let written ← fullTag tag
      let t ← peek
      if level && t == .blockEntry then
        let id ← add ⟨collectionTag written .sequence, .sequence []⟩
        bindAnchor anchor id
        setBody id (.sequence (← inside (levelItems fuel)))
        return id
      else
        match t with
        | .scalar text plain =>
          pop
          let id ← add ⟨scalarTag written text plain, .scalar text⟩
          bindAnchor anchor id
          return id
        | .flowSequenceStart =>
          pop
          let id ← add ⟨collectionTag written .sequence, .sequence []⟩
          bindAnchor anchor id
          setBody id (.sequence (← inside (flowItems fuel true)))
          return id
        | .flowMappingStart =>
          pop
          let id ← add ⟨collectionTag written .mapping, .mapping []⟩
          bindAnchor anchor id
          setBody id (.mapping (← inside (flowEntries fuel true)))
          return id
        | t =>
          if block && t == .blockSequenceStart then
            pop
            let id ← add ⟨collectionTag written .sequence, .sequence []⟩
            bindAnchor anchor id
            setBody id (.sequence (← inside (blockItems fuel)))
            return id
          else if block && t == .blockMappingStart then
            pop
            let id ← add ⟨collectionTag written .mapping, .mapping []⟩
            bindAnchor anchor id
            setBody id (.mapping (← inside (blockEntries fuel)))
            return id
          else if anchor.isSome || tag.isSome then
            let id ← add ⟨scalarTag written (.text "") true, .scalar (.text "")⟩
            bindAnchor anchor id
            return id
          else malformed

/-- The items of an indented sequence. -/
def blockItems : Nat → Reader (List Nat)
  | 0 => malformed
  | fuel + 1 => do
    match ← peek with
    | .blockEntry =>
      pop
      let item ← if endsItem (← peek) then empty else node fuel true false
      return item :: (← blockItems fuel)
    | .blockEnd =>
      pop
      return []
    | _ => malformed

/-- The items of a sequence at the column of its mapping. -/
def levelItems : Nat → Reader (List Nat)
  | 0 => malformed
  | fuel + 1 => do
    match ← peek with
    | .blockEntry =>
      pop
      let item ← if endsLevelItem (← peek) then empty else node fuel true false
      return item :: (← levelItems fuel)
    | _ => return []

/-- The entries of an indented mapping. -/
def blockEntries : Nat → Reader (List (Nat × Nat))
  | 0 => malformed
  | fuel + 1 => do
    match ← peek with
    | .key =>
      pop
      let k ← if endsEntry (← peek) then empty else node fuel true true
      let v ← blockValue fuel
      return (k, v) :: (← blockEntries fuel)
    | .blockEnd =>
      pop
      return []
    | _ => malformed

/-- The value behind a key of an indented mapping. -/
def blockValue : Nat → Reader Nat
  | 0 => malformed
  | fuel + 1 => do
    match ← peek with
    | .value =>
      pop
      if endsEntry (← peek) then empty else node fuel true true
    | _ => empty

/-- The items between square brackets; a comma stands before each but the first. -/
def flowItems : Nat → Bool → Reader (List Nat)
  | 0, _ => malformed
  | fuel + 1, first => do
    if (← peek) == .flowSequenceEnd then
      pop
      return []
    else
      if !first then
        if (← peek) == .flowEntry then pop else malformed
      match ← peek with
      | .key =>
        pop
        let entry ← inside (flowEntry fuel .flowSequenceEnd)
        let id ← add ⟨.mapping, .mapping [entry]⟩
        return id :: (← flowItems fuel false)
      | .flowSequenceEnd =>
        pop
        return []
      | _ =>
        let item ← node fuel false false
        return item :: (← flowItems fuel false)

/-- The entries between braces; a comma stands before each but the first. -/
def flowEntries : Nat → Bool → Reader (List (Nat × Nat))
  | 0, _ => malformed
  | fuel + 1, first => do
    if (← peek) == .flowMappingEnd then
      pop
      return []
    else
      if !first then
        if (← peek) == .flowEntry then pop else malformed
      match ← peek with
      | .key =>
        pop
        let entry ← flowEntry fuel .flowMappingEnd
        return entry :: (← flowEntries fuel false)
      | .flowMappingEnd =>
        pop
        return []
      | _ =>
        let k ← node fuel false false
        let v ← empty
        return (k, v) :: (← flowEntries fuel false)

/-- A key and its value between brackets; the mark of the key has been passed. -/
def flowEntry : Nat → Token → Reader (Nat × Nat)
  | 0, _ => malformed
  | fuel + 1, close => do
    let k ← if endsFlowKey close (← peek) then empty else node fuel false false
    match ← peek with
    | .value =>
      pop
      let v ← if endsFlowValue close (← peek) then empty else node fuel false false
      return (k, v)
    | _ =>
      let v ← empty
      return (k, v)

end

/-! ## Documents -/

/-- The abbreviations that every document has. -/
def standardHandles : List (String × String) :=
  [("!", "!"), ("!!", Tag.root)]

/-- The directives in front of a document, and the mark of its start behind them; `versioned` tells
that the version has been given, `handles` are the abbreviations so far. -/
def directives : Nat → (versioned : Bool) → (handles : List (String × String)) → Reader Unit
  | 0, _, _ => malformed
  | fuel + 1, versioned, handles => do
    match ← peek with
    | .directive d =>
      pop
      match d with
      | .version major =>
        if versioned || major != 1 then malformed else directives fuel true handles
      | .abbreviation h expansion =>
        if (handles.lookup h).isSome then malformed
        else directives fuel versioned ((h, expansion) :: handles)
      | .other => directives fuel versioned handles
    | .documentStart =>
      pop
      modify fun r => { r with handles := handles ++ standardHandles }
    | _ => malformed

/-- Whether the token is a directive. -/
def isDirective : Token → Bool
  | .directive _ => true
  | _ => false

/-- Whether the token shows that a document has no content. -/
def endsDocument (t : Token) : Bool :=
  isDirective t || t == .documentStart || t == .documentEnd || t == .streamEnd

/-- The content of the document, if the text has one. -/
def content (fuel : Nat) : Reader (Option Nat) := do
  let t ← peek
  if t == .streamEnd then return none
  else if isDirective t || t == .documentStart then
    directives fuel false []
    if endsDocument (← peek) then return some (← empty)
    else return some (← node fuel true false)
  else
    modify fun r => { r with handles := standardHandles }
    return some (← node fuel true false)

/-- The marks of a document's end, after which the text has to end, too. What could start another
document is read before the text is found to be malformed. -/
def ending : Nat → Reader Unit
  | 0 => malformed
  | fuel + 1 => do
    match ← peek with
    | .documentEnd =>
      pop
      ending fuel
    | .streamEnd => return
    | _ =>
      directives fuel false []
      malformed

/-- The single document of a text. -/
def document (fuel : Nat) : Reader (Option Nat) := do
  let root ← content fuel
  ending fuel
  return root

end Reader

/-- The graph of a text. -/
def Graph.ofSupply (s : Supply) : Except Error Graph :=
  match (Reader.document (16 * s.chars.length + 32)).run { scan := .ofSupply s } with
  | .error e => .error e
  | .ok (root, r) => .ok ⟨r.nodes, root⟩

end SourceAudit.Yaml
