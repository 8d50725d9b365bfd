import SourceAudit.Yaml.Graph
import SourceAudit.Yaml.Scalar

/-!
# From node graphs to values

A graph has a value when every node that is reached has one. Nodes are visited in breadth: the
entries of a mapping come before what its values contain. Mappings under the merge key are put in
front of the other entries, so those win. `Yaml.read` is the value of a file.
-/

namespace SourceAudit.Yaml

/-- The nodes of a document by number. -/
abbrev Nodes := Array Node

namespace Nodes

/-- The entries of a mapping. -/
def entries (ns : Nodes) (id : Nat) : Except Error (List (Nat × Nat)) :=
  match ns[id]? with
  | some ⟨_, .mapping entries⟩ => .ok entries
  | _ => .error .malformed

/-- Replaces the entries of a mapping. -/
def setEntries (ns : Nodes) (id : Nat) (entries : List (Nat × Nat)) : Nodes :=
  ns.modify id fun n => { n with body := .mapping entries }

/-- The tag of a node. -/
def tagOf (ns : Nodes) (id : Nat) : Tag :=
  (ns[id]?.map Node.tag).getD .unknown

/-! ## Merging -/

/-- How many mappings may be merged, one into the other. -/
def maxMerged : Nat := 980

/-- Takes the merge keys out of a mapping from the entry `index` on. The entries they bring are
collected in `merged` and put in front at the end. The mapping is itself merged, one into the other,
into `depth` others. -/
def flattenFrom : Nat → (depth : Nat) → Nat → Nat → List (Nat × Nat) → Nodes → Except Error Nodes
  | 0, _, _, _, _, _ => .error .malformed
  | fuel + 1, depth, id, index, merged, ns =>
    match ns.entries id with
    | .error e => .error e
    | .ok es =>
      match es[index]? with
      | none => .ok (if merged.isEmpty then ns else ns.setEntries id (merged ++ es))
      | some (k, v) =>
        match ns.tagOf k with
        | .merge =>
          let ns := ns.setEntries id (es.eraseIdx index)
          match ns[v]?.map Node.body with
          | some (.mapping _) =>
            if maxMerged ≤ depth then .error .tooDeep
            else
              match flattenFrom fuel (depth + 1) v 0 [] ns with
              | .error e => .error e
              | .ok ns =>
                match ns.entries v with
                | .error e => .error e
                | .ok more => flattenFrom fuel depth id index (merged ++ more) ns
          | some (.sequence items) =>
            let one (acc : Nodes × List (List (Nat × Nat))) (i : Nat) :
                Except Error (Nodes × List (List (Nat × Nat))) :=
              if maxMerged ≤ depth then .error .tooDeep
              else
                match flattenFrom fuel (depth + 1) i 0 [] acc.1 with
                | .error e => .error e
                | .ok ns => (ns.entries i).map fun more => (ns, more :: acc.2)
            match items.foldlM one (ns, []) with
            | .error e => .error e
            | .ok (ns, groups) => flattenFrom fuel depth id index (merged ++ groups.flatten) ns
          | _ => .error .malformed
        | .standard =>
          flattenFrom fuel depth id (index + 1) merged
            (ns.modify k fun n => { n with tag := .text })
        | _ => flattenFrom fuel depth id (index + 1) merged ns

/-! ## Checking -/

/-- How many mappings may stand for the scalar under their main key, one inside the other. -/
def maxChain : Nat := 980

/-- The text of a scalar; a mapping stands for the scalar under its main key. -/
def scalarText : Nat → Nodes → Nat → Except Error Text.Wording
  | 0, _, _ => .error .tooDeep
  | fuel + 1, ns, id =>
    match ns[id]?.map Node.body with
    | some (.scalar s) => .ok s
    | some (.mapping es) =>
      match es.find? fun e => ns.tagOf e.1 == .standard with
      | some (_, v) => scalarText fuel ns v
      | none => .error .malformed
    | _ => .error .malformed

/-- Whether a node is written as a scalar. -/
def isScalar (ns : Nodes) (id : Nat) : Bool :=
  match ns[id]?.map Node.body with
  | some (.scalar _) => true
  | _ => false

/-- Whether values with the tag are read from the text of a scalar. -/
def hasText : Tag → Bool
  | .null | .bool | .int | .float | .binary | .timestamp | .text => true
  | _ => false

/-- The value of a node with the tag of a scalar. A date has to be written as one. -/
def scalarOf (ns : Nodes) (id : Nat) : Except Error Value :=
  let tag := ns.tagOf id
  if !hasText tag then .error .malformed
  else
    match scalarText maxChain ns id with
    | .error e => .error e
    | .ok s =>
      if tag == .timestamp && !ns.isScalar id then .error (.scalar .notScalar)
      else scalarValue tag s

/-- Whether values with the tag are collections. -/
def isCollection : Tag → Bool
  | .sequence | .mapping | .set | .orderedMapping | .pairs => true
  | _ => false

end Nodes

/-- What is kept while the nodes of a graph are checked. -/
structure Visit where
  nodes : Nodes
  /-- The collections whose contents are still to be checked. -/
  queue : List Nat := []
  met : List Nat := []
  /-- The values of the scalars that have been met, by number. -/
  values : Array (Option Value) := nodes.map fun _ => none

namespace Visit

/-- Meets a node: a scalar has to have a value, which it keeps; a collection is checked later. -/
def meet (v : Visit) (id : Nat) : Except Error Visit :=
  if Nodes.isCollection (v.nodes.tagOf id) then
    if v.met.contains id then .ok v
    else .ok { v with queue := v.queue ++ [id], met := id :: v.met }
  else
    match v.values[id]? with
    | some (some _) => .ok v
    | _ =>
      (v.nodes.scalarOf id).map fun x =>
        { v with values := v.values.setIfInBounds id (some x) }

/-- Meets a key and its value; a key of a mapping is no collection. -/
def meetEntry (hashed : Bool) (v : Visit) (e : Nat × Nat) : Except Error Visit :=
  match v.meet e.1 with
  | .error e => .error e
  | .ok v =>
    if hashed && Nodes.isCollection (v.nodes.tagOf e.1) then .error .malformed else v.meet e.2

/-- The single entry of an item in a list of entries. -/
def singleEntry (v : Visit) (id : Nat) : Except Error Visit :=
  match v.nodes.entries id with
  | .ok [e] => v.meetEntry false e
  | _ => .error .malformed

/-- Checks the contents of a collection. -/
def contents (fuel : Nat) (v : Visit) (id : Nat) : Except Error Visit :=
  match v.nodes[id]? with
  | some ⟨.sequence, .sequence items⟩ => items.foldlM meet v
  | some ⟨.orderedMapping, .sequence items⟩ => items.foldlM singleEntry v
  | some ⟨.pairs, .sequence items⟩ => items.foldlM singleEntry v
  | some ⟨.mapping, .mapping _⟩ | some ⟨.set, .mapping _⟩ =>
    match v.nodes.flattenFrom fuel 0 id 0 [] with
    | .error e => .error e
    | .ok ns =>
      match ns.entries id with
      | .error e => .error e
      | .ok es => es.foldlM (meetEntry true) { v with nodes := ns }
  | _ => .error .malformed

/-- Checks all collections in the order in which they were met. -/
def all (walk : Nat) : Nat → Visit → Except Error Visit
  | 0, _ => .error .malformed
  | fuel + 1, v =>
    match v.queue with
    | [] => .ok v
    | id :: queue =>
      match contents walk { v with queue := queue } id with
      | .error e => .error e
      | .ok v => all walk fuel v

end Visit

namespace Nodes

/-- The keys and values of entries, each key once. -/
def entriesOf (pairs : List (Value × Value)) : List (Value × Value) :=
  pairs.foldl (fun acc p => Value.insertEntry acc p.1 p.2) []

/-- The value of a node of a checked graph. The values that are known are kept by number, so each
node is looked at once; a collection that is met again inside itself is a cycle. -/
def value (ns : Nodes) : Nat → Nat → StateM (Array (Option Value)) Value
  | 0, _ => return .cycle
  | fuel + 1, id => do
    match (← get)[id]? with
    | some (some v) => return v
    | _ =>
      modify fun known => known.setIfInBounds id (some .cycle)
      let pair (e : Nat × Nat) : StateM (Array (Option Value)) (Value × Value) := do
        let k ← value ns fuel e.1
        let v ← value ns fuel e.2
        return (k, v)
      let v ← match ns[id]? with
        | some ⟨.sequence, .sequence items⟩ => Value.list <$> items.mapM (value ns fuel)
        | some ⟨.mapping, .mapping es⟩ => (Value.mapping ∘ entriesOf) <$> es.mapM pair
        | some ⟨.set, .mapping es⟩ =>
          (fun ps => Value.set ((entriesOf ps).map (·.1))) <$> es.mapM pair
        | some ⟨_, .sequence items⟩ =>
          let es := items.flatMap fun i => (ns.entries i).toOption.getD []
          (fun ps => Value.list (ps.map fun p => .list [p.1, p.2])) <$> es.mapM pair
        | _ => pure .null
      modify fun known => known.setIfInBounds id (some v)
      return v

end Nodes

/-- The value of a graph; a text without a document is the absent value. -/
def Graph.value (g : Graph) (length : Nat) : Except Error Value :=
  match g.root with
  | none => .ok .null
  | some root =>
    let size := g.nodes.size + length + 2
    let walk := size * size * size
    let checked : Except Error Visit :=
      match ({ nodes := g.nodes : Visit }).meet root with
      | .error e => .error e
      | .ok v => v.all walk (size + 1)
    match checked with
    | .error e => .error e
    | .ok v => .ok ((v.nodes.value (v.nodes.size + 1) root).run v.values).1

/-- The value of a file. -/
def read (octets : List UInt8) : Except Error Value :=
  match Supply.ofOctets octets with
  | .error e => .error e
  | .ok s =>
    match Graph.ofSupply s with
    | .error e => .error e
    | .ok g => g.value s.chars.length

end SourceAudit.Yaml
