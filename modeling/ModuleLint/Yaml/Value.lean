import ModuleLint.Data.Order
import ModuleLint.Text.Base64
import ModuleLint.Yaml.Node

/-!
# Values of nodes

What a tree of nodes stands for. Nodes are evaluated level by level, so of several faults the
one that lies least deep shows, and among these the first.
-/

namespace ModuleLint.Yaml

/-- A value, or a fault together with the depth at which it lies. -/
abbrev Outcome (α : Type) := Except (Nat × Fault) α

namespace Outcome

/-- A malformation at the current depth. -/
def malformed {α : Type} (m : Malformation) : Outcome α :=
  .error (0, .malformed m)

/-- What is evaluated one level deeper. -/
def deeper {α : Type} : Outcome α → Outcome α
  | .ok a => .ok a
  | .error (depth, fault) => .error (depth + 1, fault)

/-- Two values, or the fault that lies less deep, the first of two at one depth. -/
def both {α β : Type} : Outcome α → Outcome β → Outcome (α × β)
  | .ok a, .ok b => .ok (a, b)
  | .ok _, .error e => .error e
  | .error e, .ok _ => .error e
  | .error (d, f), .error (e, g) => .error (if e < d then (e, g) else (d, f))

/-- A value at the current depth. -/
def ofExcept {α : Type} (r : Except Fault α) : Outcome α :=
  r.mapError fun fault => (0, fault)

/-- A key, which is no collection. -/
def asKey : Outcome Data → Outcome Data
  | .ok d => if d.isKey then .ok d else malformed .compoundKey
  | .error (0, fault) => .error (0, fault)
  | .error (_ + 1, _) => malformed .compoundKey

end Outcome

/-- The truth value that a scalar writes. -/
def truthOf (text : String) : Except Fault Bool :=
  let word := text.toLower
  if word == "yes" || word == "true" || word == "on" then .ok true
  else if word == "no" || word == "false" || word == "off" then .ok false
  else .error .notTruth

/-- The bytes that a scalar writes in base 64. -/
def binaryOf (text : String) : Except Fault (List UInt8) :=
  let cs := text.toList
  if cs.all (·.toNat < 128) then
    match Text.Base64.decode? cs with
    | some bytes => .ok bytes
    | none => .error (.malformed .badBinary)
  else .error (.malformed .badBinary)

/-- The value that a text stands for under a tag of scalars. -/
def scalarData (tag : Tag) (text : String) : Except Fault Data :=
  match tag with
  | .null => .ok .null
  | .bool => (truthOf text).map .bool
  | .int => (integerOf text).map .int
  | .float => (fractionalOf text).map .float
  | .binary => (binaryOf text).map .bytes
  | .time => timeOf text
  | .text => .ok (.text text)
  | .merge => .error (.malformed (.unknownTag (tagNamespace ++ "merge")))
  | .value => .error (.malformed (.unknownTag (tagNamespace ++ "value")))
  | .other name => .error (.malformed (.unknownTag name))
  | _ => .error (.malformed .unsuitableTag)

/-- Whether a tag is one of collections. -/
def Tag.isCollection : Tag → Bool
  | sequence | mapping | set | orderedMapping | pairs => true
  | _ => false

mutual

/-- The text that a node stands for as a scalar. A mapping stands for its value under the key
`=`. -/
def Node.scalarText? : Node → Option String
  | .scalar _ text => some text
  | .mapping _ entries => scalarEntry? entries
  | _ => none

/-- The text of the first entry whose key is `=`. -/
def scalarEntry? : List (Node × Node) → Option String
  | [] => none
  | (key, value) :: es => if key.tag == .value then value.scalarText? else scalarEntry? es

end

mutual

/-- Whether what the merge keys of a mapping merge into it are mappings. -/
def canMerge : List (Node × Node) → Bool
  | [] => true
  | (key, value) :: es => (key.tag != .merge || mergeable value) && canMerge es

/-- Whether a node can be merged into a mapping. -/
def mergeable : Node → Bool
  | .mapping _ entries => canMerge entries
  | .sequence _ items => allMergeable items
  | .loop isMapping => isMapping
  | .scalar _ _ => false

/-- Whether all nodes are mappings that can be merged into one. -/
def allMergeable : List Node → Bool
  | [] => true
  | .mapping _ entries :: ns => canMerge entries && allMergeable ns
  | .loop isMapping :: ns => isMapping && allMergeable ns
  | _ :: _ => false

end

mutual

/-- The value of a node. -/
def Node.data : Node → Outcome Data
  | .loop isMapping => .ok (.loop isMapping)
  | .scalar tag text =>
    if tag.isCollection then (Outcome.malformed .unsuitableTag).deeper
    else .ofExcept (scalarData tag text)
  | .sequence tag items =>
    match tag with
    | .sequence => (itemsData items).deeper.map .list
    | .orderedMapping => (pairsData items).deeper.map .list
    | .pairs => (pairsData items).deeper.map .list
    | .other name => .malformed (.unknownTag name)
    | .mapping | .set => (Outcome.malformed .unsuitableTag).deeper
    | _ => .malformed .unsuitableTag
  | .mapping tag entries =>
    match tag with
    | .mapping => (mappingData entries).deeper.map fun es => .mapping (Data.entriesOf es)
    | .set =>
      (mappingData entries).deeper.map fun es => .set ((Data.entriesOf es).map (·.1))
    | .sequence | .orderedMapping | .pairs => (Outcome.malformed .unsuitableTag).deeper
    | .other name => .malformed (.unknownTag name)
    | tag =>
      match scalarEntry? entries with
      | some text => .ofExcept (scalarData tag text)
      | none => .malformed .unsuitableTag

/-- The values of nodes. -/
def itemsData : List Node → Outcome (List Data)
  | [] => .ok []
  | n :: ns => (Outcome.both n.data (itemsData ns)).map fun (d, ds) => d :: ds

/-- The pairs of mappings with one entry each. -/
def pairsData : List Node → Outcome (List Data)
  | [] => .ok []
  | .mapping _ [(key, value)] :: ns =>
    let pair := (Outcome.both key.data value.data).map fun (k, v) => Data.pair k v
    (Outcome.both pair (pairsData ns)).map fun (d, ds) => d :: ds
  | _ :: _ => .malformed .unsuitableTag

/-- The entries of a mapping: first what is merged into it, then its own. -/
def mappingData (entries : List (Node × Node)) : Outcome (List (Data × Data)) :=
  if canMerge entries then
    (Outcome.both (mergedData entries) (ownData entries)).map fun (merged, own) => merged ++ own
  else .malformed .badMerge

/-- The entries of a mapping without what is merged into it. As a key `=` is a text like any
other. -/
def ownData : List (Node × Node) → Outcome (List (Data × Data))
  | [] => .ok []
  | (key, value) :: es =>
    if key.tag == .merge then ownData es
    else
      let k := match key with
        | .scalar .value text => .ok (.text text)
        | key => Outcome.asKey key.data
      (Outcome.both (Outcome.both k value.data) (ownData es)).map fun (e, es) => e :: es

/-- What is merged into a mapping. -/
def mergedData : List (Node × Node) → Outcome (List (Data × Data))
  | [] => .ok []
  | (key, value) :: es =>
    if key.tag == .merge then
      (Outcome.both (mergedNode value) (mergedData es)).map fun (d, ds) => d ++ ds
    else mergedData es

/-- The entries that a node merges into a mapping. -/
def mergedNode : Node → Outcome (List (Data × Data))
  | .mapping _ entries => mappingData entries
  | .sequence _ items => mergedItems items
  | _ => .ok []

/-- The entries that a list of nodes merges into a mapping, those of the last node first. -/
def mergedItems : List Node → Outcome (List (Data × Data))
  | [] => .ok []
  | n :: ns => (Outcome.both (mergedNode n) (mergedItems ns)).map fun (d, ds) => ds ++ d

end

/-- The value of a text, or the first fault in it. A text without a document is null. -/
def read (text : String) : Except Fault Data := do
  let ts ← tokens text.toList
  match ← Node.ofTokens? ts with
  | none => return .null
  | some root => root.data.mapError (·.2)

end ModuleLint.Yaml
