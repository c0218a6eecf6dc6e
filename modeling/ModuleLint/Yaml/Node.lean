import ModuleLint.Yaml.Tag
import ModuleLint.Yaml.Token

/-!
# Nodes

The tokens of a text make a tree of nodes. A node is a scalar, a sequence or a mapping, and has
a tag. An alias is replaced by the node with its anchor; where that node is not complete yet,
because the alias lies inside it, the alias stays as a loop.
-/

namespace ModuleLint.Yaml

/-- A node. -/
inductive Node
  | scalar (tag : Tag) (text : String)
  | sequence (tag : Tag) (items : List Node)
  | mapping (tag : Tag) (entries : List (Node × Node))
  /-- The sequence or the mapping that this node lies in. -/
  | loop (isMapping : Bool)
  deriving Inhabited, Repr

/-- The tag of a node. -/
def Node.tag : Node → Tag
  | scalar tag _ => tag
  | sequence tag _ => tag
  | mapping tag _ => tag
  | loop isMapping => if isMapping then .mapping else .sequence

/-- The node that stands where there is none. -/
def Node.empty : Node := .scalar .null ""

/-- What is known while nodes are made. -/
structure Nodes where
  /-- The tokens that are left. -/
  tokens : List Token
  /-- What the handles of tags stand for. -/
  handles : List (String × String)
  /-- The nodes by anchor, the latest first. -/
  anchors : List (String × Node) := []

/-- The anchor and the tag before a node. -/
structure Properties where
  /-- The anchor. -/
  anchor : Option String := none
  /-- The name of the tag. -/
  tag : Option String := none

/-- Makes something of the tokens. -/
abbrev Maker (α : Type) := StateT Nodes (Except Fault) α

namespace Maker

/-- Fails. -/
def fail {α : Type} (m : Malformation) : Maker α :=
  throw (.malformed m)

/-- The next token, if there is one. -/
def peek : Maker (Option Token) := do
  return (← get).tokens.head?

/-- Passes over the next token. -/
def advance : Maker Unit :=
  modify fun s => { s with tokens := s.tokens.tail }

/-- Whether the next token is the given one; if so, passes over it. -/
def accept (t : Token) : Maker Bool := do
  if (← peek) == some t then
    advance
    return true
  else return false

/-- Whether the next token is one of the given ones. -/
def atOneOf (ts : List Token) : Maker Bool := do
  match ← peek with
  | some t => return ts.contains t
  | none => return false

/-- Passes over a token that must come next. -/
def expect (t : Token) : Maker Unit := do
  if !(← accept t) then fail .unexpectedPiece

/-- Notes the node of an anchor. -/
def note (anchor : Option String) (node : Node) : Maker Unit :=
  match anchor with
  | some name => modify fun s => { s with anchors := (name, node) :: s.anchors }
  | none => pure ()

/-- The name of a tag in full. -/
def tagName (tag : WrittenTag) : Maker String := do
  match tag.handle with
  | none => return tag.suffix
  | some handle =>
    match (← get).handles.lookup handle with
    | some expansion => return expansion ++ tag.suffix
    | none => fail (.undefinedHandle handle)

/-- The anchor that comes next, if one does. -/
def anchor? : Maker (Option String) := do
  match ← peek with
  | some (.anchor name) =>
    advance
    return some name
  | _ => return none

/-- The tag that comes next, if one does. -/
def tag? : Maker (Option WrittenTag) := do
  match ← peek with
  | some (.tag tag) =>
    advance
    return some tag
  | _ => return none

/-- The properties that come next, in either order. -/
def properties : Maker Properties := do
  let first ← anchor?
  let tag ← tag?
  let anchor ← if first.isSome then pure first else anchor?
  let tag ← match tag with
    | some tag => (tagName tag).map some
    | none => pure none
  match anchor with
  | some name =>
    if ((← get).anchors.lookup name).isSome then fail (.repeatedAnchor name)
    else return ⟨some name, tag⟩
  | none => return ⟨none, tag⟩

/-- The tag of a scalar. The tag `!` means that the text decides. -/
def scalarTag (tag : Option String) (plain : Bool) (text : String) : Tag :=
  match tag with
  | none => if plain then Tag.ofPlain text else Tag.text
  | some "!" => Tag.ofPlain text
  | some name => Tag.ofName name

/-- The tag of a collection. -/
def collectionTag (tag : Option String) (default : Tag) : Tag :=
  match tag with
  | none => default
  | some "!" => default
  | some name => Tag.ofName name

/-- Where a node stands. -/
inductive Place
  /-- Inside brackets. -/
  | flow
  /-- Outside of brackets. -/
  | block
  /-- A key or a value of a mapping outside of brackets, where the dashes of a sequence need not
  be indented. -/
  | entry
  deriving DecidableEq

/-- Tokens before which a key or a value of a mapping outside of brackets is missing. -/
def blockStops : List Token := [.key, .value, .blockEnd]

mutual

/-- The node that comes next; `fuel` bounds the depth of calls here and below. -/
def node (place : Place) : Nat → Maker Node
  | 0 => fail .unexpectedPiece
  | fuel + 1 => do
    match ← peek with
    | some (.alias_ name) =>
      advance
      match (← get).anchors.lookup name with
      | some node => return node
      | none => fail (.undefinedAnchor name)
    | _ =>
      let props ← properties
      let whole ← match ← peek with
        | some .blockEntry =>
          if place == .entry then do
            note props.anchor (.loop false)
            let items ← dashes fuel
            pure (Node.sequence (collectionTag props.tag .sequence) items)
          else bare props
        | some (.scalar plain text) =>
          advance
          pure (Node.scalar (scalarTag props.tag plain text) text)
        | some .flowSequenceStart =>
          advance
          note props.anchor (.loop false)
          let items ← flowItems true fuel
          pure (Node.sequence (collectionTag props.tag .sequence) items)
        | some .flowMappingStart =>
          advance
          note props.anchor (.loop true)
          let entries ← flowEntries true fuel
          pure (Node.mapping (collectionTag props.tag .mapping) entries)
        | some .blockSequenceStart =>
          if place == .flow then bare props
          else do
            advance
            note props.anchor (.loop false)
            let items ← blockItems fuel
            pure (Node.sequence (collectionTag props.tag .sequence) items)
        | some .blockMappingStart =>
          if place == .flow then bare props
          else do
            advance
            note props.anchor (.loop true)
            let entries ← blockEntries fuel
            pure (Node.mapping (collectionTag props.tag .mapping) entries)
        | _ => bare props
      note props.anchor whole
      return whole

/-- The node of properties that nothing follows. -/
def bare (props : Properties) : Maker Node :=
  if props.anchor.isNone && props.tag.isNone then fail .unexpectedPiece
  else return Node.scalar (scalarTag props.tag true "") ""

/-- A node, or the empty node before one of the given tokens. -/
def nodeUnless (place : Place) (stops : List Token) : Nat → Maker Node
  | 0 => fail .unexpectedPiece
  | fuel + 1 => do
    if ← atOneOf stops then return Node.empty else node place fuel

/-- The items after dashes that are not indented. -/
def dashes : Nat → Maker (List Node)
  | 0 => fail .unexpectedPiece
  | fuel + 1 => do
    if ← accept .blockEntry then
      let item ← nodeUnless .block (.blockEntry :: blockStops) fuel
      return item :: (← dashes fuel)
    else return []

/-- The items of a sequence outside of brackets. -/
def blockItems : Nat → Maker (List Node)
  | 0 => fail .unexpectedPiece
  | fuel + 1 => do
    if ← accept .blockEntry then
      let item ← nodeUnless .block [.blockEntry, .blockEnd] fuel
      return item :: (← blockItems fuel)
    else
      expect .blockEnd
      return []

/-- The entries of a mapping outside of brackets. -/
def blockEntries : Nat → Maker (List (Node × Node))
  | 0 => fail .unexpectedPiece
  | fuel + 1 => do
    if ← accept .blockEnd then return []
    else
      expect .key
      let key ← nodeUnless .entry blockStops fuel
      let value ← if ← accept .value then nodeUnless .entry blockStops fuel
        else pure Node.empty
      return (key, value) :: (← blockEntries fuel)

/-- The items of a sequence in brackets up to its end. An item may be a pair of a key and a
value. -/
def flowItems (first : Bool) : Nat → Maker (List Node)
  | 0 => fail .unexpectedPiece
  | fuel + 1 => do
    if ← accept .flowSequenceEnd then return []
    else
      if !first then expect .flowEntry
      if ← accept .flowSequenceEnd then return []
      else if ← accept .key then
        let key ← nodeUnless .flow [.value, .flowEntry, .flowSequenceEnd] fuel
        let value ← if ← accept .value then nodeUnless .flow [.flowEntry, .flowSequenceEnd] fuel
          else pure Node.empty
        let item := Node.mapping .mapping [(key, value)]
        return item :: (← flowItems false fuel)
      else
        let item ← node .flow fuel
        return item :: (← flowItems false fuel)

/-- The entries of a mapping in brackets up to its end. A key may have no value. -/
def flowEntries (first : Bool) : Nat → Maker (List (Node × Node))
  | 0 => fail .unexpectedPiece
  | fuel + 1 => do
    if ← accept .flowMappingEnd then return []
    else
      if !first then expect .flowEntry
      if ← accept .flowMappingEnd then return []
      else if ← accept .key then
        let key ← nodeUnless .flow [.value, .flowEntry, .flowMappingEnd] fuel
        let value ← if ← accept .value then nodeUnless .flow [.flowEntry, .flowMappingEnd] fuel
          else pure Node.empty
        return (key, value) :: (← flowEntries false fuel)
      else
        let key ← node .flow fuel
        return (key, Node.empty) :: (← flowEntries false fuel)

end

/-- What the handles of tags stand for unless a directive says otherwise. -/
def defaultHandles : List (String × String) := [("!", "!"), ("!!", tagNamespace)]

/-- What the directives before a document say of handles. The version is one, and neither it nor
a handle is given twice. -/
def directives (versioned : Bool) (handles : List (String × String)) :
    List Token → Except Fault (List (String × String) × List Token)
  | .directive (.version major _) :: ts =>
    if versioned || major ≠ 1 then .error (.malformed .badDirective)
    else directives true handles ts
  | .directive (.handle handle expansion) :: ts =>
    if (handles.lookup handle).isSome then .error (.malformed .badDirective)
    else directives versioned ((handle, expansion) :: handles) ts
  | .directive .other :: ts => directives versioned handles ts
  | ts => .ok (handles ++ defaultHandles, ts)

/-- Whether a token stands between documents. -/
def isDocumentMark : Token → Bool
  | .directive _ => true
  | .documentStart => true
  | .documentEnd => true
  | _ => false

/-- The root node of the tokens of one document, and the tokens after it. -/
def document (handles : List (String × String)) (ts : List Token) :
    Except Fault (Node × List Token) := do
  let (root, s) ← (node .block (4 * ts.length + 4)).run ⟨ts, handles, []⟩
  return (root, s.tokens)

end Maker

/-- Whether nothing but marks of an end is left after a document. -/
def endsThere (ts : List Token) : Bool :=
  ts.all (· == .documentEnd)

/-- The root node of a text, or `none` if the text has no document. A text has one at most. -/
def Node.ofTokens? (ts : List Token) : Except Fault (Option Node) :=
  let finish : Node × List Token → Except Fault (Option Node) := fun (root, rest) =>
    if endsThere rest then .ok (some root)
    else if rest.head?.any Maker.isDocumentMark then .error (.malformed .secondDocument)
    else .error (.malformed .unexpectedPiece)
  match ts with
  | [] => .ok none
  | t :: _ =>
    if Maker.isDocumentMark t then do
      let (handles, ts) ← Maker.directives false [] ts
      match ts with
      | .documentStart :: ts =>
        if ts.head?.all Maker.isDocumentMark then finish (Node.empty, ts)
        else finish (← Maker.document handles ts)
      | _ => throw (.malformed .unexpectedPiece)
    else do finish (← Maker.document Maker.defaultHandles ts)

end ModuleLint.Yaml
