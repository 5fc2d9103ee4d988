import QualityScale.Yaml.Token

/-!
# Nodes

A YAML document as a tree of nodes, as it was written: scalars are texts, anchors are numbered,
and an alias names the number that its anchor had at that point.

The reader follows the grammar by recursive descent.  A node that is only a tag or an anchor is an
empty scalar, and so is a key or value that is left out.
-/

namespace QualityScale.Yaml

/-- What may stand before the content of a node. -/
structure Properties where
  anchor : Option Nat := none
  tag : Option Tag := none
  deriving DecidableEq, Repr

/-- A node of a document. -/
inductive Node where
  | aliasOf (target : Nat)
  | scalar (properties : Properties) (text : String) (plain : Bool)
  | sequence (properties : Properties) (items : List Node)
  | mapping (properties : Properties) (entries : List (Node × Node))
  deriving Inhabited

namespace Node

/-- The scalar that stands for something left out. -/
def blank : Node :=
  scalar {} "" true

/-! ## Reading -/

/-- The tokens to come and the names of the anchors met so far, each with its number. -/
structure Stream where
  tokens : List Token
  anchors : List (List Char × Nat) := []

namespace Stream

/-- The next token. -/
def next? (s : Stream) : Option Token :=
  s.tokens.head?

/-- The stream after its next token. -/
def skip (s : Stream) : Stream :=
  { s with tokens := s.tokens.drop 1 }

/-- Whether the next token is one of these. -/
def isAt (s : Stream) (tokens : List Token) : Bool :=
  s.next?.any tokens.contains

/--
The number of a new anchor: how many names there were before.  A name that is used again takes
the new number, so the next new name may get that number as well.
-/
def withAnchor (s : Stream) (name : List Char) : Nat × Stream :=
  let id := s.anchors.length
  (id, { s with anchors := (name, id) :: s.anchors.filter fun a => a.1 ≠ name })

end Stream

/-- What a tag says, if its handle is known. -/
def tagOf (handles : Handles) (t : TagText) : Except ReadError (Option Tag) :=
  match t.address? handles with
  | none => .error .undefinedTagHandle
  | some address => .ok (Tag.ofAddress? address)

/-- The name of an anchor and a tag, each at most once and in any order. -/
def takeProperties (tokens : List Token) : Option (List Char) × Option TagText × List Token :=
  match tokens with
  | .anchor name :: .tag tag :: rest => (some name, some tag, rest)
  | .anchor name :: rest => (some name, none, rest)
  | .tag tag :: .anchor name :: rest => (some name, some tag, rest)
  | .tag tag :: rest => (none, some tag, rest)
  | rest => (none, none, rest)

/-- Where a node may stand. -/
inductive Place where
  | block
  /-- The key or value of a block mapping, where a sequence may lack an indentation of its own. -/
  | entry
  | flow
  deriving DecidableEq

mutual

/-- A node. -/
def readAt (handles : Handles) (place : Place) : Nat → Stream → Except ReadError (Node × Stream)
  | 0, _ => .error .expectedNode
  | fuel + 1, s =>
    match s.tokens with
    | .aliasOf name :: _ =>
      match s.anchors.lookup name with
      | some id => .ok (.aliasOf id, s.skip)
      | none => .error .unknownAnchor
    | _ => do
      let (name, written, tokens) := takeProperties s.tokens
      let tag ← match written with
        | some t => tagOf handles t
        | none => pure none
      let s := { s with tokens }
      let (anchor, named) := match name with
        | some name => let (id, s) := s.withAnchor name; (some id, s)
        | none => (none, s)
      let properties : Properties := { anchor, tag }
      match s.next?, place with
      | some .blockEntry, .entry =>
        let (items, s) ← readItems handles true fuel named
        return (.sequence properties items, s)
      | some (.scalar text plain), _ =>
        return (.scalar properties (String.ofList text) plain, named.skip)
      | some .flowSequenceStart, _ =>
        let (items, s) ← readFlowItems handles true fuel named.skip
        return (.sequence properties items, s)
      | some .flowMappingStart, _ =>
        let (entries, s) ← readFlowEntries handles true fuel named.skip
        return (.mapping properties entries, s)
      | some .blockSequenceStart, .block | some .blockSequenceStart, .entry =>
        let (items, s) ← readItems handles false fuel named.skip
        return (.sequence properties items, s)
      | some .blockMappingStart, .block | some .blockMappingStart, .entry =>
        let (entries, s) ← readEntries handles fuel named.skip
        return (.mapping properties entries, s)
      | _, _ =>
        if name.isSome || written.isSome then return (.scalar properties "" true, named)
        else throw .expectedNode

/-- A node, or nothing where one of the given tokens comes next. -/
def readUnless (handles : Handles) (place : Place) (ends : List Token) :
    Nat → Stream → Except ReadError (Node × Stream)
  | 0, _ => .error .expectedNode
  | fuel + 1, s => if s.isAt ends then .ok (blank, s) else readAt handles place fuel s

/-- The items of a block sequence; an indentless one has no end of its own. -/
def readItems (handles : Handles) (indentless : Bool) :
    Nat → Stream → Except ReadError (List Node × Stream)
  | 0, _ => .error .expectedEntry
  | fuel + 1, s =>
    if s.isAt [.blockEntry] then do
      let ends := if indentless then [Token.blockEntry, .key, .value, .blockEnd]
        else [Token.blockEntry, .blockEnd]
      let (item, s) ← readUnless handles .block ends fuel s.skip
      let (items, s) ← readItems handles indentless fuel s
      return (item :: items, s)
    else if indentless then .ok ([], s)
    else if s.isAt [.blockEnd] then .ok ([], s.skip)
    else .error .expectedEntry

/-- The entries of a block mapping. -/
def readEntries (handles : Handles) : Nat → Stream → Except ReadError (List (Node × Node) × Stream)
  | 0, _ => .error .expectedKey
  | fuel + 1, s =>
    if s.isAt [.blockEnd] then .ok ([], s.skip)
    else do
      let ends := [Token.key, .value, .blockEnd]
      if !s.isAt [.key] then throw .expectedKey
      let (key, s) ← readUnless handles .entry ends fuel s.skip
      let (value, s) ←
        if s.isAt [.value] then readUnless handles .entry ends fuel s.skip else pure (blank, s)
      let (entries, s) ← readEntries handles fuel s
      return ((key, value) :: entries, s)

/-- The items of a sequence in brackets; an item may be a mapping with one entry. -/
def readFlowItems (handles : Handles) (first : Bool) :
    Nat → Stream → Except ReadError (List Node × Stream)
  | 0, _ => .error .expectedCommaOrClose
  | fuel + 1, s => do
    if s.isAt [.flowSequenceEnd] then return ([], s.skip)
    if !first && !s.isAt [.flowEntry] then throw .expectedCommaOrClose
    let s := if first then s else s.skip
    if s.isAt [.flowSequenceEnd] then return ([], s.skip)
    let (item, s) ←
      if s.isAt [.key] then readPair handles fuel s.skip else readAt handles .flow fuel s
    let (items, s) ← readFlowItems handles false fuel s
    return (item :: items, s)

/--
A mapping with one entry within brackets, after the mark of its key.  Where the key is left out,
the token that shows this is passed over.
-/
def readPair (handles : Handles) : Nat → Stream → Except ReadError (Node × Stream)
  | 0, _ => .error .expectedCommaOrClose
  | fuel + 1, s => do
    let ends := [Token.flowEntry, .flowSequenceEnd]
    let (key, s) ←
      if s.isAt (.value :: ends) then pure (blank, s.skip) else readAt handles .flow fuel s
    let (value, s) ←
      if s.isAt [.value] then readUnless handles .flow ends fuel s.skip else pure (blank, s)
    return (.mapping {} [(key, value)], s)

/-- The entries of a mapping in braces; the value of an entry may be left out. -/
def readFlowEntries (handles : Handles) (first : Bool) :
    Nat → Stream → Except ReadError (List (Node × Node) × Stream)
  | 0, _ => .error .expectedCommaOrClose
  | fuel + 1, s => do
    if s.isAt [.flowMappingEnd] then return ([], s.skip)
    if !first && !s.isAt [.flowEntry] then throw .expectedCommaOrClose
    let s := if first then s else s.skip
    if s.isAt [.flowMappingEnd] then return ([], s.skip)
    let ends := [Token.flowEntry, .flowMappingEnd]
    let (key, value, s) ←
      if s.isAt [.key] then do
        let (key, s) ← readUnless handles .flow (.value :: ends) fuel s.skip
        let (value, s) ←
          if s.isAt [.value] then readUnless handles .flow ends fuel s.skip else pure (blank, s)
        pure (key, value, s)
      else do
        let (key, s) ← readAt handles .flow fuel s
        pure (key, blank, s)
    let (entries, s) ← readFlowEntries handles false fuel s
    return ((key, value) :: entries, s)

end

/-- The directives at the start of a document, and the tokens after them. -/
def takeDirectives : List Token → Bool → Handles → Except ReadError (Handles × List Token)
  | .version major minor :: rest, seen, handles =>
    if seen then .error .duplicateDirective
    else if major = 1 ∧ (minor = 1 ∨ minor = 2) then takeDirectives rest true handles
    else .error .incompatibleVersion
  | .handle name start :: rest, seen, handles =>
    if (handles.lookup name).isSome then .error .duplicateDirective
    else takeDirectives rest seen (handles ++ [(name, start)])
  | rest, _, handles => .ok (handles, rest)

/-- Whether a token ends the content of a document. -/
def endsContent : Token → Bool
  | .documentStart | .documentEnd | .version .. | .handle .. => true
  | _ => false

/-- The document that the tokens hold; `none` if there is nothing. -/
def ofTokens? (tokens : List Token) : Except ReadError (Option Node) := do
  if tokens.isEmpty then return none
  let (handles, rest) ← takeDirectives tokens false []
  let explicit := rest.head? = some .documentStart
  if !explicit && rest.length < tokens.length then throw .expectedDocumentStart
  let rest := if explicit then rest.drop 1 else rest
  let (node, s) ←
    if explicit && rest.head?.all endsContent then pure (blank, { tokens := rest : Stream })
    else readAt (handles ++ defaultHandles) .block (2 * rest.length + 4) { tokens := rest }
  match s.tokens.dropWhile (· == .documentEnd) with
  | [] => return some node
  | _ => throw .severalDocuments

/-- The document that a text holds; `none` if there is nothing. -/
def read? (text : String) : Except ReadError (Option Node) := do
  ofTokens? (← Token.scan text.toList)

/-! ## Anchors -/

mutual

/-- The nodes with an anchor, in the order of the document, each with its number. -/
def anchored : Node → List (Nat × Node)
  | aliasOf _ => []
  | scalar p text plain => (p.anchor.map (·, scalar p text plain)).toList
  | sequence p items => (p.anchor.map (·, sequence p items)).toList ++ anchoredItems items
  | mapping p entries => (p.anchor.map (·, mapping p entries)).toList ++ anchoredEntries entries

/-- The nodes with an anchor within items. -/
def anchoredItems : List Node → List (Nat × Node)
  | [] => []
  | n :: ns => n.anchored ++ anchoredItems ns

/-- The nodes with an anchor within entries. -/
def anchoredEntries : List (Node × Node) → List (Nat × Node)
  | [] => []
  | (k, v) :: es => k.anchored ++ (v.anchored ++ anchoredEntries es)

end

mutual

/-- How many marks a document with this node has: one for a scalar, two around a collection. -/
def weight : Node → Nat
  | aliasOf _ | scalar .. => 1
  | sequence _ items => 2 + itemsWeight items
  | mapping _ entries => 2 + entriesWeight entries

/-- The weight of items. -/
def itemsWeight : List Node → Nat
  | [] => 0
  | n :: ns => n.weight + itemsWeight ns

/-- The weight of entries. -/
def entriesWeight : List (Node × Node) → Nat
  | [] => 0
  | (k, v) :: es => k.weight + (v.weight + entriesWeight es)

end

end Node

end QualityScale.Yaml
