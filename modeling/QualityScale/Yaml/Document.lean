import QualityScale.Yaml.Node
import QualityScale.Yaml.Plain

/-!
# Documents

The value of a document: plain scalars are resolved, aliases are followed, and the keys of a
mapping have to differ.

Aliases can make a short text stand for a huge value, so there is a limit on how often one is
followed; and since an anchor may enclose its own alias, there is a limit on the nesting.
-/

namespace QualityScale.Yaml

/-- How many collections may lie within each other. -/
def nestingLimit : Nat := 128

/-- How often aliases may be followed, for each mark of the document. -/
def repetitionLimit : Nat := 100

/-- What the aliases of a document stand for, and how many may be followed in all. -/
structure Aliases where
  targets : List (Nat × Node)
  limit : Nat

/-- The aliases of a document.  Of two nodes with one number, the last is meant. -/
def Aliases.ofNode (n : Node) : Aliases :=
  ⟨n.anchored.reverse, repetitionLimit * n.weight⟩

/-- Reading with a count of the aliases followed so far. -/
abbrev Resolve := StateT Nat (Except ReadError)

/-- The node itself, or the one that an alias stands for. -/
def follow (aliases : Aliases) : Node → Resolve Node
  | .aliasOf target => fun jumps =>
    if jumps < aliases.limit then
      match aliases.targets.lookup target with
      | some n => .ok (n, jumps + 1)
      | none => .error .unknownAnchor
    else .error .tooManyRepetitions
  | n => pure n

/-- The value of a scalar without a local tag. -/
def scalarValue (tag : Option Tag) (text : String) (plain : Bool) : Except ReadError Value :=
  match tag with
  | none | some (.named _) => if plain then Value.ofPlain text else .ok (.string text)
  | some .other => .ok (.string text)
  | some .bool =>
    match boolOf? text with
    | some b => .ok (.bool b)
    | none => .error .tagMismatch
  | some .null => if isNullText text then .ok .null else .error .tagMismatch
  | some .int =>
    match readWhole text.toList with
    | .fits n => .ok (.number (.whole n))
    | .tooLarge => .error .numberOutOfRange
    | .notWhole => .error .tagMismatch
  | some .float =>
    match realOf? text with
    | some x => .ok (.number (.real x))
    | none => .error .tagMismatch

/-- The value under the local tag of a node, if it has one. -/
def underTag (tag : Option Tag) (v : Value) : Value :=
  match tag with
  | some (.named name) => .tagged name v
  | _ => v

/-- Whether no two entries have the same key. -/
def distinctKeys : List (Value × Value) → Bool
  | [] => true
  | e :: es => es.all (fun f => !e.1.same f.1) && distinctKeys es

/-- The value of a node that is neither an alias nor a collection. -/
def Value.ofLeaf : Node → Resolve Value
  | .aliasOf _ => throw .unknownAnchor
  | .scalar p text plain => return underTag p.tag (← scalarValue p.tag text plain)
  | .sequence .. | .mapping .. => throw .nestedTooDeep

/-- The value of an entry, given how the nodes below a collection are read. -/
def Value.ofEntry (below : Node → Resolve Value) (e : Node × Node) : Resolve (Value × Value) := do
  return (← below e.1, ← below e.2)

/-- The value of a node that is no alias, given how the nodes below a collection are read. -/
def Value.ofTarget (below : Node → Resolve Value) : Node → Resolve Value
  | .sequence p items => return underTag p.tag (.sequence (← items.mapM below))
  | .mapping p entries => do
    let entries ← entries.mapM (ofEntry below)
    if distinctKeys entries then return underTag p.tag (.mapping entries)
    else throw .duplicateKey
  | n => ofLeaf n

/-- The value of a node within which `depth` collections may lie within each other. -/
def Value.ofNode (aliases : Aliases) : Nat → Node → Resolve Value
  | 0, n => follow aliases n >>= ofLeaf
  | depth + 1, n => follow aliases n >>= ofTarget (ofNode aliases depth)

/-- The value of a document. -/
def Value.ofDocument (n : Node) : Except ReadError Value :=
  (Value.ofNode (.ofNode n) nestingLimit n).run' 0

/-- The value that a text stands for; an empty text stands for nothing. -/
def Value.read? (text : String) : Except ReadError Value := do
  match ← Node.read? text with
  | none => return .null
  | some n => Value.ofDocument n

end QualityScale.Yaml
