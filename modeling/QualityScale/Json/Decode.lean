import QualityScale.Json.Node.Reader

/-!
# Decoding

Ways to read domain values from the tree of a JSON text.

A constant is a string, or an object with the constant's name as its only key and null under it.
A record is an object, or an array of its fields in their order.  Unknown fields of an object are
passed over, and a known field may come once.
-/

namespace QualityScale.Json.Node

variable {α : Type}

/-- The text that this is. -/
def text? : Node → Option String
  | .string pieces => pieceText? pieces
  | _ => none

/-- The texts, or other values, that this is an array of. -/
def list? (item : Node → Option α) : Node → Option (List α)
  | .array items => items.mapM item
  | _ => none

/-- What this is, or nothing for null. -/
def optional? (value : Node → Option α) : Node → Option (Option α)
  | .null => some none
  | n => (value n).map some

/-- A name, with the tree under it if this is an object with one field. -/
def variant? : Node → Option (String × Option Node)
  | .string pieces => (pieceText? pieces).map (·, none)
  | .object [(key, n)] => (pieceText? key).map (·, some n)
  | _ => none

/-- The name of the constant that this is. -/
def constant? (n : Node) : Option String :=
  match n.variant? with
  | some (name, none) | some (name, some .null) => some name
  | _ => none

/-- The whole number that this is, if it has no sign, point or exponent and fits 64 bits. -/
def count? : Node → Option Nat
  | .number n =>
    match n.negative, n.number? with
    | false, some (.whole k) => some k.toNat
    | _, _ => none
  | _ => none

/-- The fields of a record. -/
structure Fields where
  /-- Whether the record is an array. -/
  positional : Bool
  /-- For each name of a field, the field if it is there. -/
  nodes : List (Option Node)

/-- The only field with a name, if it is there; fails if it comes twice. -/
def single? (fields : List (String × Node)) (name : String) : Option (Option Node) :=
  match fields.filter (·.1 == name) with
  | [] => some none
  | [field] => some (some field.2)
  | _ => none

/-- The record that this is, with fields of the given names. -/
def record? (names : List String) : Node → Option Fields
  | .array items =>
    if items.length ≤ names.length then
      some ⟨true, items.map some ++ List.replicate (names.length - items.length) none⟩
    else none
  | .object fields => do
    let fields ← fields.mapM fun f => (pieceText? f.1).map (·, f.2)
    return ⟨false, ← names.mapM (single? fields)⟩
  | _ => none

/-- The two fields of a record. -/
def pair? (first second : String) (n : Node) : Option (Bool × Option Node × Option Node) :=
  match n.record? [first, second] with
  | some ⟨positional, [x, y]⟩ => some (positional, x, y)
  | _ => none

end QualityScale.Json.Node
