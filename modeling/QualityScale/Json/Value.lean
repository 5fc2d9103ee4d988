import QualityScale.Decimal.Number
import QualityScale.NameMap

/-!
# JSON values

What a JSON text stands for.  The fields of an object come in the order in which they are to be
written; those of an object that was read have ascending keys, one field for each key.
-/

namespace QualityScale.Json

/-- A JSON value. -/
inductive Value where
  | null
  | bool (b : Bool)
  | number (n : Number)
  | string (s : String)
  | array (items : List Value)
  | object (fields : List (String × Value))
  deriving Inhabited

namespace Value

/-- An object with the given fields; of two fields with one key, the last counts. -/
def ofFields (fields : List (String × Value)) : Value :=
  .object (fields.foldl (fun m f => NameMap.place f.1 f.2 m) [])

/-- The value of a key, if this is an object that has it. -/
def get? : Value → String → Option Value
  | .object fields, key => fields.lookup key
  | _, _ => none

/-- The truth value that this is, if it is one. -/
def bool? : Value → Option Bool
  | .bool b => some b
  | _ => none

/-- A whole number as a value. -/
def ofNat (n : Nat) : Value :=
  .number (.whole n)

end Value

end QualityScale.Json
