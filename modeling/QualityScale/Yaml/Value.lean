import QualityScale.Decimal.Number

/-!
# YAML values

What a YAML document stands for.  A mapping keeps its entries in the order of the document, its
keys are values of any kind, and a local tag stays on the value that it was written on.

Two ways of looking at a value are kept apart.  The functions whose names begin with `as` look
through tags; a match on the constructor does not.
-/

namespace QualityScale.Yaml

/-- A YAML value. -/
inductive Value where
  | null
  | bool (b : Bool)
  | number (n : Number)
  | string (s : String)
  | sequence (items : List Value)
  | mapping (entries : List (Value × Value))
  /-- A value under a local tag, named without its mark. -/
  | tagged (tag : String) (value : Value)
  deriving Inhabited

namespace Value

/-- The value under all tags. -/
def untag : Value → Value
  | tagged _ v => v.untag
  | v => v

/-- The text that this is, tags aside. -/
def asString? (v : Value) : Option String :=
  match v.untag with
  | string s => some s
  | _ => none

/-- The entries of the mapping that this is, tags aside. -/
def asMapping? (v : Value) : Option (List (Value × Value)) :=
  match v.untag with
  | mapping entries => some entries
  | _ => none

/-- Whether this is the given text, without a tag. -/
def isText (text : String) : Value → Bool
  | string s => s == text
  | _ => false

theorem asString?_eq_some_iff {v : Value} {s : String} :
    v.asString? = some s ↔ v.untag = .string s := by
  unfold asString?
  split
  next h => simp [h]
  next h => simpa using fun hs => h s hs

theorem asMapping?_eq_some_iff {v : Value} {entries : List (Value × Value)} :
    v.asMapping? = some entries ↔ v.untag = .mapping entries := by
  unfold asMapping?
  split
  next h => simp [h]
  next h => simpa using fun he => h entries he

theorem isText_iff {text : String} {v : Value} : v.isText text = true ↔ v = .string text := by
  cases v <;> simp [isText]

end Value

/-- The value of the first entry whose key is the given text, without a tag. -/
def lookupText (text : String) : List (Value × Value) → Option Value
  | [] => none
  | e :: es => if e.1.isText text then some e.2 else lookupText text es

namespace Value

/-- The value of a key of the mapping that this is, tags aside; the key itself has no tag. -/
def get? (v : Value) (text : String) : Option Value :=
  v.asMapping?.bind (lookupText text)

end Value

mutual

/-- Equality as values: the order of the entries of a mapping does not count. -/
def Value.same : Value → Value → Bool
  | .null, .null => true
  | .bool a, .bool b => a == b
  | .number m, .number n => m.same n
  | .string s, .string t => s == t
  | .sequence xs, .sequence ys => sameItems xs ys
  | .mapping xs, .mapping ys => xs.length == ys.length && sameEntries xs ys
  | .tagged s v, .tagged t w => s == t && v.same w
  | _, _ => false

/-- Equality of two lists of values, item by item. -/
def sameItems : List Value → List Value → Bool
  | [], [] => true
  | x :: xs, y :: ys => x.same y && sameItems xs ys
  | _, _ => false

/-- Whether every one of the first entries is among the second. -/
def sameEntries : List (Value × Value) → List (Value × Value) → Bool
  | [], _ => true
  | (k, v) :: xs, ys => ys.any (fun e => k.same e.1 && v.same e.2) && sameEntries xs ys

end

/-! ## Deciding equality

Two values are equal if they are written alike, the order of their entries included. -/

mutual

/-- Whether two values are equal. -/
def Value.equals : Value → Value → Bool
  | .null, .null => true
  | .bool a, .bool b => a == b
  | .number m, .number n => m == n
  | .string s, .string t => s == t
  | .sequence xs, .sequence ys => equalItems xs ys
  | .mapping xs, .mapping ys => equalEntries xs ys
  | .tagged s v, .tagged t w => s == t && v.equals w
  | _, _ => false

/-- Whether two lists of values are equal. -/
def equalItems : List Value → List Value → Bool
  | [], [] => true
  | x :: xs, y :: ys => x.equals y && equalItems xs ys
  | _, _ => false

/-- Whether two lists of entries are equal. -/
def equalEntries : List (Value × Value) → List (Value × Value) → Bool
  | [], [] => true
  | (k, v) :: xs, (l, w) :: ys => k.equals l && v.equals w && equalEntries xs ys
  | _, _ => false

end

mutual

theorem Value.equals_iff : ∀ v w : Value, v.equals w = true ↔ v = w
  | .null, w => by cases w <;> simp [Value.equals]
  | .bool _, w => by cases w <;> simp [Value.equals]
  | .number _, w => by cases w <;> simp [Value.equals]
  | .string _, w => by cases w <;> simp [Value.equals]
  | .sequence xs, w => by cases w <;> simp [Value.equals, equalItems_iff xs]
  | .mapping xs, w => by cases w <;> simp [Value.equals, equalEntries_iff xs]
  | .tagged _ v, w => by cases w <;> simp [Value.equals, Value.equals_iff v]

theorem equalItems_iff : ∀ xs ys : List Value, equalItems xs ys = true ↔ xs = ys
  | [], ys => by cases ys <;> simp [equalItems]
  | x :: xs, ys => by cases ys <;> simp [equalItems, Value.equals_iff x, equalItems_iff xs]

theorem equalEntries_iff : ∀ xs ys : List (Value × Value), equalEntries xs ys = true ↔ xs = ys
  | [], ys => by cases ys <;> simp [equalEntries]
  | (k, v) :: xs, ys => by
    rcases ys with _ | ⟨⟨l, w⟩, ys⟩ <;>
      simp [equalEntries, Value.equals_iff k, Value.equals_iff v, equalEntries_iff xs]

end

instance : DecidableEq Value := fun v w => decidable_of_iff _ (Value.equals_iff v w)

end QualityScale.Yaml
