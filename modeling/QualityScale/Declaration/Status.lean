import QualityScale.Yaml.Value

/-!
# Statuses

The status that a declaration gives to a rule.  A declaration is read in two ways.  The lenient
way, `Status.ofEntry?`, takes the status of whatever has one.  The strict way, `RuleEntry.ofValue?`,
reads an entry whole.
-/

namespace QualityScale

/-- The status of a rule. -/
inductive Status where
  | todo
  | done
  | exempt
  deriving DecidableEq, Repr

namespace Status

/-- All statuses. -/
def all : List Status := [todo, done, exempt]

/-- The name of a status. -/
def name : Status → String
  | todo => "todo"
  | done => "done"
  | exempt => "exempt"

/-- The status with a name. -/
def ofName? (s : String) : Option Status :=
  all.find? fun t => t.name == s

theorem ofName?_eq_some_iff {s : String} {t : Status} : ofName? s = some t ↔ t.name = s := by
  constructor
  · intro h
    simpa using List.find?_some h
  · rintro rfl
    cases t <;> decide

/-- Whether a rule of this status is no longer outstanding. -/
def isMet : Status → Bool
  | todo => false
  | done | exempt => true

/-- The status that a value names: as a text, or as a tag on nothing. -/
def ofValue? : Yaml.Value → Option Status
  | .string s => ofName? s
  | .tagged tag .null => ofName? tag
  | _ => none

/-- The key of the status in an entry. -/
def key : String := "status"

/-- The key of the comment in an entry. -/
def commentKey : String := "comment"

/-- The status of an entry: of the entry itself, or of its field for the status. -/
def ofEntry? : Yaml.Value → Option Status
  | .mapping fields => (Yaml.lookupText key fields).bind ofValue?
  | bare => ofValue? bare

end Status

/-! ## Whole entries -/

/-- The entry of a rule. -/
inductive RuleEntry where
  | bare (status : Status)
  | detailed (status : Status) (comment : Option String)
  deriving DecidableEq, Repr

namespace RuleEntry

/-- The status of an entry. -/
def status : RuleEntry → Status
  | bare s => s
  | detailed s _ => s

/-- The comment of an entry. -/
def comment : RuleEntry → Option String
  | bare _ => none
  | detailed _ c => c

/-- A field of a detailed entry. -/
inductive Field where
  | status
  | comment
  | unknown
  deriving DecidableEq

/-- The field that a key stands for: its name, or its place among the fields. -/
def Field.ofKey? : Yaml.Value → Option Field
  | .string s =>
    some (if s = Status.key then status else if s = Status.commentKey then comment else unknown)
  | .number (.whole n) =>
    if n < 0 then none else some (if n = 0 then status else if n = 1 then comment else unknown)
  | _ => none

/-- A status as the key of an entry with one field: its name, or its place among the statuses. -/
def statusOfKey? : Yaml.Value → Option Status
  | .string s => Status.ofName? s
  | .number (.whole n) => if n < 0 then none else Status.all[n.toNat]?
  | _ => none

/-- A status: its name, or a mapping with the status as its only key and nothing under it. -/
def strictStatus? : Yaml.Value → Option Status
  | .string s => Status.ofName? s
  | .mapping [(key, .null)] => statusOfKey? key
  | _ => none

/-- A comment, which may be nothing. -/
def comment? : Yaml.Value → Option (Option String)
  | .null => some none
  | .string s => some (some s)
  | _ => none

/-- The values of the fields of one kind. -/
def valuesOf (field : Field) (fields : List (Field × Yaml.Value)) : List Yaml.Value :=
  (fields.filter fun f => f.1 == field).map Prod.snd

/-- An entry with the given fields, each known one at most once. -/
def ofFields? (fields : List (Field × Yaml.Value)) : Option RuleEntry :=
  match valuesOf .status fields, valuesOf .comment fields with
  | [s], [] => (strictStatus? s).map (detailed · none)
  | [s], [c] => do return detailed (← strictStatus? s) (← comment? c)
  | _, _ => none

mutual

/-- Whether a tag stands anywhere in a value. -/
def hasTag : Yaml.Value → Bool
  | .tagged .. => true
  | .sequence items => itemsHaveTag items
  | .mapping entries => entriesHaveTag entries
  | _ => false

/-- Whether a tag stands anywhere in the items. -/
def itemsHaveTag : List Yaml.Value → Bool
  | [] => false
  | v :: vs => hasTag v || itemsHaveTag vs

/-- Whether a tag stands anywhere in the entries. -/
def entriesHaveTag : List (Yaml.Value × Yaml.Value) → Bool
  | [] => false
  | (k, v) :: es => hasTag k || hasTag v || entriesHaveTag es

end

/-- The entry that a value stands for, if all of it can be read. -/
def ofValue? (v : Yaml.Value) : Option RuleEntry :=
  if hasTag v then none
  else
    match strictStatus? v, v with
    | some s, _ => some (bare s)
    | none, .mapping entries =>
      (entries.mapM fun e => (Field.ofKey? e.1).map (·, e.2)).bind ofFields?
    | none, _ => none

end RuleEntry

end QualityScale
