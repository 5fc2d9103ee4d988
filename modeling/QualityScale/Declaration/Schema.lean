import QualityScale.Catalog
import QualityScale.Declaration.Literal
import QualityScale.Declaration.Status

/-!
# The schema of declarations

What a declaration may look like, as the list of everything that is wrong with a document.  Each
violation names the place in the document that it is about, by the keys that lead there.

The order is that in which the places are looked at: other keys than that of the rules first, then
the rules one by one, and in an entry other keys first, then the status, then the comment.
-/

namespace QualityScale

/-- What can be wrong at a place of a document. -/
inductive Problem where
  | notADictionary
  | extraKey
  | missingKey
  | rulesNotADictionary
  | bareExempt
  | unknownBareStatus
  | noEntry
  | unknownStatus
  | commentNotText
  deriving DecidableEq, Repr

/-- What is said about a problem. -/
def Problem.message : Problem → String
  | notADictionary => "expected a dictionary"
  | extraKey => "extra keys not allowed"
  | missingKey => "required key not provided"
  | rulesNotADictionary => "expected a dictionary for dictionary value"
  | bareExempt => "exempt requires a dictionary with status and comment"
  | unknownBareStatus => "value must be one of ['done', 'todo']"
  | noEntry => "expected a status or a dictionary"
  | unknownStatus => "value must be one of ['done', 'exempt', 'todo']"
  | commentNotText => "expected str"

/-- A violation of the schema. -/
structure Violation where
  /-- The keys that lead to the place. -/
  path : List Yaml.Value
  problem : Problem
  /-- The value at the place, if there is one. -/
  got : Option Yaml.Value

namespace Violation

/-- The keys that lead to the place, as texts. -/
def location (v : Violation) : List String :=
  v.path.map (·.keyText)

/-- The value at the place, as it is shown. -/
def gotText (v : Violation) : String :=
  match v.got with
  | some value => value.shown
  | none => "None"

/-- What is reported for a violation. -/
def text (v : Violation) : String :=
  let place :=
    if v.path.isEmpty then ""
    else " @ data" ++ String.join (v.location.map fun key => "['" ++ key ++ "']")
  v.problem.message ++ place ++ ". Got " ++ v.gotText

end Violation

namespace Schema

open Yaml (Value lookupText)

/-- The key of the rules in a declaration. -/
def rulesKey : String := "rules"

/-- The violations by keys that are none of the given ones. -/
def extraKeys (path : List Value) (known : List String) (entries : List (Value × Value)) :
    List Violation :=
  (entries.filter fun e => !e.1.asString?.any known.contains).map fun e =>
    ⟨path ++ [e.1], .extraKey, some e.2⟩

/-- The violations by the status of a detailed entry. -/
def statusViolations (path : List Value) : Option Value → List Violation
  | none => [⟨path ++ [.string Status.key], .missingKey, none⟩]
  | some (.string s) =>
    if (Status.ofName? s).isSome then []
    else [⟨path ++ [.string Status.key], .unknownStatus, some (.string s)⟩]
  | some v => [⟨path ++ [.string Status.key], .unknownStatus, some v⟩]

/-- The violations by the comment of a detailed entry, which an exemption must have. -/
def commentViolations (path : List Value) (isExempt : Bool) : Option Value → List Violation
  | none => if isExempt then [⟨path ++ [.string Status.commentKey], .missingKey, none⟩] else []
  | some (.string _) => []
  | some v => [⟨path ++ [.string Status.commentKey], .commentNotText, some v⟩]

/-- The violations by a detailed entry. -/
def detailViolations (path : List Value) (fields : List (Value × Value)) : List Violation :=
  let status := lookupText Status.key fields
  extraKeys path [Status.key, Status.commentKey] fields ++
    statusViolations path status ++
    commentViolations path (status.any (·.isText Status.exempt.name))
      (lookupText Status.commentKey fields)

/-- The violations by a bare status. -/
def bareViolations (path : List Value) (s : String) : List Violation :=
  match Status.ofName? s with
  | some .todo | some .done => []
  | some .exempt => [⟨path, .bareExempt, some (.string s)⟩]
  | none => [⟨path, .unknownBareStatus, some (.string s)⟩]

/-- The violations by the entry of a rule. -/
def entryViolations (path : List Value) : Value → List Violation
  | .string s => bareViolations path s
  | .mapping fields => detailViolations path fields
  | v => [⟨path, .noEntry, some v⟩]

/-- The violations by one key of the rules and its entry. -/
def ruleViolations (c : Catalog) (e : Value × Value) : List Violation :=
  let path := [.string rulesKey, e.1]
  if e.1.asString?.any c.contains then entryViolations path e.2
  else [⟨path, .extraKey, some e.2⟩]

/-- The violations by the value of the key for the rules. -/
def rulesViolations (c : Catalog) : Option Value → List Violation
  | none => [⟨[.string rulesKey], .missingKey, none⟩]
  | some (.mapping rules) => rules.flatMap (ruleViolations c)
  | some v => [⟨[.string rulesKey], .rulesNotADictionary, some v⟩]

/-- Everything in a document that the schema does not allow. -/
def violations (c : Catalog) (doc : Value) : List Violation :=
  match doc.asMapping? with
  | none => [⟨[], .notADictionary, some doc⟩]
  | some top => extraKeys [] [rulesKey] top ++ rulesViolations c (lookupText rulesKey top)

/-- What is reported for all violations together. -/
def report (vs : List Violation) : String :=
  "\n".intercalate (vs.map (·.text))

end Schema

end QualityScale
