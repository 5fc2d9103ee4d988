import Mathlib.Data.List.Basic
import QualityScale.Checker

/-!
# The texts of messages

What the checker reports is read by people, and so its texts are written out here as a reader sees
them.  For each there is a lemma that it is what the checker says.

* `breachText`: a declaration is missing, or there is one that should not be.
* `violationText`: the schema does not allow what is at a place of the document.  The place is told
  by the keys that lead to it, and what is there is cut short after 500 characters.
* `ruleLines`: the validator of a rule found something.
* `tierText`: a tier lacks rules.
-/

namespace QualityScale

open Yaml (Value)

/-- What is reported about a breach of presence. -/
def breachText : PresenceBreach → String
  | .missingRequired =>
    "Quality scale definition not found. " ++
      "New integrations are required to at least reach the Bronze tier."
  | .missingForDeclaredTier =>
    "Quality scale definition not found. " ++
      "Integrations that set a manifest quality scale must have a quality scale definition."
  | .virtualHasFile => "Virtual integrations are not allowed to have a quality scale file."
  | .forbiddenHasFile => "This integration is not supposed to have a quality scale file."
  | .grandfatheredHasFile =>
    "Quality scale file found! " ++
      "Please remove the integration from the grandfathered exemption list."

/-- What is said to be wrong at a place of a document. -/
def problemText : Problem → String
  | .notADictionary => "expected a dictionary"
  | .extraKey => "extra keys not allowed"
  | .missingKey => "required key not provided"
  | .rulesNotADictionary => "expected a dictionary for dictionary value"
  | .bareExempt => "exempt requires a dictionary with status and comment"
  | .unknownBareStatus => "value must be one of ['done', 'todo']"
  | .noEntry => "expected a status or a dictionary"
  | .unknownStatus => "value must be one of ['done', 'exempt', 'todo']"
  | .commentNotText => "expected str"

/-- The place that some keys lead to.  The top of the document is not named. -/
def placeText : List Value → String
  | [] => ""
  | keys => " @ data" ++ String.join (keys.map fun key => "['" ++ key.keyText ++ "']")

/-- What is shown of the value at a place. -/
def foundText : Option Value → String
  | none => "None"
  | some v =>
    if v.literal.length ≤ 500 then String.ofList v.literal
    else String.ofList (v.literal.take 497) ++ "..."

/-- **What is reported about a violation**: what is wrong, where, and what is there. -/
def violationText (v : Violation) : String :=
  problemText v.problem ++ placeText v.path ++ ". Got " ++ foundText v.got

/-- What is reported about a rule whose validator returned these messages. -/
def ruleLines (run : RuleRun) : List String :=
  run.messages.map (fun message => "[" ++ run.rule ++ "] " ++ message) ++
    ["Please check the documentation at https://developers.home-assistant.io/docs/core/" ++
      "integration-quality-scale/rules/" ++ run.rule ++ "/"]

/-- What is reported about a tier that lacks these rules. -/
def tierText (s : Shortfall) : String :=
  "Quality scale tier " ++ s.tier.name ++ " requires quality scale rules to be met:" ++
    String.join (s.missing.map fun rule => "\n  " ++ rule ++ ": todo")

/-! ### The checker says so -/

theorem breachText_eq (b : PresenceBreach) : breachText b = b.message := by
  cases b <;> decide

theorem problemText_eq (p : Problem) : problemText p = p.message := by
  cases p <;> rfl

theorem foundText_eq (v : Violation) : foundText v.got = v.gotText := by
  rw [Violation.gotText]
  cases v.got with
  | none => rfl
  | some value =>
    show foundText (some value) = value.shown
    rw [foundText, Value.shown, Yaml.abridge, Yaml.shownLimit]
    split
    · rfl
    · rw [String.ofList_append]

theorem violationText_eq (v : Violation) : violationText v = v.text := by
  have hplace : placeText v.path = if v.path.isEmpty then "" else
      " @ data" ++ String.join (v.location.map fun key => "['" ++ key ++ "']") := by
    rw [Violation.location, List.map_map]
    cases v.path <;> rfl
  rw [violationText, problemText_eq, hplace, foundText_eq]
  rfl

theorem violationTexts_eq (vs : List Violation) :
    "\n".intercalate (vs.map violationText) = Schema.report vs := by
  rw [funext violationText_eq]
  rfl

theorem ruleLines_eq (run : RuleRun) : ruleLines run = run.report := by
  have haddress :
      "Please check the documentation at https://developers.home-assistant.io/docs/core/" ++
          "integration-quality-scale/rules/" =
        "Please check the documentation at " ++ rulesAddress ++ "/" := by
    decide
  rw [ruleLines, haddress]
  rfl

theorem foldl_append_eq_join (f : String → String) (names : List String) (start : String) :
    names.foldl (fun text name => text ++ f name) start = start ++ String.join (names.map f) := by
  have hstart : start = start ++ "" := String.append_empty.symm
  rw [← List.foldl_map (f := f) (g := fun text line => text ++ line), hstart, List.foldl_assoc,
    ← hstart]
  rfl

theorem tierText_eq (s : Shortfall) : tierText s = s.message := by
  rw [Shortfall.message, foldl_append_eq_join]
  rfl

end QualityScale
