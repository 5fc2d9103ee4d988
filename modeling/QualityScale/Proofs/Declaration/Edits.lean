import QualityScale.Proofs.Declaration.Agreement

/-!
# Editing the rules of a declaration

What becomes of a document when the entries of its rules are others and all else stays: its tags,
its other keys, and the place of the rules among them.

* `withRules rules doc`: the document `doc` with the entries `rules` instead of its own.
* `RulesOf.withRules`: these are then the entries that are found.
* `RulesOf.violations_withRules`: the violations by the other keys are those of before, and after
  them come those by the new entries, one entry after the other.
-/

namespace QualityScale.Grammar

open Yaml (Value)
open Schema (violations extraKeys ruleViolations rulesKey)
open Classification (ruleEntries)

/-! ### Other rules in a document -/

/-- The entries with another value under the first plain key `key`. -/
def giving (key : String) (v : Value) : List (Value × Value) → List (Value × Value)
  | [] => []
  | e :: es => if e.1.isText key then (e.1, v) :: es else e :: giving key v es

/-- The document with other entries of the rules. -/
def withRules (rules : List (Value × Value)) : Value → Value
  | .tagged tag v => .tagged tag (withRules rules v)
  | .mapping top => .mapping (giving rulesKey (.mapping rules) top)
  | v => v

theorem Gives.giving {key : String} {v : Value} {es : List (Value × Value)} (h : Gives key v es)
    (w : Value) : Gives key w (giving key w es) := by
  induction h with
  | here =>
    rw [Grammar.giving, if_pos (Value.isText_iff.mpr rfl)]
    exact .here
  | later hne _ ih =>
    rw [Grammar.giving, if_neg (fun h => hne (Value.isText_iff.mp h))]
    exact .later hne ih

/-- Keys that are none of the known ones are left alone where a known key gets another value. -/
theorem extraKeys_giving {key : String} {known : List String} (hkey : key ∈ known)
    (path : List Value) (v : Value) (es : List (Value × Value)) :
    extraKeys path known (giving key v es) = extraKeys path known es := by
  induction es with
  | nil => rfl
  | cons e es ih =>
    rw [giving]
    by_cases hk : e.1.isText key = true
    · have hknown : (!e.1.asString?.any known.contains) = false := by
        rw [Value.isText_iff.mp hk]
        simpa [Value.asString?, Value.untag] using hkey
      rw [if_pos hk, extraKeys, extraKeys, List.filter_cons_of_neg (by simp [hknown]),
        List.filter_cons_of_neg (by simp [hknown])]
    · rw [if_neg hk]
      simp only [extraKeys, List.filter_cons] at ih ⊢
      split
      · rw [List.map_cons, List.map_cons, ih]
      · exact ih

theorem untag_withRules {doc : Value} {top : List (Value × Value)} (h : doc.untag = .mapping top)
    (rules : List (Value × Value)) :
    (withRules rules doc).untag = .mapping (giving rulesKey (.mapping rules) top) := by
  fun_induction Value.untag doc with
  | case1 tag v ih => exact ih h
  | case2 v =>
    subst h
    rfl

section RulesOf

variable {doc : Value} {rules : List (Value × Value)}

/-- The new entries are the ones that are found. -/
theorem RulesOf.withRules (h : RulesOf doc rules) (rules' : List (Value × Value)) :
    RulesOf (withRules rules' doc) rules' := by
  obtain ⟨top, htop, hrules⟩ := h
  exact ⟨_, untag_withRules htop rules', hrules.giving _⟩

theorem RulesOf.ruleEntries_withRules (h : RulesOf doc rules) (rules' : List (Value × Value)) :
    ruleEntries (Grammar.withRules rules' doc) = rules' :=
  (h.withRules rules').ruleEntries_eq

/-! ### What the schema says about it -/

/-- The violations by the keys of a document that are not the one of the rules. -/
def topViolations (doc : Value) : List Violation :=
  extraKeys [] [rulesKey] (doc.asMapping?.getD [])

theorem RulesOf.violations_eq (h : RulesOf doc rules) (c : Catalog) :
    violations c doc = topViolations doc ++ rules.flatMap (ruleViolations c) := by
  obtain ⟨top, htop, hrules⟩ := h
  have hlookup : Yaml.lookupText rulesKey top = some (.mapping rules) :=
    lookupText_eq_some_iff.mpr hrules
  rw [violations, topViolations, Value.asMapping?_eq_some_iff.mpr htop]
  simp only [hlookup, Schema.rulesViolations, Option.getD_some]

theorem RulesOf.topViolations_withRules (h : RulesOf doc rules) (rules' : List (Value × Value)) :
    topViolations (Grammar.withRules rules' doc) = topViolations doc := by
  obtain ⟨top, htop, -⟩ := h
  rw [topViolations, topViolations, Value.asMapping?_eq_some_iff.mpr htop,
    Value.asMapping?_eq_some_iff.mpr (untag_withRules htop rules')]
  exact extraKeys_giving List.mem_cons_self [] _ top

/-- **The violations in a document with other rules** are those by its other keys and those by the
new entries. -/
theorem RulesOf.violations_withRules (h : RulesOf doc rules) (c : Catalog)
    (rules' : List (Value × Value)) :
    violations c (Grammar.withRules rules' doc) =
      topViolations doc ++ rules'.flatMap (ruleViolations c) := by
  rw [(h.withRules rules').violations_eq, h.topViolations_withRules]

end RulesOf

end QualityScale.Grammar
