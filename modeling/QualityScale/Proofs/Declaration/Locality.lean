import QualityScale.Proofs.Declaration.DocumentOrder
import QualityScale.Proofs.Declaration.Edits

/-!
# Entries are checked one by one

The schema looks at each entry of the rules by itself.  What it finds in a document is what it finds
about the other keys, and then, entry by entry, what it finds in the document that has no more than
that entry.

* `oneRule e`: the document with the entry `e` and nothing else.
* `otherKeys top`: what is found about the other keys of a document with the entries `top`.
* `about key vs`: those of the violations `vs` that are found under this key of the rules.
* `violations_eq_by_entry`: the violations in a document, entry by entry, whatever its entries are
  and in whatever order they stand.  So no entry hides, brings up or changes what is found about
  another one.
-/

namespace QualityScale.Grammar

open Yaml (Value)
open Schema (violations extraKeys ruleViolations rulesKey)

/-! ### One entry by itself -/

/-- The document whose rules have one entry. -/
def oneRule (e : Value × Value) : Value :=
  .mapping [(.string "rules", .mapping [e])]

theorem rulesOf_oneRule (e : Value × Value) : RulesOf (oneRule e) [e] :=
  ⟨_, rfl, .here⟩

theorem topViolations_oneRule (e : Value × Value) : topViolations (oneRule e) = [] := by
  apply extraKeys_eq_nil_iff.mpr
  intro f hf
  obtain rfl := List.mem_singleton.mp hf
  exact ⟨rulesKey, List.mem_singleton_self _, rfl⟩

theorem violations_oneRule (c : Catalog) (e : Value × Value) :
    violations c (oneRule e) = ruleViolations c e := by
  rw [(rulesOf_oneRule e).violations_eq, topViolations_oneRule, List.nil_append,
    List.flatMap_singleton]

/-! ### The other keys -/

/-- The violations by the keys whose text, tags aside, is not `rules`. -/
def otherKeys (top : List (Value × Value)) : List Violation :=
  (top.filter fun e => e.1.untag ≠ .string "rules").map fun e => ⟨[e.1], .extraKey, some e.2⟩

theorem topViolations_eq {doc : Value} {top : List (Value × Value)}
    (htop : doc.untag = .mapping top) : topViolations doc = otherKeys top := by
  rw [topViolations, Value.asMapping?_eq_some_iff.mpr htop, Option.getD_some, extraKeys, otherKeys]
  have hfilter : ∀ e ∈ top, (!e.1.asString?.any [rulesKey].contains) =
      decide (e.1.untag ≠ .string "rules") := by
    intro e _
    rw [Bool.eq_iff_iff, isExtra_iff, List.forall_mem_singleton, decide_eq_true_iff]
    rfl
  rw [List.filter_congr hfilter]
  rfl

/-! ### What is found about an entry -/

/-- The violations that are found under a key of the rules. -/
def about (key : Value) (vs : List Violation) : List Violation :=
  vs.filter fun v => v.path.take 2 = [.string "rules", key]

section About

variable {c : Catalog} {key : Value} {vs ws : List Violation}

theorem about_append : about key (vs ++ ws) = about key vs ++ about key ws :=
  List.filter_append ..

theorem about_otherKeys (top : List (Value × Value)) : about key (otherKeys top) = [] := by
  apply List.filter_eq_nil_iff.mpr
  intro v hv
  obtain ⟨e, -, rfl⟩ := List.mem_map.mp hv
  simp

theorem about_ruleViolations_self (e : Value × Value) :
    about e.1 (ruleViolations c e) = ruleViolations c e := by
  apply List.filter_eq_self.mpr
  intro v hv
  obtain ⟨rest, hpath⟩ := exists_path_of_mem_ruleViolations hv
  simp [hpath, rulesKey]

theorem about_ruleViolations_of_ne {e : Value × Value} (hne : e.1 ≠ key) :
    about key (ruleViolations c e) = [] := by
  apply List.filter_eq_nil_iff.mpr
  intro v hv
  obtain ⟨rest, hpath⟩ := exists_path_of_mem_ruleViolations hv
  simp [hpath, hne]

theorem about_flatMap_of_forall_ne {rules : List (Value × Value)} (h : ∀ e ∈ rules, e.1 ≠ key) :
    about key (rules.flatMap (ruleViolations c)) = [] := by
  induction rules with
  | nil => rfl
  | cons e rules ih =>
    obtain ⟨he, hrules⟩ := List.forall_mem_cons.mp h
    rw [List.flatMap_cons, about_append, about_ruleViolations_of_ne he, ih hrules,
      List.append_nil]

/-- Where keys differ, what is found about an entry is found nowhere else. -/
theorem about_flatMap {rules : List (Value × Value)} (hkeys : (rules.map Prod.fst).Nodup)
    {e : Value × Value} (he : e ∈ rules) :
    about e.1 (rules.flatMap (ruleViolations c)) = ruleViolations c e := by
  induction rules with
  | nil => exact absurd he List.not_mem_nil
  | cons f rules ih =>
    rw [List.map_cons, List.nodup_cons] at hkeys
    obtain ⟨hf, hrules⟩ := hkeys
    rw [List.flatMap_cons, about_append]
    rcases List.mem_cons.mp he with rfl | he
    · have hlater : ∀ g ∈ rules, g.1 ≠ e.1 := by
        intro g hg hge
        exact hf (hge ▸ List.mem_map_of_mem hg)
      rw [about_ruleViolations_self, about_flatMap_of_forall_ne hlater, List.append_nil]
    · have hne : f.1 ≠ e.1 := by
        intro hfe
        exact hf (hfe ▸ List.mem_map_of_mem he)
      rw [about_ruleViolations_of_ne hne, List.nil_append, ih hrules he]

end About

/-! ### All entries -/

/-- **The violations in a document are found entry by entry.**  They are those by its other keys,
in the order of the document, and then, for one entry of the rules after the other, those in the
document with that entry alone.  It is so whatever other entries the document is given; the same
entries in another order have the same violations in another order; and where no key is there twice,
what is found under a key is what is found where its entry stands alone. -/
theorem violations_eq_by_entry (c : Catalog) {doc : Value} {top rules : List (Value × Value)}
    (htop : doc.untag = .mapping top) (hrules : Gives "rules" (.mapping rules) top) :
    violations c doc = otherKeys top ++ rules.flatMap (fun e => violations c (oneRule e)) ∧
      (∀ v ∈ otherKeys top, v.problem.message = "extra keys not allowed") ∧
      (∀ rules', violations c (withRules rules' doc) =
        otherKeys top ++ rules'.flatMap fun e => violations c (oneRule e)) ∧
      (∀ rules', rules'.Perm rules →
        (violations c (withRules rules' doc)).Perm (violations c doc)) ∧
      ((rules.map Prod.fst).Nodup → ∀ e ∈ rules,
        about e.1 (violations c doc) = violations c (oneRule e)) := by
  have h : RulesOf doc rules := ⟨top, htop, hrules⟩
  have hblocks : (fun e => violations c (oneRule e)) = ruleViolations c :=
    funext (violations_oneRule c)
  have hdoc : violations c doc = otherKeys top ++ rules.flatMap (ruleViolations c) := by
    rw [h.violations_eq, topViolations_eq htop]
  have hany : ∀ rules', violations c (withRules rules' doc) =
      otherKeys top ++ rules'.flatMap (ruleViolations c) := by
    intro rules'
    rw [h.violations_withRules, topViolations_eq htop]
  rw [hblocks]
  refine ⟨hdoc, ?_, hany, ?_, ?_⟩
  · intro v hv
    obtain ⟨e, -, rfl⟩ := List.mem_map.mp hv
    rfl
  · intro rules' hperm
    rw [hany, hdoc]
    exact (hperm.flatMap_right _).append_left _
  · intro hkeys e he
    rw [hdoc, about_append, about_otherKeys, List.nil_append, about_flatMap hkeys he,
      violations_oneRule]

/-- The entries of rules that both break the schema twice. -/
def brokenRules : List (Value × Value) :=
  [(.string "brands", .mapping [(.string "owner", .null)]),
    (.tagged "x" (.string "config-flow"),
      .mapping [(.string "status", .null), (.string "comment", .null)])]

/-- The entries of a document with other keys before and after its rules. -/
def brokenTop : List (Value × Value) :=
  [(.string "owner", .null), (.string "rules", .mapping brokenRules),
    (.number (.whole 7), .string "x")]

theorem violations_eq_by_entry_brokenRules :
    ((Value.tagged "scale" (.mapping brokenTop)).untag = .mapping brokenTop ∧
      Gives "rules" (.mapping brokenRules) brokenTop ∧ (brokenRules.map Prod.fst).Nodup) ∧
    violations Catalog.standard (.tagged "scale" (.mapping brokenTop)) =
      otherKeys brokenTop ++
        brokenRules.flatMap (fun e => violations Catalog.standard (oneRule e)) ∧
    violations Catalog.standard
        (withRules brokenRules.reverse (.tagged "scale" (.mapping brokenTop))) =
      otherKeys brokenTop ++
        brokenRules.reverse.flatMap (fun e => violations Catalog.standard (oneRule e)) ∧
    about (.string "brands")
        (violations Catalog.standard (.tagged "scale" (.mapping brokenTop))) =
      violations Catalog.standard (oneRule brokenRules[0]) ∧
    (otherKeys brokenTop).map (·.location) = [["owner"], ["7"]] ∧
    (violations Catalog.standard (oneRule brokenRules[0])).map (·.location) =
      [["rules", "brands", "owner"], ["rules", "brands", "status"]] := by
  have htop : (Value.tagged "scale" (.mapping brokenTop)).untag = .mapping brokenTop := rfl
  have hrules : Gives "rules" (.mapping brokenRules) brokenTop := .later (by decide) .here
  have hkeys : (brokenRules.map Prod.fst).Nodup := by decide
  obtain ⟨hdoc, -, hany, -, habout⟩ := violations_eq_by_entry Catalog.standard htop hrules
  exact ⟨⟨htop, hrules, hkeys⟩, hdoc, hany _, habout hkeys _ List.mem_cons_self,
    by decide +kernel, by decide +kernel⟩

end QualityScale.Grammar
