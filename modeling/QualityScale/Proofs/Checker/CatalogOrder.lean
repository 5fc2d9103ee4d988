import Mathlib.Data.List.Basic
import QualityScale.Catalog.Standard
import QualityScale.Checker

/-!
# The order of the catalog

A catalog is a list, but nothing that is reported depends on the order of that list.  Rules are
looked up by their names, which are all different; validators run in the order of the names
declared done; and what a tier lacks is listed by name.  So two catalogs with the same rules,
`SameRules`, lead to the same verdict on every integration (`SameRules.verdict_eq`), and lists of
rules that are permutations of each other make two such catalogs (`check_eq_of_perm`).

The schema and the tiers do not even ask for the validators, so `SameTiers` is enough for them.
-/

namespace QualityScale

namespace SameTiers

variable {c c' : Catalog}

theorem contains_eq (h : SameTiers c c') : c.contains = c'.contains := by
  have hnames : ∀ {c : Catalog} {name : String},
      c.contains name = true ↔ ∃ t, ∃ r ∈ c.rules, r.tier = t ∧ r.name = name := by
    intro c name
    rw [Catalog.contains_iff]
    exact ⟨fun ⟨r, hr, hname⟩ => ⟨r.tier, r, hr, rfl, hname⟩,
      fun ⟨_, r, hr, _, hname⟩ => ⟨r, hr, hname⟩⟩
  funext name
  rw [Bool.eq_iff_iff, hnames, hnames]
  exact exists_congr (h name)

theorem violations_eq (h : SameTiers c c') (doc : Yaml.Value) :
    Schema.violations c doc = Schema.violations c' doc := by
  have hrule : Schema.ruleViolations c = Schema.ruleViolations c' := by
    funext e
    rw [Schema.ruleViolations, Schema.ruleViolations, h.contains_eq]
  have hrules : Schema.rulesViolations c = Schema.rulesViolations c' := by
    funext v
    unfold Schema.rulesViolations
    rw [hrule]
  rw [Schema.violations, Schema.violations, hrules]

/-- What a tier lacks is a set, and is listed as one. -/
theorem missingRules_eq (h : SameTiers c c') (met : NameSet) (t : Tier) :
    missingRules c met t = missingRules c' met t := by
  refine NameSet.ext fun name => ?_
  rw [mem_missingRules, mem_missingRules, Catalog.mem_required, Catalog.mem_required, h name t]

theorem shortfalls_eq (h : SameTiers c c') (met : NameSet) (declared : Option Tier) :
    shortfalls c met declared = shortfalls c' met declared := by
  cases declared with
  | none => rfl
  | some t => simp only [shortfalls, h.missingRules_eq met]

end SameTiers

/-- Two catalogs have the same rules, in whatever order. -/
def SameRules (c c' : Catalog) : Prop := ∀ r, r ∈ c.rules ↔ r ∈ c'.rules

namespace SameRules

theorem of_perm {rules rules' : List Rule} (h : rules.Perm rules') {c c' : Catalog}
    (hc : Catalog.ofRules rules = .ok c) (hc' : Catalog.ofRules rules' = .ok c') :
    SameRules c c' := by
  rw [Catalog.ofRules_eq_ok_iff] at hc hc'
  intro r
  rw [hc, hc', h.mem_iff]

/-! ### What is asked of a catalog -/

section Catalog

variable {c c' : Catalog}

theorem sameTiers (h : SameRules c c') : SameTiers c c' := fun name t => by
  simp only [h _]

/-- The rule with a name is the same, because no other rule has that name. -/
theorem rule?_eq (h : SameRules c c') : c.rule? = c'.rule? := by
  funext name
  refine Option.ext fun r => ?_
  rw [Catalog.rule?_eq_some_iff, Catalog.rule?_eq_some_iff, h r]

theorem validator?_eq (h : SameRules c c') : c.validator? = c'.validator? := by
  funext name
  rw [Catalog.validator?, Catalog.validator?, h.rule?_eq]

theorem validatorRuns_eq (h : SameRules c c') (config : Config) (files : FileTree)
    (i : Integration) (done : NameSet) :
    validatorRuns c config files i done = validatorRuns c' config files i done := by
  rw [validatorRuns, validatorRuns, h.validator?_eq]

end Catalog

/-! ### The verdict -/

section Verdict

variable {c c' : Catalog} (x : Exemptions) (config : Config) (files : FileTree) (i : Integration)

theorem judge_eq (h : SameRules c c') (doc : Yaml.Value) :
    Checker.judge ⟨c, x⟩ config files i doc = Checker.judge ⟨c', x⟩ config files i doc := by
  rw [Checker.judge, Checker.judge, h.sameTiers.violations_eq, h.validatorRuns_eq,
    h.sameTiers.shortfalls_eq]

/-- **Catalogs with the same rules lead to the same verdict.** -/
theorem verdict_eq (h : SameRules c c') :
    Checker.verdict ⟨c, x⟩ config files i = Checker.verdict ⟨c', x⟩ config files i := by
  -- Whether there is a document to judge is settled without the catalog.
  unfold Checker.verdict
  simp only [h.judge_eq x config files i]

end Verdict

end SameRules

/-- **The order in which a catalog is built does not matter.**  Lists of rules that are permutations
of each other, and make catalogs, lead to the same findings about every entry. -/
theorem check_eq_of_perm {rules rules' : List Rule} (h : rules.Perm rules') {c c' : Catalog}
    (hc : Catalog.ofRules rules = .ok c) (hc' : Catalog.ofRules rules' = .ok c')
    (x : Exemptions) (config : Config) (files : FileTree) (e : Entry) :
    Checker.check ⟨c, x⟩ config files e = Checker.check ⟨c', x⟩ config files e := by
  have hsame : SameRules c c' := .of_perm h hc hc'
  rw [Checker.check, Checker.check, Checker.findings, Checker.findings,
    hsame.verdict_eq x config files e.integration]

/-- The standard catalog, last rule first. -/
def Catalog.standardReversed : Catalog where
  rules := Catalog.standardRules.reverse
  kebab := fun r hr => Catalog.standard.kebab r (List.mem_reverse.mp hr)
  distinct := ((List.reverse_perm _).map _).nodup_iff.mpr Catalog.standard.distinct

/-- A checkout with one integration, which declares two rules done and shows no evidence. -/
def unprovenTree : FileTree :=
  ⟨.directory [("hue", .directory [("quality_scale.yaml",
    .file "rules:\n  diagnostics: done\n  config-flow: done\n".toByteArray)])], []⟩

/-- The integration in `unprovenTree`. -/
def unproven : Entry where
  integration := { domain := "hue", path := ⟨"hue"⟩, core := true, qualityScale := some "silver" }

theorem check_eq_of_perm_standardReversed :
    (Catalog.standardRules.Perm Catalog.standardRules.reverse ∧
      Catalog.ofRules Catalog.standardRules = .ok Catalog.standard ∧
      Catalog.ofRules Catalog.standardRules.reverse = .ok Catalog.standardReversed) ∧
    Checker.check ⟨Catalog.standard, .empty⟩ ⟨⟨"."⟩, none⟩ unprovenTree unproven =
      Checker.check ⟨Catalog.standardReversed, .empty⟩ ⟨⟨"."⟩, none⟩ unprovenTree unproven ∧
    (Checker.check ⟨Catalog.standard, .empty⟩ ⟨⟨"."⟩, none⟩ unprovenTree unproven).findings.length
      = 7 :=
  have hperm := (List.reverse_perm Catalog.standardRules).symm
  have hc : Catalog.ofRules Catalog.standardRules = .ok Catalog.standard :=
    Catalog.ofRules_eq_ok_iff.mpr rfl
  have hc' : Catalog.ofRules Catalog.standardRules.reverse = .ok Catalog.standardReversed :=
    Catalog.ofRules_eq_ok_iff.mpr rfl
  ⟨⟨hperm, hc, hc'⟩, check_eq_of_perm hperm hc hc' _ _ _ _, by decide +kernel⟩

end QualityScale
