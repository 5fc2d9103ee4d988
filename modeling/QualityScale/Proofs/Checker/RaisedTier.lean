import Mathlib.Data.List.Basic
import QualityScale.Catalog.Standard
import QualityScale.Checker
import QualityScale.Proofs.Checker.Dispatch

/-!
# Raising the claimed tier

What is asked of an integration grows with the tier that its manifest claims.  The findings grow
with it in the simplest way: those about the lower claim come first, and then there may be more.
That is `findings_isPrefix_of_le`, where no claim counts as the lowest.

The claim is read in two places.  Presence asks only whether there is one, and only about an
integration that need not carry a declaration and carries none (`Presence.check_of_le`).  Completion
goes through the tiers from the lowest one up and stops at the claimed one (`shortfalls_isPrefix`).
Validators could read it too; those of the standard catalog do not.
-/

namespace QualityScale

/-- The integration with another quality scale in its manifest. -/
def Integration.withScale (i : Integration) (scale : Option String) : Integration :=
  { i with qualityScale := scale }

/-! ### Where the claimed tier is read -/

/-- Raising the tier changes the outcome of the check of presence only where it was to skip. -/
theorem Presence.check_of_le (p : Presence) (hasFile : Bool) {low high : Option Tier}
    (h : low ≤ high) :
    p.check hasFile low = .skip ∨ p.check hasFile low = p.check hasFile high := by
  cases low with
  | none => rcases p with _ | (_ | _) | _ | _ <;> cases hasFile <;> simp [Presence.check]
  | some _ =>
    cases high with
    | none => exact absurd h Option.not_some_le_none
    | some _ => rcases p with _ | (_ | _) | _ | _ <;> cases hasFile <;> exact .inr rfl

/-- The tiers up to a higher one begin with those up to a lower one. -/
theorem Tier.filter_le_isPrefix {low high : Tier} (h : low ≤ high) :
    Tier.all.filter (· ≤ low) <+: Tier.all.filter (· ≤ high) := by
  revert h
  cases low <;> cases high <;> decide

/-- Raising the tier leaves the shortfalls there are and may add some of higher tiers. -/
theorem shortfalls_isPrefix (c : Catalog) (met : NameSet) {low high : Option Tier}
    (h : low ≤ high) : shortfalls c met low <+: shortfalls c met high := by
  cases low with
  | none => exact List.nil_prefix
  | some _ =>
    cases high with
    | none => exact absurd h Option.not_some_le_none
    | some _ =>
      simp only [shortfalls_some]
      exact ((Tier.filter_le_isPrefix (Option.some_le_some.mp h)).map _).filter _

/-! ### Validators that do not read it -/

/-- The validators of a catalog return the same whatever a manifest says of the quality scale. -/
def Catalog.IgnoresScale (c : Catalog) : Prop :=
  ∀ r ∈ c.rules, ∀ validate, r.validator = some validate → ∀ config files i scale done,
    validate config files (Integration.withScale i scale) done = validate config files i done

theorem Catalog.standard_ignoresScale : Catalog.standard.IgnoresScale := by
  rw [Catalog.IgnoresScale, Catalog.forall_standard_validator]
  refine ⟨?_, ?_, ?_, ?_, ?_, ?_, ?_, ?_, ?_, ?_⟩ <;> intro config files i scale done <;> rfl

theorem validatorRuns_withScale {c : Catalog} (hc : c.IgnoresScale) (config : Config)
    (files : FileTree) (i : Integration) (scale : Option String) (done : NameSet) :
    validatorRuns c config files (i.withScale scale) done =
      validatorRuns c config files i done := by
  rw [validatorRuns_eq_runsOn, validatorRuns_eq_runsOn]
  exact runsOn_congr _ fun r hr validate hrv => hc r hr validate hrv config files i scale done

/-! ### The findings -/

section Findings

variable {c : Checker} {config : Config} {files : FileTree} {i : Integration}
  {low high : Option String}

/-- What is found out from a document grows by shortfalls at its end. -/
theorem messages_judge_isPrefix (hc : c.catalog.IgnoresScale)
    (h : (i.withScale low).declaredTier ≤ (i.withScale high).declaredTier) (doc : Yaml.Value) :
    (c.judge config files (i.withScale low) doc).messages (i.withScale low) <+:
      (c.judge config files (i.withScale high) doc).messages (i.withScale high) := by
  have hruns := validatorRuns_withScale hc config files i
  simp only [Checker.judge, Verdict.messages, hruns]
  exact (List.prefix_append_right_inj _).mpr ((shortfalls_isPrefix _ _ h).map _)

theorem messages_verdict_isPrefix (hc : c.catalog.IgnoresScale)
    (h : (i.withScale low).declaredTier ≤ (i.withScale high).declaredTier) :
    (c.verdict config files (i.withScale low)).messages (i.withScale low) <+:
      (c.verdict config files (i.withScale high)).messages (i.withScale high) := by
  let presence := Presence.classify c.exemptions i
  let hasFile := files.isFile i.declarationPath
  -- The tier is the only thing in which the two decisions differ.
  rcases presence.check_of_le hasFile h with hskip | hsame
  · rw [Checker.verdict_of_skip (i := i.withScale low) hskip]
    exact List.nil_prefix
  · cases houtcome : presence.check hasFile (i.withScale high).declaredTier with
    | skip =>
      rw [Checker.verdict_of_skip (i := i.withScale low) (hsame.trans houtcome)]
      exact List.nil_prefix
    | breach b =>
      rw [Checker.verdict_of_breach (i := i.withScale low) (hsame.trans houtcome),
        Checker.verdict_of_breach (i := i.withScale high) houtcome]
      exact List.prefix_refl _
    | validate =>
      cases hload : Declaration.load files i.declarationPath with
      | error e =>
        rw [Checker.verdict_of_unreadable (i := i.withScale low) (hsame.trans houtcome) hload,
          Checker.verdict_of_unreadable (i := i.withScale high) houtcome hload]
        exact List.prefix_refl _
      | ok doc =>
        rw [Checker.verdict_of_document (i := i.withScale low) (hsame.trans houtcome) hload,
          Checker.verdict_of_document (i := i.withScale high) houtcome hload]
        exact messages_judge_isPrefix hc h doc

end Findings

/-- **Raising the claimed tier only adds findings, and only at the end.**  This holds for a catalog
whose validators do not read the quality scale, and the standard catalog is one. -/
theorem findings_isPrefix_of_le :
    Catalog.standard.IgnoresScale ∧
      ∀ c : Checker, c.catalog.IgnoresScale →
        ∀ (config : Config) (files : FileTree) (i : Integration) (low high : Option String),
          (i.withScale low).declaredTier ≤ (i.withScale high).declaredTier →
            c.findings config files (i.withScale low) <+:
              c.findings config files (i.withScale high) := by
  refine ⟨Catalog.standard_ignoresScale, fun c hc config files i low high h => ?_⟩
  exact (messages_verdict_isPrefix hc h).map _

/-- A checkout with one integration, which declares one rule done. -/
def oneRuleTree : FileTree :=
  ⟨.directory [("hue", .directory
    [("quality_scale.yaml", .file "rules:\n  brands: done\n".toByteArray)])], []⟩

/-- The integration in `oneRuleTree`. -/
def oneRule : Integration where
  domain := "hue"
  path := ⟨"hue"⟩
  core := true

/-- What is found about it, for a quality scale in its manifest. -/
def oneRuleFindings (scale : Option String) : List Finding :=
  Checker.findings ⟨Catalog.standard, .empty⟩ ⟨⟨"."⟩, none⟩ oneRuleTree (oneRule.withScale scale)

theorem findings_isPrefix_of_le_oneRule :
    (Catalog.standard.IgnoresScale ∧ (oneRule.withScale (some "bronze")).declaredTier ≤
      (oneRule.withScale (some "silver")).declaredTier) ∧
    oneRuleFindings (some "bronze") <+: oneRuleFindings (some "silver") ∧
    (oneRuleFindings (some "bronze")).length = 1 ∧
    (oneRuleFindings (some "silver")).length = 2 := by
  have hlow : (oneRule.withScale (some "bronze")).declaredTier = some .bronze := by decide
  have hhigh : (oneRule.withScale (some "silver")).declaredTier = some .silver := by decide
  have h : (oneRule.withScale (some "bronze")).declaredTier ≤
      (oneRule.withScale (some "silver")).declaredTier := by
    rw [hlow, hhigh, Option.some_le_some]
    decide
  exact ⟨⟨Catalog.standard_ignoresScale, h⟩,
    findings_isPrefix_of_le.2 _ Catalog.standard_ignoresScale _ _ _ _ _ h,
    by decide +kernel, by decide +kernel⟩

end QualityScale
