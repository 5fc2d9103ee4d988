import QualityScale.Evidence.Flow
import QualityScale.Evidence.Platforms
import QualityScale.Evidence.Setup
import QualityScale.Evidence.Typing

/-!
# The standard catalog

The rules of the quality scale, tier by tier, and the validators of those whose claims can be
checked on the files.
-/

namespace QualityScale.Catalog

/-- The rules of the quality scale, in the order in which they are listed. -/
def standardRules : List Rule := [
  ⟨"action-setup", .bronze, none⟩,
  ⟨"appropriate-polling", .bronze, none⟩,
  ⟨"brands", .bronze, none⟩,
  ⟨"common-modules", .bronze, none⟩,
  ⟨"config-flow", .bronze, some Evidence.configFlow⟩,
  ⟨"config-flow-test-coverage", .bronze, none⟩,
  ⟨"dependency-transparency", .bronze, none⟩,
  ⟨"docs-actions", .bronze, none⟩,
  ⟨"docs-high-level-description", .bronze, none⟩,
  ⟨"docs-installation-instructions", .bronze, none⟩,
  ⟨"docs-removal-instructions", .bronze, none⟩,
  ⟨"entity-event-setup", .bronze, none⟩,
  ⟨"entity-unique-id", .bronze, none⟩,
  ⟨"has-entity-name", .bronze, none⟩,
  ⟨"runtime-data", .bronze, some Evidence.runtimeData⟩,
  ⟨"test-before-configure", .bronze, none⟩,
  ⟨"test-before-setup", .bronze, none⟩,
  ⟨"unique-config-entry", .bronze, some Evidence.uniqueConfigEntry⟩,
  ⟨"action-exceptions", .silver, none⟩,
  ⟨"config-entry-unloading", .silver, some Evidence.configEntryUnloading⟩,
  ⟨"docs-configuration-parameters", .silver, none⟩,
  ⟨"docs-installation-parameters", .silver, none⟩,
  ⟨"entity-unavailable", .silver, none⟩,
  ⟨"integration-owner", .silver, none⟩,
  ⟨"log-when-unavailable", .silver, none⟩,
  ⟨"parallel-updates", .silver, some Evidence.parallelUpdates⟩,
  ⟨"reauthentication-flow", .silver, some Evidence.reauthenticationFlow⟩,
  ⟨"test-coverage", .silver, none⟩,
  ⟨"devices", .gold, none⟩,
  ⟨"diagnostics", .gold, some Evidence.diagnostics⟩,
  ⟨"discovery", .gold, some Evidence.discovery⟩,
  ⟨"discovery-update-info", .gold, none⟩,
  ⟨"docs-data-update", .gold, none⟩,
  ⟨"docs-examples", .gold, none⟩,
  ⟨"docs-known-limitations", .gold, none⟩,
  ⟨"docs-supported-devices", .gold, none⟩,
  ⟨"docs-supported-functions", .gold, none⟩,
  ⟨"docs-troubleshooting", .gold, none⟩,
  ⟨"docs-use-cases", .gold, none⟩,
  ⟨"dynamic-devices", .gold, none⟩,
  ⟨"entity-category", .gold, none⟩,
  ⟨"entity-device-class", .gold, none⟩,
  ⟨"entity-disabled-by-default", .gold, none⟩,
  ⟨"entity-translations", .gold, none⟩,
  ⟨"exception-translations", .gold, none⟩,
  ⟨"icon-translations", .gold, none⟩,
  ⟨"reconfiguration-flow", .gold, some Evidence.reconfigurationFlow⟩,
  ⟨"repair-issues", .gold, none⟩,
  ⟨"stale-devices", .gold, none⟩,
  ⟨"async-dependency", .platinum, none⟩,
  ⟨"inject-websession", .platinum, none⟩,
  ⟨"strict-typing", .platinum, some Evidence.strictTyping⟩
]

/-- The catalog of the quality scale. -/
def standard : Catalog where
  rules := standardRules
  kebab := by decide +kernel
  distinct := by decide +kernel

/-- It has fifty-two rules. -/
example : standard.size = 52 := rfl

/-- The validators of its rules. -/
theorem standardRules_validators :
    standardRules.filterMap (·.validator) =
      [Evidence.configFlow, Evidence.runtimeData, Evidence.uniqueConfigEntry,
        Evidence.configEntryUnloading, Evidence.parallelUpdates, Evidence.reauthenticationFlow,
        Evidence.diagnostics, Evidence.discovery, Evidence.reconfigurationFlow,
        Evidence.strictTyping] := rfl

/-- What holds of each of them holds of every validator of the standard catalog. -/
theorem forall_standard_validator {p : Validator → Prop} :
    (∀ r ∈ standard.rules, ∀ validate, r.validator = some validate → p validate) ↔
      p Evidence.configFlow ∧ p Evidence.runtimeData ∧ p Evidence.uniqueConfigEntry ∧
        p Evidence.configEntryUnloading ∧ p Evidence.parallelUpdates ∧
        p Evidence.reauthenticationFlow ∧ p Evidence.diagnostics ∧ p Evidence.discovery ∧
        p Evidence.reconfigurationFlow ∧ p Evidence.strictTyping := by
  have h : (∀ r ∈ standard.rules, ∀ validate, r.validator = some validate → p validate) ↔
      ∀ validate ∈ standardRules.filterMap (·.validator), p validate := by
    simp only [List.mem_filterMap, standard]
    exact ⟨fun h v ⟨r, hr, hv⟩ => h r hr v hv, fun h r hr v hv => h v ⟨r, hr, hv⟩⟩
  rw [h, standardRules_validators]
  simp only [List.forall_mem_cons, List.not_mem_nil, false_imp_iff, implies_true, and_true]

end QualityScale.Catalog
