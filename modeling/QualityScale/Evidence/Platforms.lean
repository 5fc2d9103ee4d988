import QualityScale.Catalog
import QualityScale.Platform
import QualityScale.Source.Module

/-!
# Evidence in the platform modules

The rules whose evidence is spread over modules named for a platform: diagnostics, and the number
of updates that each entity platform makes at a time.
-/

namespace QualityScale.Evidence

/-- The functions of which a diagnostics module defines one. -/
def diagnosticsFunctions : List String :=
  ["async_get_config_entry_diagnostics", "async_get_device_diagnostics"]

/-- The diagnostics module is there and defines one of its functions. -/
def diagnostics : Validator := fun _ files i _ =>
  match i.moduleText? files "diagnostics" with
  | none =>
    ["Integration does not implement the diagnostics platform (is missing diagnostics.py)"]
  | some text =>
    if diagnosticsFunctions.any fun f => Source.defines text.toList f.toList then []
    else
      ["Integration diagnostics.py does not define " ++
        String.intercalate " or " diagnosticsFunctions]

/-- Every entity platform that the integration ships says how many updates it makes at a time. -/
def parallelUpdates : Validator := fun _ files i _ =>
  entityPlatforms.filterMap fun platform =>
    match i.moduleText? files platform with
    | none => none
    | some text =>
      if Source.assigns text.toList "PARALLEL_UPDATES".toList then none
      else some s!"Integration does not set `PARALLEL_UPDATES` in {platform}"

end QualityScale.Evidence
