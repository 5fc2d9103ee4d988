import QualityScale.Catalog
import QualityScale.Source.Module

/-!
# Evidence in the configuration flow

The rules whose evidence is the manifest and the module `config_flow`: that there is a flow, that
it can be entered again, that it handles discovery, and that it refuses to set the same thing up
twice.
-/

namespace QualityScale.Evidence

/-- The module that holds the configuration flow. -/
def flowModule : String := "config_flow"

/-- The manifest says that there is a configuration flow, and its module is there. -/
def configFlow : Validator := fun _ files i _ =>
  (if i.manifestFlag "config_flow" then []
    else ["Integration does not set config_flow in its manifest"]) ++
  (if i.hasModule files flowModule then []
    else ["Integration does not have a config_flow.py"])

/-- The configuration flow defines this step; without it a flow of this kind is missing. -/
def flowStep (step kind : String) : Validator := fun _ files i _ =>
  if i.moduleShows files flowModule (Source.defines · step.toList) then []
  else
    [s!"Integration does not support a {kind} flow (is missing `{step}` in config_flow.py)"]

/-- An expired login can be renewed. -/
def reauthenticationFlow : Validator :=
  flowStep "async_step_reauth" "reauthentication"

/-- A set-up integration can be configured again. -/
def reconfigurationFlow : Validator :=
  flowStep "async_step_reconfigure" "reconfiguration"

/-- The keys of a manifest that ask for discovery. -/
def discoveryKeys : List String :=
  ["bluetooth", "dhcp", "homekit", "mqtt", "ssdp", "usb", "zeroconf"]

/-- The manifest asks for discovery, or the configuration flow has a step for it. -/
def discovery : Validator := fun _ files i _ =>
  let inFlow (key : String) :=
    i.moduleShows files flowModule (Source.defines · ("async_step_" ++ key).toList)
  if discoveryKeys.any i.manifestHas || discoveryKeys.any inFlow then []
  else ["Integration is missing discovery in the manifest and config_flow.py"]

/-- The calls that keep one thing from being set up twice. -/
def uniquenessCalls : List String :=
  ["async_set_unique_id", "_async_abort_entries_match"]

/-- The manifest allows one entry only, or the configuration flow looks for an equal entry. -/
def uniqueConfigEntry : Validator := fun _ files i _ =>
  let guarded (call : String) := i.moduleShows files flowModule (Source.calls · call.toList)
  if i.manifestFlag "single_config_entry" || uniquenessCalls.any guarded then []
  else
    ["Integration doesn't prevent the same device or service from being able to be set up twice"]

end QualityScale.Evidence
