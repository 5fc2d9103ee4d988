import QualityScale.Exemption.Grandfathered
import QualityScale.Integration
import QualityScale.NameSet
import QualityScale.Platform

/-!
# Exemptions

Two sets of domains are free from the duty to carry a declaration.  Platforms and helpers of the
core can never have one, and the grandfathered integrations do not have one yet.  `merge` is the
union, so an exemption in either part is an exemption in the merge.
-/

namespace QualityScale

/-- The domains exempt from carrying a declaration. -/
structure Exemptions where
  /-- Domains that must not carry one. -/
  forbidden : NameSet
  /-- Domains that may lack one. -/
  grandfathered : NameSet
  deriving DecidableEq

/-- The helper domains of the core, which cannot be rated. -/
def helperDomains : List String :=
  ["api", "application_credentials", "auth", "automation", "blueprint", "config", "configurator",
   "counter", "default_config", "device_automation", "device_tracker", "diagnostics", "ffmpeg",
   "file_upload", "frontend", "hardkernel", "hardware", "history", "homeassistant",
   "homeassistant_alerts", "homeassistant_green", "homeassistant_hardware",
   "homeassistant_sky_connect", "homeassistant_yellow", "image_upload", "input_boolean",
   "input_button", "input_datetime", "input_number", "input_select", "input_text",
   "intent_script", "intent", "logbook", "logger", "lovelace", "media_source", "my", "onboarding",
   "panel_custom", "proxy", "python_script", "raspberry_pi", "recovery_mode", "repairs",
   "schedule", "script", "search", "system_health", "system_log", "tag", "timer", "trace",
   "webhook", "websocket_api", "zone"]

namespace Exemptions

/-- No exemptions. -/
def empty : Exemptions := ⟨.empty, .empty⟩

/-- The exemptions that always hold. -/
def builtin : Exemptions :=
  ⟨.ofList (entityPlatforms ++ helperDomains), .ofList grandfatheredDomains⟩

/-- The exemptions of both. -/
def merge (a b : Exemptions) : Exemptions :=
  ⟨b.forbidden.union a.forbidden, b.grandfathered.union a.grandfathered⟩

/-- Whether a domain must not carry a declaration. -/
def isForbidden (e : Exemptions) (domain : String) : Bool :=
  e.forbidden.contains domain

/-- Whether a domain may lack a declaration. -/
def isGrandfathered (e : Exemptions) (domain : String) : Bool :=
  e.grandfathered.contains domain

/-- The first domain that is in both sets. -/
def contradiction? (e : Exemptions) : Option String :=
  (e.forbidden.common e.grandfathered).head?

theorem isForbidden_merge (a b : Exemptions) (domain : String) :
    (a.merge b).isForbidden domain = (a.isForbidden domain || b.isForbidden domain) := by
  rw [Bool.eq_iff_iff]
  simp [merge, isForbidden, or_comm]

theorem isGrandfathered_merge (a b : Exemptions) (domain : String) :
    (a.merge b).isGrandfathered domain =
      (a.isGrandfathered domain || b.isGrandfathered domain) := by
  rw [Bool.eq_iff_iff]
  simp [merge, isGrandfathered, or_comm]

end Exemptions

end QualityScale
