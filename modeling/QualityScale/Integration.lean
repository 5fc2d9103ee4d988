import QualityScale.Json.Value
import QualityScale.Path
import QualityScale.Tier

/-!
# Integrations

An integration as its manifest describes it, and the findings that were reported against it.  The
two are kept apart: a check sees an `Integration`, and only what runs the checks holds the
`Entry` with the findings.
-/

namespace QualityScale

/-- What an integration is for, as its manifest says. -/
inductive IntegrationKind where
  | device
  | entity
  | hardware
  | helper
  | hub
  | service
  | system
  /-- Points at another integration and has no code of its own. -/
  | virtual
  | other
  deriving DecidableEq, Repr, Inhabited

namespace IntegrationKind

/-- The kinds, each with its name; any other name stands for `other`. -/
def named : List (String × IntegrationKind) :=
  [("device", device), ("entity", entity), ("hardware", hardware), ("helper", helper),
   ("hub", hub), ("service", service), ("system", system), ("virtual", virtual), ("other", other)]

/-- The kind with a name. -/
def ofName (s : String) : IntegrationKind :=
  (named.lookup s).getD other

/-- The name of a kind. -/
def name : IntegrationKind → String
  | device => "device"
  | entity => "entity"
  | hardware => "hardware"
  | helper => "helper"
  | hub => "hub"
  | service => "service"
  | system => "system"
  | virtual => "virtual"
  | other => "other"

@[simp] theorem ofName_name (k : IntegrationKind) : ofName k.name = k := by
  cases k <;> decide

end IntegrationKind

/-- An integration: a directory of the checkout and what its manifest says. -/
structure Integration where
  domain : String
  path : Path
  /-- Whether the integration is shipped with the core. -/
  core : Bool
  kind : IntegrationKind := .hub
  /-- What the manifest says about the quality scale, tier or not. -/
  qualityScale : Option String := none
  manifest : Json.Value := .object []

namespace Integration

/-- The tier that the manifest claims. -/
def declaredTier (i : Integration) : Option Tier :=
  i.qualityScale.bind Tier.ofName?

/-- Whether a key of the manifest is set to true. -/
def manifestFlag (i : Integration) (key : String) : Bool :=
  ((i.manifest.get? key).bind Json.Value.bool?).getD false

/-- Whether the manifest has a key. -/
def manifestHas (i : Integration) (key : String) : Bool :=
  (i.manifest.get? key).isSome

end Integration

/-- One thing that is wrong with an integration. -/
structure Finding where
  category : String
  message : String
  deriving DecidableEq, Repr

/-- An integration with the findings reported against it, oldest first. -/
structure Entry where
  integration : Integration
  findings : List Finding := []

namespace Entry

/-- The entry with further findings. -/
def report (e : Entry) (findings : List Finding) : Entry :=
  { e with findings := e.findings ++ findings }

/-- The messages of the findings in one category. -/
def messagesIn (e : Entry) (category : String) : List String :=
  (e.findings.filter (·.category == category)).map (·.message)

/-- The entry with no findings. -/
def clear (e : Entry) : Entry :=
  { e with findings := [] }

@[simp] theorem integration_report (e : Entry) (fs : List Finding) :
    (e.report fs).integration = e.integration := rfl

@[simp] theorem findings_report (e : Entry) (fs : List Finding) :
    (e.report fs).findings = e.findings ++ fs := rfl

@[simp] theorem report_nil (e : Entry) : e.report [] = e := by
  rw [report, List.append_nil]

theorem report_report (e : Entry) (fs gs : List Finding) :
    (e.report fs).report gs = e.report (fs ++ gs) := by
  rw [report, report, report, List.append_assoc]

end Entry

end QualityScale
