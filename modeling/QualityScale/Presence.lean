import QualityScale.Exemption

/-!
# Presence of a declaration

Must, may or must not an integration carry a declaration file?  `Presence.classify` answers that
from the exemptions, and `Presence.check` says what follows once it is known whether the file is
there and which tier the manifest claims.  A breach ends the work on the integration.
-/

namespace QualityScale

/-- Why an integration may not carry a declaration. -/
inductive ForbiddenReason where
  /-- It is virtual and has no code of its own. -/
  | virtual
  /-- Its domain is exempt from the quality scale. -/
  | domain
  deriving DecidableEq, Repr

/-- The name of a reason. -/
def ForbiddenReason.name : ForbiddenReason → String
  | virtual => "virtual"
  | domain => "domain"

/-- What is asked of an integration. -/
inductive Presence where
  /-- It is not part of the core and is not looked at. -/
  | notApplicable
  | forbidden (reason : ForbiddenReason)
  /-- It is older than the mandate and may go without a declaration. -/
  | grandfathered
  | required
  deriving DecidableEq, Repr

/-- How the presence of a declaration can be wrong. -/
inductive PresenceBreach where
  | missingRequired
  | missingForDeclaredTier
  | virtualHasFile
  | forbiddenHasFile
  | grandfatheredHasFile
  deriving DecidableEq, Repr

namespace PresenceBreach

/-- The name of a breach in the trace. -/
def name : PresenceBreach → String
  | missingRequired => "MissingRequired"
  | missingForDeclaredTier => "MissingForDeclaredTier"
  | virtualHasFile => "VirtualHasFile"
  | forbiddenHasFile => "ForbiddenHasFile"
  | grandfatheredHasFile => "GrandfatheredHasFile"

/-- What is reported for a breach. -/
def message : PresenceBreach → String
  | missingRequired =>
    "Quality scale definition not found. New integrations are required to at least reach " ++
      "the Bronze tier."
  | missingForDeclaredTier =>
    "Quality scale definition not found. Integrations that set a manifest quality scale must " ++
      "have a quality scale definition."
  | virtualHasFile => "Virtual integrations are not allowed to have a quality scale file."
  | forbiddenHasFile => "This integration is not supposed to have a quality scale file."
  | grandfatheredHasFile =>
    "Quality scale file found! Please remove the integration from the grandfathered " ++
      "exemption list."

/-- Whether a breach says that a file is there; the others say that one is missing. -/
def saysPresent : PresenceBreach → Bool
  | missingRequired | missingForDeclaredTier => false
  | virtualHasFile | forbiddenHasFile | grandfatheredHasFile => true

end PresenceBreach

/-- What happens next to an integration. -/
inductive PresenceOutcome where
  | skip
  | validate
  | breach (b : PresenceBreach)
  deriving DecidableEq, Repr

namespace Presence

/-- What follows from the presence of a file and the tier that the manifest claims. -/
def check (p : Presence) (hasFile : Bool) (declared : Option Tier) : PresenceOutcome :=
  match p, hasFile with
  | notApplicable, _ => .skip
  | required, true => .validate
  | required, false => .breach .missingRequired
  | forbidden .virtual, true => .breach .virtualHasFile
  | forbidden .domain, true => .breach .forbiddenHasFile
  | grandfathered, true => .breach .grandfatheredHasFile
  | forbidden _, false | grandfathered, false =>
    if declared.isSome then .breach .missingForDeclaredTier else .skip

/-- What is asked of an integration; the first class that fits counts. -/
def classify (exemptions : Exemptions) (i : Integration) : Presence :=
  if !i.core then notApplicable
  else if i.kind = .virtual then forbidden .virtual
  else if exemptions.isForbidden i.domain then forbidden .domain
  else if exemptions.isGrandfathered i.domain then grandfathered
  else required

/-- What happens next to an integration. -/
def decide (exemptions : Exemptions) (i : Integration) (hasFile : Bool) : PresenceOutcome :=
  (classify exemptions i).check hasFile i.declaredTier

end Presence

end QualityScale
