import QualityScale.Checker

/-!
# Reports

What a run has to say: how many integrations were checked, and the findings about each one that
has any, in the order of the domains.
-/

namespace QualityScale

/-- The findings about one integration. -/
structure IntegrationReport where
  domain : String
  findings : List Finding
  deriving DecidableEq, Repr

/-- The outcome of a run. -/
structure Report where
  checked : Nat
  integrations : List IntegrationReport
  deriving DecidableEq, Repr

namespace Report

/-- The report on a registry: all integrations with findings. -/
def ofRegistry (r : Registry) : Report where
  checked := r.size
  integrations := (r.values.filter fun e => !e.findings.isEmpty).map fun e =>
    ⟨e.integration.domain, e.findings⟩

/-- Whether anything was found. -/
def hasFindings (r : Report) : Bool :=
  !r.integrations.isEmpty

/-- The number of findings. -/
def count (r : Report) : Nat :=
  (r.integrations.flatMap fun i => i.findings).length

/-- The lines about one integration, and an empty one. -/
def block (i : IntegrationReport) : String :=
  s!"Integration {i.domain}:\n" ++
    String.join (i.findings.map fun f => s!" * [{f.category}] {f.message}\n") ++ "\n"

/-- The report as a text. -/
def text (r : Report) : String :=
  String.join (r.integrations.map block)

/-- The line that ends a printed report. -/
def summary (r : Report) : String :=
  s!"Checked {r.checked} integrations: {r.integrations.length} with errors ({r.count} errors)"

end Report

end QualityScale
