import QualityScale.Catalog.Listing
import QualityScale.Catalog.Standard
import QualityScale.Command.Arguments
import QualityScale.Exemption.Document
import QualityScale.Trace.Filter

/-!
# Running a command

What a command prints and how it ends, as a function of the command line, the environment and the
files.  A run that reports findings fails, and so does one whose input cannot be read.
-/

namespace QualityScale.Command

/-- Why a command fails, and what caused that. -/
structure Failure where
  message : String
  causes : List String := []
  deriving DecidableEq, Repr

/-- A cause, further lines of which are indented like its first. -/
def causeText (lead : String) (indent : String) (cause : String) : String :=
  lead ++ ("\n" ++ indent).intercalate
    ((Text.splitAt '\n' cause.toList).map String.ofList)

/-- What is printed about a failure; of several causes each has its number. -/
def Failure.text (f : Failure) : String :=
  let causes :=
    match f.causes with
    | [cause] => [causeText "    " "    " cause]
    | causes => causes.zipIdx.map fun (cause, n) => causeText s!"    {n}: " "       " cause
  let below := if causes.isEmpty then [] else "" :: "Caused by:" :: causes
  "\n".intercalate (s!"Error: {f.message}" :: below)

/-- What a command prints, how it ends, and what it logs. -/
structure Result where
  code : Nat := 0
  output : String := ""
  failure : Option Failure := none
  trace : Trace := []

/-- The exit code of a command that fails. -/
def failureCode : Nat := 1

/-- The exit code for a command line that makes no sense. -/
def usageCode : Nat := 2

/-- The program's name and version. -/
def versionText : String := "iqs 0.1.0"

/-! ## Validation -/

/-- The exemptions in force: the ones that always hold, and those of a file. -/
def exemptionsInForce (files : FileTree) (path : Option Path) : Except ExemptionError Exemptions :=
  match path with
  | none => .ok .builtin
  | some path => (Exemptions.load files path).map Exemptions.builtin.merge

/-- Why exemptions cannot be taken from a file. -/
def exemptionFailure (path : Option Path) (e : ExemptionError) : Failure where
  message := "Failed to load exemptions from " ++ (path.map (·.text)).getD ""
  causes :=
    e.message :: match e with
      | .file e => [e.message]
      | _ => []

/-- Why the integrations cannot be loaded. -/
def registryFailure (e : ComponentsNotFound) : Failure where
  message := "Failed to load integrations"
  causes := [e.message]

/-- Why a validation fails that has findings to report. -/
def findingsFailure : Failure where
  message := "Quality scale validation failed"

/-- The registry after validation, and what happened. -/
def validateRegistry (files : FileTree) (root : Path) (integrations : List String)
    (exemptions : Option Path) : Except Failure (Registry × Trace) := do
  let exemptions ← (exemptionsInForce files exemptions).mapError (exemptionFailure exemptions)
  let checker : Checker := ⟨Catalog.standard, exemptions⟩
  let config := ({ root } : Config).withSpecific integrations
  let (registry, loading) ←
    (Registry.load files config.componentsDirectory true config).mapError registryFailure
  return (checker.checkAll config files registry,
    loading ++ Trace.plain [.registryLoaded registry.size root] ++
      checker.trace config files registry)

/-- A report as it is printed. -/
def printReport (json : Bool) (r : Report) : String :=
  (if json then r.toJson.prettyText else r.text ++ r.summary) ++ "\n"

/-- The run of a validation. -/
def validate (files : FileTree) (root : Path) (integrations : List String)
    (exemptions : Option Path) (json : Bool) : Result :=
  match validateRegistry files root integrations exemptions with
  | .error failure => { code := failureCode, failure }
  | .ok (registry, trace) =>
    let report := Report.ofRegistry registry
    let output := printReport json report
    if report.hasFindings then
      { code := failureCode, output, failure := some findingsFailure, trace }
    else { output, trace }

/-! ## Other commands -/

/-- A listing as it is printed. -/
def printListing (json : Bool) (rules : List ListedRule) : String :=
  if json then (Json.Value.array (rules.map (·.toJson))).prettyText ++ "\n"
  else String.join ((ListedRule.lines none rules).map (· ++ "\n"))

/-- The run of an action. -/
def perform (files : FileTree) (json : Bool) : Action → Result
  | .showVersion => { output := versionText ++ "\n" }
  | .validate root integrations exemptions => validate files root integrations exemptions json
  | .listRules tier => { output := printListing json (Catalog.standard.listing tier) }

/-! ## Logging -/

/-- The filter of the log: the one of the environment if it can be read, or else the usual one. -/
def logFilter (environment : Environment) (verbose : Bool) : LogFilter :=
  (environment.log.bind LogFilter.ofText?).getD (.standard verbose)

/-- The events that are logged; there are none without the flag for JSON. -/
def logged (environment : Environment) (request : Request) (trace : Trace) : Trace :=
  if request.json then trace.filtered (logFilter environment request.verbose) else []

/-- The run of a command line. -/
def run (files : FileTree) (environment : Environment) (arguments : List String) : Result :=
  match Request.ofArguments? environment arguments with
  | none => { code := usageCode }
  | some request =>
    let result := perform files request.json request.action
    { result with trace := logged environment request result.trace }

end QualityScale.Command
