import QualityScale.Completion
import QualityScale.Declaration.Classification
import QualityScale.Declaration.Document
import QualityScale.Registry

/-!
# The checker

What is found out about one integration is a `Verdict`.  The findings that are reported and the
events that are traced both follow from it, so they cannot disagree.

A breach of presence or a declaration that cannot be read ends the work on an integration.  Once
the declaration is read, its violations, the failed validators and the tiers that fall short are
found independently of each other.
-/

namespace QualityScale

/-- A checker: the rules and the exemptions. -/
structure Checker where
  catalog : Catalog
  exemptions : Exemptions

/-- What is found out about an integration. -/
inductive Verdict where
  /-- There is nothing to check. -/
  | skipped (hasFile : Bool)
  | breach (b : PresenceBreach)
  | unreadable (e : DeclarationError)
  /-- The declaration was checked. -/
  | checked (violations : List Violation) (runs : List RuleRun) (shortfalls : List Shortfall)

/-- The category of the checker's findings. -/
def checkerCategory : String := "quality_scale"

/-- The file with the integration's declaration. -/
def Integration.declarationPath (i : Integration) : Path :=
  i.path.child declarationFile

namespace Verdict

/-- What is reported for the violations of a declaration, if there are any. -/
def schemaMessages (i : Integration) (violations : List Violation) : List String :=
  if violations.isEmpty then []
  else [s!"Invalid {i.declarationPath.text}: {Schema.report violations}"]

/-- The messages of the findings, in order. -/
def messages (i : Integration) : Verdict → List String
  | skipped _ => []
  | breach b => [b.message]
  | unreadable _ => ["Invalid " ++ declarationFile]
  | checked violations runs shortfalls =>
    schemaMessages i violations ++ (runs.filter (·.failed)).flatMap (·.report) ++
      shortfalls.map (·.message)

/-- The findings, in order. -/
def findings (i : Integration) (v : Verdict) : List Finding :=
  (v.messages i).map (⟨checkerCategory, ·⟩)

/-- The events, for an integration that had a number of findings in this category before. -/
def events (i : Integration) (before : Nat) (v : Verdict) : List Event :=
  match v with
  | skipped hasFile => [.notChecked i.domain hasFile]
  | breach b => [.presenceBreached i.domain b]
  | unreadable e => [.declarationUnreadable i.domain e.message]
  | checked _ runs _ =>
    runEvents i.domain runs ++
      (runs.filter (·.failed)).map (fun r => .ruleFailed i.domain r.rule r.messages.length) ++
      [.integrationChecked i.domain (before + (v.messages i).length)]

end Verdict

namespace Checker

/-- What is found out from the document of a declaration. -/
def judge (c : Checker) (config : Config) (files : FileTree) (i : Integration) (doc : Yaml.Value) :
    Verdict :=
  let rules := Classification.ofDocument doc
  .checked (Schema.violations c.catalog doc)
    (validatorRuns c.catalog config files i rules.done)
    (shortfalls c.catalog rules.met i.declaredTier)

/-- What is found out about an integration. -/
def verdict (c : Checker) (config : Config) (files : FileTree) (i : Integration) : Verdict :=
  let hasFile := files.isFile i.declarationPath
  match Presence.decide c.exemptions i hasFile with
  | .skip => .skipped hasFile
  | .breach b => .breach b
  | .validate =>
    match Declaration.load files i.declarationPath with
    | .error e => .unreadable e
    | .ok doc => c.judge config files i doc

section Verdict

variable {c : Checker} {config : Config} {files : FileTree} {i : Integration}

theorem verdict_of_skip
    (h : Presence.decide c.exemptions i (files.isFile i.declarationPath) = .skip) :
    c.verdict config files i = .skipped (files.isFile i.declarationPath) := by
  simp only [verdict, h]

theorem verdict_of_breach {b : PresenceBreach}
    (h : Presence.decide c.exemptions i (files.isFile i.declarationPath) = .breach b) :
    c.verdict config files i = .breach b := by
  simp only [verdict, h]

theorem verdict_of_unreadable {e : DeclarationError}
    (h : Presence.decide c.exemptions i (files.isFile i.declarationPath) = .validate)
    (hload : Declaration.load files i.declarationPath = .error e) :
    c.verdict config files i = .unreadable e := by
  simp only [verdict, h, hload]

theorem verdict_of_document {doc : Yaml.Value}
    (h : Presence.decide c.exemptions i (files.isFile i.declarationPath) = .validate)
    (hload : Declaration.load files i.declarationPath = .ok doc) :
    c.verdict config files i = c.judge config files i doc := by
  simp only [verdict, h, hload]

end Verdict

/-- The findings about an integration. -/
def findings (c : Checker) (config : Config) (files : FileTree) (i : Integration) : List Finding :=
  (c.verdict config files i).findings i

/-- The entry with the findings about its integration added. -/
def check (c : Checker) (config : Config) (files : FileTree) (e : Entry) : Entry :=
  e.report (c.findings config files e.integration)

/-- What happens while an entry is checked. -/
def events (c : Checker) (config : Config) (files : FileTree) (e : Entry) : List Event :=
  (c.verdict config files e.integration).events e.integration
    (e.messagesIn checkerCategory).length

/-- The number of entries with a finding of the checker. -/
def failing (r : Registry) : Nat :=
  (r.values.filter fun e => !(e.messagesIn checkerCategory).isEmpty).length

/-- The registry with the findings about every integration added. -/
def checkAll (c : Checker) (config : Config) (files : FileTree) (r : Registry) : Registry :=
  r.map (c.check config files)

/-- What happens while a registry is checked. -/
def trace (c : Checker) (config : Config) (files : FileTree) (r : Registry) : Trace :=
  Trace.plain [.validationStarted r.size] ++
    r.values.flatMap (fun e => Trace.within e.integration.domain (c.events config files e)) ++
    Trace.plain [.validationFinished r.size (failing (c.checkAll config files r))]

end Checker

end QualityScale
