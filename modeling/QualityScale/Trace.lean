import QualityScale.Dispatch
import QualityScale.Presence

/-!
# The trace of a run

What happened in a run, as a list of events.  An event that concerns one integration stands in
that integration's span; the span is added where the work on an integration begins, so the same
event may occur with and without one.
-/

namespace QualityScale

/-- How much an event matters, most first. -/
inductive Level where
  | error
  | warn
  | info
  | debug
  deriving DecidableEq, Repr

namespace Level

/-- The name of a level. -/
def name : Level → String
  | error => "ERROR"
  | warn => "WARN"
  | info => "INFO"
  | debug => "DEBUG"

/-- The place of a level, from the most important one. -/
def rank : Level → Nat
  | error => 0
  | warn => 1
  | info => 2
  | debug => 3

end Level

/-- Something that happened. -/
inductive Event where
  | directorySkipped (path : Path)
  | integrationLoaded (domain : String)
  | registryLoaded (count : Nat) (root : Path)
  | validationStarted (integrations : Nat)
  | notChecked (domain : String) (hasFile : Bool)
  | presenceBreached (domain : String) (breach : PresenceBreach)
  | declarationUnreadable (domain : String) (error : String)
  | validatorRan (domain rule : String) (errors : Nat)
  | ruleFailed (domain rule : String) (errors : Nat)
  | integrationChecked (domain : String) (errors : Nat)
  | validationFinished (integrations failing : Nat)
  deriving DecidableEq, Repr

/-- The value of a field of an event. -/
inductive FieldValue where
  | text (s : String)
  | count (n : Nat)
  | flag (b : Bool)
  deriving DecidableEq, Repr

namespace Event

/-- How much an event matters. -/
def level : Event → Level
  | directorySkipped .. | presenceBreached .. | declarationUnreadable .. | ruleFailed .. => .warn
  | registryLoaded .. | validationStarted .. | validationFinished .. => .info
  | integrationLoaded .. | notChecked .. | validatorRan .. | integrationChecked .. => .debug

/-- The part of the program that an event comes from. -/
def target : Event → String
  | directorySkipped .. | integrationLoaded .. => "iqs_core::integration"
  | registryLoaded .. => "iqs"
  | notChecked .. => "iqs_core::checker"
  | validatorRan .. => "iqs_core::validators"
  | validationStarted .. | presenceBreached .. | declarationUnreadable .. | ruleFailed ..
  | integrationChecked .. | validationFinished .. => "iqs_core::obs"

/-- The fields of an event.  An event has a name or a message. -/
def fields : Event → List (String × FieldValue)
  | directorySkipped path =>
    [("message", .text "Skipping directory without manifest.json"), ("path", .text path.text)]
  | integrationLoaded domain =>
    [("message", .text "Loaded integration"), ("domain", .text domain)]
  | registryLoaded count root =>
    [("message", .text "Loaded integrations"), ("count", .count count), ("root", .text root.text)]
  | validationStarted integrations =>
    [("event", .text "validation.started"), ("integrations", .count integrations)]
  | notChecked domain hasFile =>
    [("message", .text "Quality scale not checked"), ("domain", .text domain),
      ("has_file", .flag hasFile)]
  | presenceBreached domain breach =>
    [("event", .text "presence.violation"), ("domain", .text domain),
      ("violation", .text breach.name)]
  | declarationUnreadable domain error =>
    [("event", .text "declaration.parse_failed"), ("domain", .text domain),
      ("error", .text error)]
  | validatorRan domain rule errors =>
    [("message", .text "Ran rule validator"), ("domain", .text domain), ("rule", .text rule),
      ("errors", .count errors)]
  | ruleFailed domain rule errors =>
    [("event", .text "rule.failed"), ("domain", .text domain), ("rule", .text rule),
      ("errors", .count errors)]
  | integrationChecked domain errors =>
    [("event", .text "integration.checked"), ("domain", .text domain), ("errors", .count errors)]
  | validationFinished integrations failing =>
    [("event", .text "validation.finished"), ("integrations", .count integrations),
      ("failing", .count failing)]

end Event

/-- An event and the integration in whose span it stands. -/
structure TraceEntry where
  span : Option String
  event : Event
  deriving DecidableEq, Repr

/-- What happened in a run, in order. -/
abbrev Trace := List TraceEntry

namespace Trace

/-- Events outside any span. -/
def plain (events : List Event) : Trace :=
  events.map (⟨none, ·⟩)

/-- Events in the span of an integration. -/
def within (domain : String) (events : List Event) : Trace :=
  events.map (⟨some domain, ·⟩)

/-- The name of the span of an integration. -/
def spanName : String := "iqs.integration"

/-- The part of the program that the spans of integrations come from. -/
def spanTarget : String := "iqs_core::obs"

/-- The field of a span that holds the domain of its integration. -/
def spanField : String := "domain"

/-- How much the span of an integration matters. -/
def spanLevel : Level := .info

end Trace

/-- The events of validators that ran on an integration. -/
def runEvents (domain : String) (runs : List RuleRun) : List Event :=
  runs.map fun r => .validatorRan domain r.rule r.messages.length

end QualityScale
