import QualityScale.Checker

/-!
# Validators that look at what was reported

A validator may look at what was reported about its integration before it runs, and then it is
another validator for another entry.  A checker with such validators can be had in two ways.

* As a checker for each entry.  `Checker.checkEach` and `Checker.traceEach` are a run of it on a
  registry.
* As a `Watcher`: a checker for what is reported by the time the validators run.  That is what the
  entry came with, and the message about the schema.

A checker whose validators do not look there is the same one for all entries and all that is
reported.
-/

namespace QualityScale

namespace Checker

end Checker

/-- A checker whose validators may look at what was reported about the integration before they run:
the checker that it is, given that.  Only the validators may differ. -/
structure Watcher where
  seeing : List Finding → Checker
  exemptions : ∀ s t, (seeing s).exemptions = (seeing t).exemptions
  sameTiers : ∀ s t, SameTiers (seeing s).catalog (seeing t).catalog

/-- A checker whose validators do not look there. -/
def Checker.unwatching (c : Checker) : Watcher where
  seeing _ := c
  exemptions _ _ := rfl
  sameTiers _ _ _ _ := Iff.rfl

namespace Watcher

/-- What was reported about an entry when the validators run: what it came with, and what the schema
says if there is a document. -/
def reported (w : Watcher) (files : FileTree) (e : Entry) : List Finding :=
  match Declaration.load files e.integration.declarationPath with
  | .error _ => e.findings
  | .ok doc =>
    e.findings ++
      (Verdict.schemaMessages e.integration
        (Schema.violations (w.seeing e.findings).catalog doc)).map (⟨checkerCategory, ·⟩)

/-- The entry with the findings about its integration added. -/
def check (w : Watcher) (config : Config) (files : FileTree) (e : Entry) : Entry :=
  (w.seeing (w.reported files e)).check config files e

end Watcher

end QualityScale
