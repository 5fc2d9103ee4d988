import QualityScale.Declaration.Schema
import QualityScale.NameSet

/-!
# Classification

Which rules a document declares met and which done.  Whatever has no status that can be read is
passed over, so a document that violates the schema is classified as far as it goes.
-/

namespace QualityScale

/-- The rules that a document declares met, and those among them that it declares done. -/
structure Classification where
  met : NameSet
  done : NameSet
  deriving DecidableEq

namespace Classification

/-- The entries of the rules of a document. -/
def ruleEntries (doc : Yaml.Value) : List (Yaml.Value × Yaml.Value) :=
  ((doc.get? Schema.rulesKey).bind (·.asMapping?)).getD []

/-- The name and status of one entry, if it has both. -/
def namedStatus? (e : Yaml.Value × Yaml.Value) : Option (String × Status) :=
  match e.1.asString?, Status.ofEntry? e.2 with
  | some name, some status => some (name, status)
  | _, _ => none

/-- The statuses that a document declares, in its order. -/
def statuses (doc : Yaml.Value) : List (String × Status) :=
  (ruleEntries doc).filterMap namedStatus?

/-- The names that have a status of some kind. -/
def namesWith (p : Status → Bool) (statuses : List (String × Status)) : NameSet :=
  .ofList ((statuses.filter fun s => p s.2).map Prod.fst)

/-- The classification of a document. -/
def ofDocument (doc : Yaml.Value) : Classification :=
  ⟨namesWith Status.isMet (statuses doc), namesWith (· == .done) (statuses doc)⟩

theorem mem_namesWith {p : Status → Bool} {statuses : List (String × Status)} {name : String} :
    name ∈ namesWith p statuses ↔ ∃ s, (name, s) ∈ statuses ∧ p s = true := by
  simp [namesWith]

end Classification

end QualityScale
