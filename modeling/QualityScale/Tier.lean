import QualityScale.Text.Blank
import QualityScale.Text.Case

/-!
# Tiers

The four tiers of the quality scale, their order, and the two ways to read one from text: the
strict way of a manifest and the lenient way of a command line.
-/

namespace QualityScale

/-- A tier of the quality scale. -/
inductive Tier where
  | bronze
  | silver
  | gold
  | platinum
  deriving DecidableEq, Repr, Inhabited

namespace Tier

/-- All tiers, ascending. -/
def all : List Tier := [bronze, silver, gold, platinum]

/-- The place of a tier on the scale, from the lowest. -/
def rank : Tier → Nat
  | bronze => 0
  | silver => 1
  | gold => 2
  | platinum => 3

instance : LE Tier := ⟨fun s t => s.rank ≤ t.rank⟩
instance : LT Tier := ⟨fun s t => s.rank < t.rank⟩

theorem le_def {s t : Tier} : s ≤ t ↔ s.rank ≤ t.rank := Iff.rfl

instance (s t : Tier) : Decidable (s ≤ t) := inferInstanceAs (Decidable (s.rank ≤ t.rank))
instance (s t : Tier) : Decidable (s < t) := inferInstanceAs (Decidable (s.rank < t.rank))

@[simp] theorem mem_all (t : Tier) : t ∈ all := by cases t <;> decide

theorem rank_injective {s t : Tier} (h : s.rank = t.rank) : s = t := by
  cases s <;> cases t <;> first | rfl | cases h

theorem le_antisymm {s t : Tier} (h : s ≤ t) (h' : t ≤ s) : s = t :=
  rank_injective (Nat.le_antisymm h h')

theorem lt_of_le_of_ne {s t : Tier} (h : s ≤ t) (hne : s ≠ t) : s < t :=
  Nat.lt_of_le_of_ne h fun hrank => hne (rank_injective hrank)

/-- The name of a tier, in lower case. -/
def name : Tier → String
  | bronze => "bronze"
  | silver => "silver"
  | gold => "gold"
  | platinum => "platinum"

/-- The tier with exactly this name; any other text names no tier. -/
def ofName? (s : String) : Option Tier :=
  all.find? fun t => t.name == s

theorem ofName?_eq_some_iff {s : String} {t : Tier} : ofName? s = some t ↔ t.name = s := by
  constructor
  · intro h
    simpa using List.find?_some h
  · rintro rfl
    cases t <;> decide

/-- The text that is no tier. -/
structure UnknownTier where
  text : String
  deriving DecidableEq, Repr

/-- What is said about a text that is no tier. -/
def UnknownTier.message (e : UnknownTier) : String :=
  s!"unknown tier: {e.text} (expected bronze, silver, gold or platinum)"

/-- The tier a person means: blanks around the name and the case of its letters do not count. -/
def parse (s : String) : Except UnknownTier Tier :=
  match ofName? (String.ofList (Text.lowercase (Text.trim s.toList))) with
  | some t => .ok t
  | none => .error ⟨s⟩

end Tier

end QualityScale
