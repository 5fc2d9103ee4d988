import QualityScale.Json.Record

/-!
# Listing the catalog

The rules by tier, lowest tier first, and by name within a tier.
-/

namespace QualityScale

/-- A rule as it is listed. -/
structure ListedRule where
  name : String
  tier : Tier
  /-- Whether claims about the rule are checked. -/
  validated : Bool
  deriving DecidableEq, Repr

namespace ListedRule

/-- A rule of the catalog as it is listed. -/
def ofRule (r : Rule) : ListedRule :=
  ⟨r.name, r.tier, r.validator.isSome⟩

/-- Whether a rule does not come after another in a listing: it is of a lower tier, or of the same
tier and has no greater name. -/
def notAfter (a b : ListedRule) : Bool :=
  a.tier < b.tier || a.tier = b.tier && !(b.name < a.name)

end ListedRule

/-- The rules of one tier, or of all, in the order of tiers and names. -/
def Catalog.listing (c : Catalog) (tier : Option Tier) : List ListedRule :=
  ((c.rules.filter fun r => tier.all (r.tier == ·)).map .ofRule).mergeSort ListedRule.notAfter

namespace ListedRule

/-- A listed rule as JSON. -/
def toJson (r : ListedRule) : Json.Value :=
  .object [("name", .string r.name), ("tier", r.tier.toJson), ("validated", .bool r.validated)]

/-- The line of a listed rule. -/
def line (r : ListedRule) : String :=
  s!"  {r.name}" ++ if r.validated then " (validated)" else ""

/-- The lines of a listing, with a heading wherever the tier changes. -/
def lines (heading : Option Tier) : List ListedRule → List String
  | [] => []
  | r :: rs =>
    (if heading = some r.tier then [] else [r.tier.name ++ ":"]) ++ r.line :: lines (some r.tier) rs

end ListedRule

end QualityScale
