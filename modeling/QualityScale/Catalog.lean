import QualityScale.Catalog.Index

/-!
# The rule catalog

A catalog is a list of rules, each of one tier and some with a validator.  Its names are in kebab
case and all different; both are part of the type, so a catalog can only be had from
`Catalog.ofRules`, which says what is wrong with a list that is none, or by a proof.  Rules are
found through the index that is made while the list is checked.

`Catalog.ofRules_eq_ok_iff` says that the catalog of a list has just the rules of the list.
-/

namespace QualityScale

/-- The rules of the quality scale, under names that are well formed and all different. -/
structure Catalog where
  rules : List Rule
  kebab : ∀ r ∈ rules, isKebab r.name = true
  distinct : (rules.map Rule.name).Nodup
  /-- Where the rules are found. -/
  index : RuleIndex := RuleIndex.ofRules rules
  indexed : index = RuleIndex.ofRules rules := by rfl

namespace Catalog

/-- The catalog of a list of rules, if it is one. -/
def ofRules (rules : List Rule) : Except CatalogError Catalog :=
  match h : RuleIndex.empty.build 0 rules with
  | .error e => .error e
  | .ok index =>
    have h := (RuleIndex.indexes_empty.build_eq_ok_iff wellNamed_nil).mp h
    .ok { rules, kebab := h.1.kebab, distinct := h.1.distinct, index, indexed := h.2 }

theorem wellNamed (c : Catalog) : WellNamed c.rules := ⟨c.kebab, c.distinct⟩

theorem indexes (c : Catalog) : c.index.Indexes c.rules :=
  c.indexed ▸ RuleIndex.indexes_ofRules c.wellNamed

theorem ofRules_eq_ok_iff {rules : List Rule} {c : Catalog} :
    ofRules rules = .ok c ↔ c.rules = rules := by
  constructor
  · intro h
    unfold ofRules at h
    split at h
    · cases h
    · rw [← Except.ok.inj h]
  · rintro rfl
    have hbuilt : RuleIndex.empty.build 0 c.rules = .ok c.index :=
      (RuleIndex.indexes_empty.build_eq_ok_iff wellNamed_nil).mpr ⟨c.wellNamed, c.indexed⟩
    unfold ofRules
    split
    next hfault => rw [hbuilt] at hfault; cases hfault
    next index hindex =>
      obtain rfl := Except.ok.inj (hbuilt.symm.trans hindex)
      rfl

/-- The rule with a name. -/
def rule? (c : Catalog) (name : String) : Option Rule :=
  (c.index.place? name).bind fun i => c.rules[i]?

/-- Whether a rule has the name. -/
def contains (c : Catalog) (name : String) : Bool :=
  (c.index.place? name).isSome

/-- The tier of the rule with a name. -/
def tierOf? (c : Catalog) (name : String) : Option Tier :=
  (c.rule? name).map (·.tier)

/-- The validator of the rule with a name. -/
def validator? (c : Catalog) (name : String) : Option Validator :=
  (c.rule? name).bind (·.validator)

/-- The names of the rules of exactly this tier, in the order of the catalog. -/
def required (c : Catalog) (t : Tier) : List String :=
  c.index.names t

/-- The number of rules. -/
def size (c : Catalog) : Nat :=
  c.rules.length

theorem contains_iff {c : Catalog} {name : String} :
    c.contains name = true ↔ ∃ r ∈ c.rules, r.name = name :=
  c.indexes.isSome_place?_iff

theorem required_eq (c : Catalog) (t : Tier) :
    c.required t = (c.rules.filter fun r => r.tier == t).map (·.name) :=
  c.indexes.names_eq t

theorem mem_required {c : Catalog} {t : Tier} {name : String} :
    name ∈ c.required t ↔ ∃ r ∈ c.rules, r.tier = t ∧ r.name = name := by
  simp [required_eq, and_assoc]

/-- The rule with a name is the one rule that has it. -/
theorem rule?_eq_some_iff {c : Catalog} {name : String} {r : Rule} :
    c.rule? name = some r ↔ r ∈ c.rules ∧ r.name = name := by
  simp only [rule?, Option.bind_eq_some_iff, c.indexes.places, List.mem_iff_getElem?]
  constructor
  · rintro ⟨i, ⟨x, hx, hname⟩, hr⟩
    obtain rfl := Option.some.inj (hx.symm.trans hr)
    exact ⟨⟨i, hr⟩, hname⟩
  · rintro ⟨⟨i, hr⟩, hname⟩
    exact ⟨i, ⟨r, hr, hname⟩, hr⟩

theorem validator?_eq_some_iff {c : Catalog} {name : String} {validate : Validator} :
    c.validator? name = some validate ↔
      ∃ r ∈ c.rules, r.name = name ∧ r.validator = some validate := by
  simp only [validator?, Option.bind_eq_some_iff, rule?_eq_some_iff, and_assoc]

end Catalog

/-- Two catalogs have rules of the same names and tiers, in whatever order and with whatever
validators. -/
def SameTiers (c c' : Catalog) : Prop :=
  ∀ name t,
    (∃ r ∈ c.rules, r.tier = t ∧ r.name = name) ↔ ∃ r ∈ c'.rules, r.tier = t ∧ r.name = name

end QualityScale
