import QualityScale.Config
import QualityScale.FileTree
import QualityScale.Integration
import QualityScale.NameSet
import QualityScale.Text.Quoted

/-!
# Rules

A rule of the quality scale has a name, a tier and perhaps a validator.  Rules that stand in one
list have names in kebab case, all different; `FaultAfter` says what is wrong with one that may not
follow the others.
-/

namespace QualityScale

/--
A check of the claim that a rule is done.  It sees the configuration, the files, the integration
and the names of all rules declared done, and returns one message for each thing that speaks
against the claim.
-/
abbrev Validator := Config → FileTree → Integration → NameSet → List String

/-- A rule of the catalog. -/
structure Rule where
  name : String
  tier : Tier
  validator : Option Validator := none

/-- A character of the words of a rule's name. -/
def isKebabChar (c : Char) : Bool :=
  c.isLower || c.isDigit

/-- Whether a name is in kebab case: words of lower-case letters and digits, joined by hyphens. -/
def isKebab (name : String) : Bool :=
  (Text.splitAt '-' name.toList).all fun word => !word.isEmpty && word.all isKebabChar

/-- Why a list of rules is no catalog. -/
inductive CatalogError where
  | invalidName (name : String)
  | duplicate (name : String)
  deriving DecidableEq, Repr

/-- What is said about a list of rules that is no catalog. -/
def CatalogError.message : CatalogError → String
  | invalidName name => s!"rule name is not kebab-case: {Text.quote name}"
  | duplicate name => s!"duplicate rule in catalog: {name}"

/-- The names of the rules are well formed and all different. -/
structure WellNamed (rules : List Rule) : Prop where
  kebab : ∀ r ∈ rules, isKebab r.name = true
  distinct : (rules.map Rule.name).Nodup

/-- A rule is at fault after others: its name is not well formed, or one of the others has it. -/
inductive FaultAfter (rules : List Rule) (r : Rule) : CatalogError → Prop
  | name (malformed : isKebab r.name = false) : FaultAfter rules r (.invalidName r.name)
  | duplicate (kebab : isKebab r.name = true) (seen : ∃ x ∈ rules, x.name = r.name) :
      FaultAfter rules r (.duplicate r.name)

section WellNamed

variable {rules : List Rule} {r : Rule}

theorem wellNamed_nil : WellNamed [] := ⟨by simp, by simp⟩

theorem WellNamed.left {more : List Rule} (h : WellNamed (rules ++ more)) : WellNamed rules where
  kebab := fun r hr => h.kebab r (List.mem_append_left _ hr)
  distinct := by
    have hd := h.distinct
    rw [List.map_append, List.nodup_append] at hd
    exact hd.1

theorem wellNamed_concat_iff :
    WellNamed (rules ++ [r]) ↔
      WellNamed rules ∧ isKebab r.name = true ∧ ∀ x ∈ rules, x.name ≠ r.name := by
  constructor
  · intro h
    refine ⟨h.left, h.kebab r (by simp), fun x hx => ?_⟩
    have hd := h.distinct
    rw [List.map_append, List.nodup_append] at hd
    exact hd.2.2 x.name (List.mem_map_of_mem hx) r.name List.mem_cons_self
  · rintro ⟨⟨hkebab, hdistinct⟩, hr, hnew⟩
    refine ⟨fun x hx => ?_, ?_⟩
    · rcases List.mem_append.mp hx with hx | hx
      · exact hkebab x hx
      · rwa [List.mem_singleton.mp hx]
    · rw [List.map_append, List.nodup_append]
      refine ⟨hdistinct, by simp, fun name hname last hlast => ?_⟩
      obtain ⟨x, hx, rfl⟩ := List.mem_map.mp hname
      rw [List.mem_singleton.mp hlast]
      exact hnew x hx

/-- A rule is at fault exactly if it may not follow. -/
theorem exists_faultAfter_iff (h : WellNamed rules) :
    (∃ e, FaultAfter rules r e) ↔ ¬ WellNamed (rules ++ [r]) := by
  rw [wellNamed_concat_iff, and_iff_right h]
  constructor
  · rintro ⟨_, malformed | ⟨_, x, hx, hname⟩⟩ ⟨hkebab, hnew⟩
    · exact absurd hkebab (by simp [malformed])
    · exact hnew x hx hname
  · intro hn
    by_cases hkebab : isKebab r.name = true
    · refine ⟨_, .duplicate hkebab (Decidable.byContradiction fun hnone => hn ⟨hkebab, ?_⟩)⟩
      exact fun x hx hname => hnone ⟨x, hx, hname⟩
    · exact ⟨_, .name (Bool.eq_false_iff.mpr hkebab)⟩

end WellNamed

end QualityScale
