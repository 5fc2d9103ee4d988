import QualityScale.Catalog

/-!
# Tier completion

A tier is complete when every rule of it is met, and an integration that claims a tier has to
complete that tier and every tier below.  `shortfalls` lists the tiers that fall short, lowest
first, each with its missing rules in the order of their names.
-/

namespace QualityScale

/-- The rules that a tier still lacks. -/
structure Shortfall where
  tier : Tier
  /-- The names of the missing rules. -/
  missing : List String
  deriving DecidableEq, Repr

/-- What is reported for a tier that falls short. -/
def Shortfall.message (s : Shortfall) : String :=
  s.missing.foldl (fun text rule => text ++ s!"\n  {rule}: todo")
    s!"Quality scale tier {s.tier.name} requires quality scale rules to be met:"

/-- The rules of a tier that are not met, in the order of their names. -/
def missingRules (c : Catalog) (met : NameSet) (t : Tier) : NameSet :=
  .ofList ((c.required t).filter fun name => !met.contains name)

/-- A rule is missing from a tier exactly if it is a rule of that tier and not met. -/
theorem mem_missingRules {c : Catalog} {met : NameSet} {t : Tier} {name : String} :
    name ∈ missingRules c met t ↔ name ∈ c.required t ∧ name ∉ met := by
  simp [missingRules]

/-- Whether names that are no rules are met makes no difference. -/
theorem missingRules_congr {c : Catalog} {s t : NameSet}
    (h : ∀ r ∈ c.rules, r.name ∈ s ↔ r.name ∈ t) : missingRules c s = missingRules c t := by
  funext tier
  refine NameSet.ext fun name => ?_
  rw [mem_missingRules, mem_missingRules]
  refine and_congr_right fun hreq => not_congr ?_
  obtain ⟨r, hr, -, rfl⟩ := Catalog.mem_required.mp hreq
  exact h r hr

/-- The tiers up to the declared one that fall short, of ascending tiers that lack the given names.
A tier above the declared one ends the list; a tier that lacks nothing is passed over. -/
def shortfallsAmong (declared : Tier) (missing : Tier → List String) : List Tier → List Shortfall
  | [] => []
  | t :: ts =>
    if declared < t then []
    else
      match missing t with
      | [] => shortfallsAmong declared missing ts
      | names => ⟨t, names⟩ :: shortfallsAmong declared missing ts

/-- The tiers up to the declared one that fall short.  Without a declared tier there are none. -/
def shortfalls (c : Catalog) (met : NameSet) (declared : Option Tier) : List Shortfall :=
  match declared with
  | none => []
  | some declared => shortfallsAmong declared (fun t => (missingRules c met t).toList) Tier.all

/-- Where the tiers ascend, the first tier above the declared one has none but such after it. -/
theorem shortfallsAmong_eq {declared : Tier} {missing : Tier → List String} {tiers : List Tier}
    (h : tiers.Pairwise (· < ·)) :
    shortfallsAmong declared missing tiers =
      ((tiers.filter (· ≤ declared)).map fun t => ⟨t, missing t⟩).filter
        fun s => !s.missing.isEmpty := by
  induction tiers with
  | nil => rfl
  | cons t ts ih =>
    obtain ⟨habove, hts⟩ := List.pairwise_cons.mp h
    rw [shortfallsAmong]
    split
    next ht =>
      have hnone : (t :: ts).filter (· ≤ declared) = [] := by
        rw [List.filter_eq_nil_iff]
        intro u hu
        have htu : t ≤ u := by
          rcases List.mem_cons.mp hu with rfl | hu
          · exact Nat.le_refl _
          · exact Nat.le_of_lt (habove u hu)
        simpa [Tier.le_def] using Nat.lt_of_lt_of_le ht htu
      rw [hnone]
      rfl
    next ht =>
      have hle : t ≤ declared := Nat.le_of_not_lt ht
      have hkeep : (t :: ts).filter (· ≤ declared) = t :: ts.filter (· ≤ declared) :=
        List.filter_cons_of_pos (decide_eq_true hle)
      rw [hkeep, List.map_cons, ih hts]
      split
      next hlacks => rw [List.filter_cons_of_neg (by simp [hlacks])]
      next hlacks => rw [List.filter_cons_of_pos (by simpa using hlacks)]

theorem shortfalls_some {c : Catalog} {met : NameSet} {declared : Tier} :
    shortfalls c met (some declared) =
      ((Tier.all.filter (· ≤ declared)).map fun t => ⟨t, (missingRules c met t).toList⟩).filter
        fun s => !s.missing.isEmpty :=
  shortfallsAmong_eq (by decide)

theorem shortfalls_congr {c : Catalog} {s t : NameSet}
    (h : ∀ r ∈ c.rules, r.name ∈ s ↔ r.name ∈ t) (declared : Option Tier) :
    shortfalls c s declared = shortfalls c t declared := by
  cases declared with
  | none => rfl
  | some declared => rw [shortfalls, shortfalls, missingRules_congr h]

theorem missingRules_toList_eq_nil_iff {c : Catalog} {met : NameSet} {t : Tier} :
    (missingRules c met t).toList = [] ↔ ∀ r ∈ c.rules, r.tier = t → r.name ∈ met := by
  rw [List.eq_nil_iff_forall_not_mem]
  constructor
  · intro h r hr ht
    refine Decidable.byContradiction fun hmet => ?_
    exact h r.name (mem_missingRules.mpr ⟨Catalog.mem_required.mpr ⟨r, hr, ht, rfl⟩, hmet⟩)
  · intro h name hname
    obtain ⟨hreq, hmet⟩ := mem_missingRules.mp hname
    obtain ⟨r, hr, ht, rfl⟩ := Catalog.mem_required.mp hreq
    exact hmet (h r hr ht)

/-- No tier falls short exactly if every rule up to the declared tier is met. -/
theorem shortfalls_eq_nil_iff {c : Catalog} {met : NameSet} {declared : Option Tier} :
    shortfalls c met declared = [] ↔
      ∀ t, declared = some t → ∀ r ∈ c.rules, r.tier ≤ t → r.name ∈ met := by
  cases declared with
  | none => exact ⟨fun _ => nofun, fun _ => rfl⟩
  | some t =>
    rw [shortfalls_some, List.filter_eq_nil_iff]
    constructor
    · intro h t' ht r hr hle
      obtain rfl := Option.some.inj ht
      have hmem : r.tier ∈ Tier.all.filter (· ≤ t) :=
        List.mem_filter.mpr ⟨Tier.mem_all r.tier, decide_eq_true hle⟩
      have hnone : (missingRules c met r.tier).toList = [] := by
        simpa using h _ (List.mem_map_of_mem hmem)
      exact missingRules_toList_eq_nil_iff.mp hnone r hr rfl
    · intro h s hs
      obtain ⟨t', ht', rfl⟩ := List.mem_map.mp hs
      have hle : t' ≤ t := of_decide_eq_true (List.mem_filter.mp ht').2
      have hnone : (missingRules c met t').toList = [] :=
        missingRules_toList_eq_nil_iff.mpr fun r hr ht => h t rfl r hr (ht ▸ hle)
      simpa using hnone

end QualityScale
