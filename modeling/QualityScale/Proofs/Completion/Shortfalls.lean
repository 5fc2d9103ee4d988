import Mathlib.Data.List.Sort
import QualityScale.Completion
import QualityScale.Proofs.Text.ByteOrder

/-!
# What the tiers lack

Completion goes through the tiers from the lowest one up to the declared one and lists those that
lack rules, each with the names that it lacks.

* `FallsShort c met s`: the tier of `s` lacks just the rules that `s` names, and there are some.
* `mem_shortfalls_iff`: what is listed are the tiers up to the declared one that fall short.
* `Accounts c met d short`: the list `short` says of each tier up to `d` what it lacks, in order.
* `shortfalls_accounts`: completion gives such a list.  It is empty exactly if nothing is missing,
  it can be met, it shrinks when more is met, and it takes no notice of names that are no rules.
-/

namespace QualityScale

/-- The tier lacks these rules, of which there is at least one. -/
structure FallsShort (c : Catalog) (met : NameSet) (s : Shortfall) : Prop where
  lacking : s.missing ≠ []
  ascending : s.missing.Pairwise (· < ·)
  lacks : ∀ name, name ∈ s.missing ↔
    (∃ r ∈ c.rules, r.tier = s.tier ∧ r.name = name) ∧ name ∉ met

/-- Lists that ascend by a key and have the same members are the same. -/
theorem eq_of_ascending_of_mem_iff {α κ : Type} [LT κ] (hirrefl : ∀ k : κ, ¬ k < k)
    (htrans : ∀ {k l m : κ}, k < l → l < m → k < m) (key : α → κ) {xs ys : List α}
    (hxs : (xs.map key).Pairwise (· < ·)) (hys : (ys.map key).Pairwise (· < ·))
    (hmem : ∀ a, a ∈ xs ↔ a ∈ ys) : xs = ys := by
  have hx := List.pairwise_map.mp hxs
  have hy := List.pairwise_map.mp hys
  have : Std.Irrefl fun a b => key a < key b := ⟨fun a => hirrefl (key a)⟩
  have : Std.Antisymm fun a b => key a < key b :=
    ⟨fun a b hab hba => absurd (htrans hab hba) (hirrefl _)⟩
  exact hx.eq_of_mem_iff hy hmem

section Shortfalls

variable {c : Catalog} {met : NameSet} {declared : Option Tier}

theorem fallsShort_iff {s : Shortfall} :
    FallsShort c met s ↔ s.missing = (missingRules c met s.tier).toList ∧ s.missing ≠ [] := by
  have hmem : ∀ name, name ∈ (missingRules c met s.tier).toList ↔
      (∃ r ∈ c.rules, r.tier = s.tier ∧ r.name = name) ∧ name ∉ met := by
    intro name
    rw [← NameSet.mem_def, mem_missingRules, Catalog.mem_required]
  constructor
  · rintro ⟨hsome, hascending, hlacks⟩
    refine ⟨eq_of_ascending_of_mem_iff String.lt_irrefl String.lt_trans id ?_ ?_ ?_, hsome⟩
    · rwa [List.map_id]
    · rw [List.map_id]
      exact (missingRules c met s.tier).ascending
    · exact fun name => (hlacks name).trans (hmem name).symm
  · rintro ⟨hmissing, hsome⟩
    refine ⟨hsome, ?_, fun name => ?_⟩
    · rw [hmissing]
      exact (missingRules c met s.tier).ascending
    · rw [hmissing, hmem]

theorem mem_shortfalls_iff {s : Shortfall} :
    s ∈ shortfalls c met declared ↔
      (∃ t, declared = some t ∧ s.tier ≤ t) ∧ FallsShort c met s := by
  rw [fallsShort_iff]
  cases declared with
  | none => simp [shortfalls]
  | some d =>
    obtain ⟨tier, missing⟩ := s
    simp only [shortfalls_some, List.mem_filter, List.mem_map, Tier.mem_all, true_and,
      decide_eq_true_eq, Shortfall.mk.injEq]
    constructor
    · rintro ⟨⟨t, ht, rfl, rfl⟩, hsome⟩
      exact ⟨⟨d, rfl, ht⟩, rfl, by simpa using hsome⟩
    · rintro ⟨⟨t, ht, hle⟩, hmissing, hsome⟩
      obtain rfl := Option.some.inj ht
      exact ⟨⟨tier, hle, rfl, hmissing.symm⟩, by simpa using hsome⟩

theorem tiers_ascending : ((shortfalls c met declared).map Shortfall.tier).Pairwise (· < ·) := by
  cases declared with
  | none => exact .nil
  | some d =>
    have hall : (Tier.all.filter (· ≤ d)).Pairwise (· < ·) :=
      List.Pairwise.sublist List.filter_sublist (by decide)
    rw [shortfalls_some]
    refine List.Pairwise.sublist (List.filter_sublist.map _) ?_
    rw [List.map_map]
    exact (List.map_id _).symm ▸ hall

end Shortfalls

/-- **The list says of each tier up to the declared one what it lacks**: the tiers that lack rules
are in it, lowest first, each with the names of these rules in the order of their bytes. -/
structure Accounts (c : Catalog) (met : NameSet) (declared : Tier) (short : List Shortfall) :
    Prop where
  ascending : (short.map Shortfall.tier).Pairwise (· < ·)
  tiers : ∀ t, t ∈ short.map Shortfall.tier ↔
    t ≤ declared ∧ ∃ r ∈ c.rules, r.tier = t ∧ r.name ∉ met
  sorted : ∀ s ∈ short, s.missing.Pairwise fun a b => Text.bytes a < Text.bytes b
  missing : ∀ s ∈ short, ∀ name, name ∈ s.missing ↔
    (∃ r ∈ c.rules, r.tier = s.tier ∧ r.name = name) ∧ name ∉ met

section Accounts

variable (c : Catalog) (met : NameSet) (d : Tier)

theorem accounts : Accounts c met d (shortfalls c met (some d)) where
  ascending := tiers_ascending
  tiers := by
    intro t
    rw [List.mem_map]
    constructor
    · rintro ⟨s, hs, rfl⟩
      obtain ⟨⟨_, hd, hle⟩, hshort⟩ := mem_shortfalls_iff.mp hs
      obtain rfl := Option.some.inj hd
      obtain ⟨name, hname⟩ := List.exists_mem_of_ne_nil _ hshort.lacking
      obtain ⟨⟨r, hr, htier, rfl⟩, hmet⟩ := (hshort.lacks name).mp hname
      exact ⟨hle, r, hr, htier, hmet⟩
    · rintro ⟨hle, r, hr, htier, hmet⟩
      have hname : r.name ∈ missingRules c met t :=
        mem_missingRules.mpr ⟨Catalog.mem_required.mpr ⟨r, hr, htier, rfl⟩, hmet⟩
      refine ⟨⟨t, (missingRules c met t).toList⟩, ?_, rfl⟩
      exact mem_shortfalls_iff.mpr
        ⟨⟨d, rfl, hle⟩, fallsShort_iff.mpr ⟨rfl, List.ne_nil_of_mem hname⟩⟩
  sorted := by
    intro s hs
    exact (mem_shortfalls_iff.mp hs).2.ascending.imp Text.lt_iff_bytes_lt.mp
  missing := fun s hs => (mem_shortfalls_iff.mp hs).2.lacks

theorem shortfalls_eq_nil_of_add_missing :
    shortfalls c (met.union (.ofList ((shortfalls c met (some d)).flatMap Shortfall.missing)))
      (some d) = [] := by
  rw [shortfalls_eq_nil_iff]
  intro t ht r hr hle
  obtain rfl := Option.some.inj ht
  rw [NameSet.mem_union, NameSet.mem_ofList, List.mem_flatMap]
  by_cases hmet : r.name ∈ met
  · exact .inl hmet
  · have hacc := accounts c met d
    obtain ⟨s, hs, htier⟩ := List.mem_map.mp ((hacc.tiers r.tier).mpr ⟨hle, r, hr, rfl, hmet⟩)
    exact .inr ⟨s, hs, (hacc.missing s hs r.name).mpr ⟨⟨r, hr, htier.symm, rfl⟩, hmet⟩⟩

variable {c met d}

/-- What is missing when more is met was missing before. -/
theorem exists_shortfall_of_subset {more : NameSet} (hmore : ∀ name ∈ met, name ∈ more)
    {s : Shortfall} (hs : s ∈ shortfalls c more (some d)) :
    ∃ s' ∈ shortfalls c met (some d), s'.tier = s.tier ∧ ∀ name ∈ s.missing, name ∈ s'.missing := by
  have hacc := accounts c met d
  have hacc' := accounts c more d
  have hmiss : ∀ name, name ∉ more → name ∉ met := fun name => mt (hmore name)
  obtain ⟨hle, r, hr, htier, hnot⟩ := (hacc'.tiers s.tier).mp (List.mem_map_of_mem hs)
  obtain ⟨s', hs', htier'⟩ :=
    List.mem_map.mp ((hacc.tiers s.tier).mpr ⟨hle, r, hr, htier, hmiss _ hnot⟩)
  refine ⟨s', hs', htier', fun name hname => (hacc.missing s' hs' name).mpr ?_⟩
  obtain ⟨hrule, hnot⟩ := (hacc'.missing s hs name).mp hname
  exact ⟨htier'.symm ▸ hrule, hmiss _ hnot⟩

end Accounts

/-- **Completion is exact.**  It accounts for every tier up to the declared one.  So nothing is
listed exactly if every rule up to that tier is met, and meeting all that is listed leaves nothing;
meeting more adds no missing rule, and names that are no rules do not matter. -/
theorem shortfalls_accounts (c : Catalog) (met : NameSet) :
    shortfalls c met none = [] ∧
      ∀ d, Accounts c met d (shortfalls c met (some d)) ∧
        (shortfalls c met (some d) = [] ↔ ∀ r ∈ c.rules, r.tier ≤ d → r.name ∈ met) ∧
        shortfalls c (met.union (.ofList ((shortfalls c met (some d)).flatMap Shortfall.missing)))
          (some d) = [] ∧
        (∀ more : NameSet, (∀ name ∈ met, name ∈ more) → ∀ s ∈ shortfalls c more (some d),
          ∃ s' ∈ shortfalls c met (some d), s'.tier = s.tier ∧
            ∀ name ∈ s.missing, name ∈ s'.missing) ∧
        shortfalls c (met.filter c.contains) (some d) = shortfalls c met (some d) := by
  refine ⟨rfl, fun d => ⟨accounts c met d, ?_, ?_, ?_, ?_⟩⟩
  · rw [shortfalls_eq_nil_iff]
    exact ⟨fun h => h d rfl, fun h t ht => Option.some.inj ht ▸ h⟩
  · exact shortfalls_eq_nil_of_add_missing c met d
  · exact fun more hmore s hs => exists_shortfall_of_subset hmore hs
  · refine shortfalls_congr (fun r hr => ?_) _
    rw [NameSet.mem_filter]
    exact and_iff_left (Catalog.contains_iff.mpr ⟨r, hr, rfl⟩)

/-- Rules of all tiers, those of one tier not in the order of their names. -/
def fourTiers : Catalog where
  rules := [⟨"b-two", .bronze, none⟩, ⟨"p-one", .platinum, none⟩, ⟨"b-one", .bronze, none⟩,
    ⟨"s-one", .silver, none⟩, ⟨"g-two", .gold, none⟩, ⟨"g-one", .gold, none⟩]
  kebab := by decide +kernel
  distinct := by decide +kernel

/-- Two rules that are met, and a name that is no rule. -/
def partlyMet : NameSet := .ofList ["s-one", "g-one", "made-up-rule"]

theorem shortfalls_accounts_fourTiers :
    shortfalls fourTiers partlyMet (some .gold) =
        [⟨.bronze, ["b-one", "b-two"]⟩, ⟨.gold, ["g-two"]⟩] ∧
      Accounts fourTiers partlyMet .gold (shortfalls fourTiers partlyMet (some .gold)) ∧
      shortfalls fourTiers (partlyMet.insert "b-two") (some .gold) =
        [⟨.bronze, ["b-one"]⟩, ⟨.gold, ["g-two"]⟩] ∧
      ∀ s ∈ shortfalls fourTiers (partlyMet.insert "b-two") (some .gold),
        ∃ s' ∈ shortfalls fourTiers partlyMet (some .gold), s'.tier = s.tier ∧
          ∀ name ∈ s.missing, name ∈ s'.missing := by
  obtain ⟨hacc, -, -, hmore, -⟩ := (shortfalls_accounts fourTiers partlyMet).2 .gold
  refine ⟨by decide +kernel, hacc, by decide +kernel, hmore _ fun name hname => ?_⟩
  exact NameSet.mem_insert.mpr (.inr hname)

end QualityScale
