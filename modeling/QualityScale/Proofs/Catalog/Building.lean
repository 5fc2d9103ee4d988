import Mathlib.Data.List.Nodup
import QualityScale.Catalog.Standard

/-!
# Building a catalog

A list of rules is gone through once.  On the way the names are checked, and the index is made in
which rules are found later.

* `KebabCase`: the form of a name, `[a-z0-9]+(-[a-z0-9]+)*`.  `isKebab_iff` says that cutting a name
  at its hyphens recognises it.
* `Proper rules`: the names have this form and are all different.
* `FirstFault rules e`: the first rule that spoils this is to blame for the error `e`.
* `Keeps c rules`: the catalog `c` has the rules, in their order, and finds each by name and tier.
* `ofRules_accepts_and_keeps`: a list is accepted exactly if it is proper, the error is about the
  first fault, and an accepted list is kept.
-/

namespace QualityScale

/-! ### The form of a name -/

/-- A lower-case letter or a digit. -/
def KebabChar (c : Char) : Prop :=
  ('a' ≤ c ∧ c ≤ 'z') ∨ ('0' ≤ c ∧ c ≤ '9')

/-- One or more lower-case letters and digits. -/
structure KebabWord (w : List Char) : Prop where
  nonempty : w ≠ []
  chars : ∀ c ∈ w, KebabChar c

/-- **The form of a name**: a word, or words joined by hyphens. -/
inductive KebabCase : List Char → Prop
  | word {w} : KebabWord w → KebabCase w
  | join {w rest} : KebabWord w → KebabCase rest → KebabCase (w ++ '-' :: rest)

theorem isKebabChar_iff {c : Char} : isKebabChar c = true ↔ KebabChar c := by
  have hlower : c.isLower = true ↔ 'a' ≤ c ∧ c ≤ 'z' :=
    Bool.and_eq_true_iff.trans (and_congr decide_eq_true_iff decide_eq_true_iff)
  have hdigit : c.isDigit = true ↔ '0' ≤ c ∧ c ≤ '9' :=
    Bool.and_eq_true_iff.trans (and_congr decide_eq_true_iff decide_eq_true_iff)
  rw [isKebabChar, Bool.or_eq_true, hlower, hdigit, KebabChar]

theorem isKebabWord_iff {w : List Char} :
    (!w.isEmpty && w.all isKebabChar) = true ↔ KebabWord w := by
  rw [Bool.and_eq_true, Bool.not_eq_true', List.isEmpty_eq_false_iff, List.all_eq_true]
  constructor
  · rintro ⟨hne, hall⟩
    exact ⟨hne, fun c hc => isKebabChar_iff.mp (hall c hc)⟩
  · rintro ⟨hne, hall⟩
    exact ⟨hne, fun c hc => isKebabChar_iff.mpr (hall c hc)⟩

theorem KebabWord.hyphen_not_mem {w : List Char} (h : KebabWord w) : '-' ∉ w := by
  intro hmem
  exact absurd (isKebabChar_iff.mpr (h.chars _ hmem)) (by decide)

theorem KebabCase.words {cs : List Char} (h : KebabCase cs) :
    ∀ w ∈ Text.splitAt '-' cs, KebabWord w := by
  induction h with
  | word hw =>
    rw [Text.splitAt_of_not_mem hw.hyphen_not_mem]
    exact fun w h => List.mem_singleton.mp h ▸ hw
  | join hw _ ih =>
    rw [Text.splitAt_append_cons, Text.splitAt_of_not_mem hw.hyphen_not_mem]
    intro w hmem
    rcases List.mem_cons.mp hmem with rfl | hmem
    · exact hw
    · exact ih w hmem

theorem kebabCase_of_words {cs : List Char} (h : ∀ w ∈ Text.splitAt '-' cs, KebabWord w) :
    KebabCase cs := by
  -- By the length: the rest after the first hyphen is shorter.
  induction hn : cs.length using Nat.strongRecOn generalizing cs with
  | ind n ih =>
    by_cases hmem : '-' ∈ cs
    · obtain ⟨w, rest, rfl, hw⟩ := List.eq_append_cons_of_mem hmem
      rw [Text.splitAt_append_cons, Text.splitAt_of_not_mem hw] at h
      refine .join (h w List.mem_cons_self) (ih rest.length ?_ ?_ rfl)
      · simp only [List.length_append, List.length_cons] at hn
        omega
      · exact fun w' hw' => h w' (List.mem_cons_of_mem _ hw')
    · rw [Text.splitAt_of_not_mem hmem] at h
      exact .word (h cs (List.mem_singleton_self _))

/-- **A name is recognised exactly if it has the form.** -/
theorem isKebab_iff {name : String} : isKebab name = true ↔ KebabCase name.toList := by
  rw [isKebab, List.all_eq_true]
  simp only [isKebabWord_iff]
  exact ⟨kebabCase_of_words, KebabCase.words⟩

/-! ### The first fault -/

/-- The names of the rules have the form of names and are all different. -/
structure Proper (rules : List Rule) : Prop where
  form : ∀ r ∈ rules, KebabCase r.name.toList
  distinct : (rules.map Rule.name).Nodup

/-- **The first rule at fault** is to blame for the error: all is well with the rules before it, and
its own name does not have the form of one, or is the name of one of them. -/
inductive FirstFault (rules : List Rule) : CatalogError → Prop
  | malformed {before r after} (place : rules = before ++ r :: after) (well : Proper before)
      (form : ¬ KebabCase r.name.toList) : FirstFault rules (.invalidName r.name)
  | repeated {before r after} (place : rules = before ++ r :: after) (well : Proper before)
      (earlier : r.name ∈ before.map Rule.name) : FirstFault rules (.duplicate r.name)

theorem proper_iff {rules : List Rule} : Proper rules ↔ WellNamed rules := by
  constructor
  · rintro ⟨hform, hdistinct⟩
    exact ⟨fun r hr => isKebab_iff.mpr (hform r hr), hdistinct⟩
  · rintro ⟨hkebab, hdistinct⟩
    exact ⟨fun r hr => isKebab_iff.mp (hkebab r hr), hdistinct⟩

theorem FaultAfter.unique {rules : List Rule} {r : Rule} {e e' : CatalogError}
    (h : FaultAfter rules r e) (h' : FaultAfter rules r e') : e = e' := by
  cases h with
  | name malformed =>
    cases h' with
    | name => rfl
    | duplicate kebab => exact absurd kebab (by simp [malformed])
  | duplicate kebab =>
    cases h' with
    | name malformed => exact absurd kebab (by simp [malformed])
    | duplicate => rfl

theorem firstFault_iff {rules : List Rule} {e : CatalogError} :
    FirstFault rules e ↔
      ∃ before r after, rules = before ++ r :: after ∧ WellNamed before ∧
        FaultAfter before r e := by
  constructor
  · intro h
    cases h with
    | @malformed before r after place well form =>
      exact ⟨before, r, after, place, proper_iff.mp well,
        .name (Bool.eq_false_iff.mpr fun hk => form (isKebab_iff.mp hk))⟩
    | @repeated before r after place well earlier =>
      obtain ⟨x, hx, hname⟩ := List.mem_map.mp earlier
      -- The name has the form of one, because the earlier rule has it.
      have hkebab : isKebab r.name = true := hname ▸ isKebab_iff.mpr (well.form x hx)
      exact ⟨before, r, after, place, proper_iff.mp well, .duplicate hkebab ⟨x, hx, hname⟩⟩
  · rintro ⟨before, r, after, place, well, malformed | ⟨_, x, hx, hname⟩⟩
    · exact .malformed place (proper_iff.mpr well) fun hform =>
        absurd (isKebab_iff.mpr hform) (by simp [malformed])
    · exact .repeated place (proper_iff.mpr well) (List.mem_map.mpr ⟨x, hx, hname⟩)

/-- **Building fails** exactly on the first rule that may not follow those before it. -/
theorem RuleIndex.Indexes.build_eq_error_iff {ix : RuleIndex} {rules more : List Rule}
    {e : CatalogError} (h : ix.Indexes rules) (hw : WellNamed rules) :
    ix.build rules.length more = .error e ↔
      ∃ before r after, more = before ++ r :: after ∧ WellNamed (rules ++ before) ∧
        FaultAfter (rules ++ before) r e := by
  induction more generalizing ix rules with
  | nil => simp [RuleIndex.build]
  | cons r rs ih =>
    by_cases hr : WellNamed (rules ++ [r])
    · rw [h.build_cons_of_wellNamed hr, ih (h.add hr) hr]
      constructor
      · rintro ⟨before, x, after, rfl, hbefore, hx⟩
        rw [← List.append_cons] at hbefore hx
        exact ⟨r :: before, x, after, rfl, hbefore, hx⟩
      · rintro ⟨_ | ⟨y, before⟩, x, after, hsplit, hbefore, hx⟩
        · rw [List.nil_append] at hsplit
          obtain ⟨rfl, -⟩ := List.cons.inj hsplit
          rw [List.append_nil] at hx
          exact absurd hr ((exists_faultAfter_iff hw).mp ⟨e, hx⟩)
        · obtain ⟨rfl, rfl⟩ := List.cons.inj hsplit
          rw [List.append_cons] at hbefore hx
          exact ⟨before, x, after, rfl, hbefore, hx⟩
    · obtain ⟨e', he'⟩ := (exists_faultAfter_iff hw).mpr hr
      rw [h.build_cons_of_faultAfter he']
      constructor
      · intro he
        obtain rfl := Except.error.inj he
        exact ⟨[], r, rs, rfl, by rwa [List.append_nil], by rwa [List.append_nil]⟩
      · rintro ⟨_ | ⟨y, before⟩, x, after, hsplit, hbefore, hx⟩
        · rw [List.nil_append] at hsplit
          obtain ⟨rfl, -⟩ := List.cons.inj hsplit
          rw [List.append_nil] at hx
          rw [he'.unique hx]
        · obtain ⟨rfl, rfl⟩ := List.cons.inj hsplit
          rw [List.append_cons] at hbefore
          exact absurd hbefore.left hr

theorem Catalog.ofRules_eq_error_iff {rules : List Rule} {e : CatalogError} :
    Catalog.ofRules rules = .error e ↔ FirstFault rules e := by
  have hbuild : RuleIndex.empty.build 0 rules = .error e ↔ _ :=
    RuleIndex.indexes_empty.build_eq_error_iff wellNamed_nil
  simp only [List.nil_append] at hbuild
  rw [firstFault_iff, ← hbuild]
  unfold Catalog.ofRules
  split
  next h => rw [h, Except.error.injEq, Except.error.injEq]
  next h => exact ⟨nofun, fun he => by rw [h] at he; cases he⟩

theorem Catalog.exists_ofRules_eq_ok_iff {rules : List Rule} :
    (∃ c, Catalog.ofRules rules = .ok c) ↔ Proper rules := by
  rw [proper_iff]
  constructor
  · rintro ⟨c, hc⟩
    exact Catalog.ofRules_eq_ok_iff.mp hc ▸ c.wellNamed
  · rintro ⟨hkebab, hdistinct⟩
    exact ⟨⟨rules, hkebab, hdistinct, _, rfl⟩, Catalog.ofRules_eq_ok_iff.mpr rfl⟩

/-! ### What a catalog keeps -/

/-- **A catalog keeps a list of rules**: it has them in their order, finds each by its name and
lists it under its tier. -/
structure Keeps (c : Catalog) (rules : List Rule) : Prop where
  same : c.rules = rules
  contains : ∀ name, c.contains name = true ↔ ∃ r ∈ rules, r.name = name
  /-- By the name of a rule, that rule is found. -/
  found : ∀ r ∈ rules, c.rule? r.name = some r ∧ c.tierOf? r.name = some r.tier ∧
    c.validator? r.name = r.validator
  /-- By any other name, nothing is found. -/
  unknown : ∀ name, (∀ r ∈ rules, r.name ≠ name) →
    c.rule? name = none ∧ c.tierOf? name = none ∧ c.validator? name = none
  /-- A tier has the names of its rules, in the order of the list. -/
  required : ∀ t, c.required t = (rules.filter fun r => r.tier = t).map Rule.name
  /-- The four tiers together have every name of a rule once and no other. -/
  partition : (Tier.all.flatMap c.required).Perm (rules.map Rule.name) ∧
    ∀ r ∈ rules, (Tier.all.flatMap c.required).count r.name = 1

/-- The rules of all tiers in turn are the rules. -/
theorem flatMap_filter_perm {tiers : List Tier} (htiers : tiers.Nodup) {rules : List Rule}
    (hall : ∀ r ∈ rules, r.tier ∈ tiers) :
    (tiers.flatMap fun t => rules.filter fun r => r.tier == t).Perm rules := by
  induction tiers generalizing rules with
  | nil =>
    rw [List.eq_nil_iff_forall_not_mem.mpr fun r hr => List.not_mem_nil (hall r hr)]
    rfl
  | cons t ts ih =>
    obtain ⟨ht, hts⟩ := List.nodup_cons.mp htiers
    -- The rules of the other tiers are among those that are not of the first.
    have hothers : (ts.flatMap fun t' => rules.filter fun r => r.tier == t') =
        ts.flatMap fun t' =>
          (rules.filter fun r => !(r.tier == t)).filter fun r => r.tier == t' := by
      refine List.flatMap_congr fun t' ht' => ?_
      rw [List.filter_filter]
      refine List.filter_congr fun r _ => ?_
      by_cases hr : r.tier = t'
      · have hne : r.tier ≠ t := fun h => ht (h ▸ hr ▸ ht')
        simp [hr, hr ▸ hne]
      · simp [hr]
    have hrest : ∀ r ∈ rules.filter fun r => !(r.tier == t), r.tier ∈ ts := by
      intro r hr
      obtain ⟨hr, hne⟩ := List.mem_filter.mp hr
      exact (List.mem_cons.mp (hall r hr)).resolve_left (by simpa using hne)
    rw [List.flatMap_cons, hothers]
    exact ((ih hts hrest).append_left _).trans (List.filter_append_perm _ rules)

namespace Catalog

variable (c : Catalog)

theorem flatMap_required_perm : (Tier.all.flatMap c.required).Perm (c.rules.map Rule.name) := by
  have hperm : (Tier.all.flatMap fun t => c.rules.filter fun r => r.tier == t).Perm c.rules :=
    flatMap_filter_perm (by decide) fun r _ => Tier.mem_all r.tier
  have hrequired : Tier.all.flatMap c.required =
      (Tier.all.flatMap fun t => c.rules.filter fun r => r.tier == t).map Rule.name := by
    rw [List.map_flatMap]
    exact List.flatMap_congr fun t _ => c.required_eq t
  rw [hrequired]
  exact hperm.map _

theorem rule?_eq_none_of_unknown {c : Catalog} {name : String}
    (h : ∀ r ∈ c.rules, r.name ≠ name) : c.rule? name = none := by
  rw [Option.eq_none_iff_forall_not_mem]
  intro r hr
  obtain ⟨hmem, hname⟩ := rule?_eq_some_iff.mp hr
  exact h r hmem hname

/-- **A catalog keeps its rules.** -/
theorem keeps : Keeps c c.rules where
  same := rfl
  contains := fun _ => contains_iff
  found := by
    intro r hr
    have hrule : c.rule? r.name = some r := rule?_eq_some_iff.mpr ⟨hr, rfl⟩
    rw [tierOf?, validator?, hrule]
    exact ⟨rfl, rfl, rfl⟩
  unknown := by
    intro name h
    rw [tierOf?, validator?, rule?_eq_none_of_unknown h]
    exact ⟨rfl, rfl, rfl⟩
  required := c.required_eq
  partition := by
    refine ⟨c.flatMap_required_perm, fun r hr => ?_⟩
    rw [c.flatMap_required_perm.count_eq]
    exact List.count_eq_one_of_mem c.distinct (List.mem_map_of_mem hr)

end Catalog

/-- **A list of rules is accepted exactly if it is proper, it is refused for its first fault, and a
catalog keeps the rules that it was built from.** -/
theorem ofRules_accepts_and_keeps (rules : List Rule) :
    ((∃ c, Catalog.ofRules rules = .ok c) ↔ Proper rules) ∧
      (∀ e, Catalog.ofRules rules = .error e ↔ FirstFault rules e) ∧
      ∀ c, Catalog.ofRules rules = .ok c → Keeps c rules := by
  refine ⟨Catalog.exists_ofRules_eq_ok_iff, fun e => Catalog.ofRules_eq_error_iff, fun c hc => ?_⟩
  exact Catalog.ofRules_eq_ok_iff.mp hc ▸ c.keeps

/-- Rules of three tiers, not in the order of the tiers. -/
def mixedRules : List Rule := [
  ⟨"stale-devices", .gold, none⟩,
  ⟨"config-flow", .bronze, some Evidence.configFlow⟩,
  ⟨"strict-typing", .platinum, none⟩,
  ⟨"brands", .bronze, none⟩]

/-- The same rules and two more, both at fault. -/
def faultyRules : List Rule :=
  mixedRules ++ [⟨"brands", .gold, none⟩, ⟨"Brands", .gold, none⟩]

theorem ofRules_accepts_and_keeps_mixedRules :
    (∃ c, Catalog.ofRules mixedRules = .ok c ∧ Keeps c mixedRules ∧
      c.required .bronze = ["config-flow", "brands"]) ∧
    Catalog.ofRules faultyRules = .error (.duplicate "brands") := by
  have hproper : Proper mixedRules := proper_iff.mpr ⟨by decide +kernel, by decide +kernel⟩
  obtain ⟨c, hc⟩ := (ofRules_accepts_and_keeps mixedRules).1.mpr hproper
  have hkeeps : Keeps c mixedRules := (ofRules_accepts_and_keeps mixedRules).2.2 c hc
  refine ⟨⟨c, hc, hkeeps, ?_⟩, ?_⟩
  · rw [hkeeps.required]
    decide +kernel
  · have hplace : faultyRules =
        mixedRules ++ ⟨"brands", .gold, none⟩ :: [⟨"Brands", .gold, none⟩] := rfl
    have hfault : FirstFault faultyRules (.duplicate "brands") :=
      .repeated hplace hproper (by decide +kernel)
    exact ((ofRules_accepts_and_keeps faultyRules).2.1 _).mpr hfault

end QualityScale
