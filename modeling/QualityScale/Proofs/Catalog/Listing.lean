import Mathlib.Data.List.Count
import QualityScale.Catalog.Listing
import QualityScale.Proofs.Catalog.Building
import QualityScale.Proofs.Text.Runs

/-!
# The listing of a catalog

The rules are listed by tier and name, and in print a heading stands wherever the tier changes.  For
the listing that is once for each tier that is present, since the rules of a tier stand together.

* `Selects rules tier listing`: the listing has an entry for each rule of the tier, and is ascending.
* `isHeading line`: the line is the heading of a tier.  No line of a rule is (`isHeading_line`).
* `Headed listing text`: what a reader of the printed lines can rely on.
* `newTiers heading listing`: the tiers that get a heading on the way through a listing.
* `listing_selects_and_headed`: a catalog's listing selects, and its lines are headed.
-/

namespace QualityScale

/-- The heading of a tier. -/
def Tier.heading (t : Tier) : String := t.name ++ ":"

namespace ListedRule

/-- A rule stands before another: it is of a lower tier, or of the same tier and has a smaller
name. -/
def Before (a b : ListedRule) : Prop :=
  a.tier < b.tier ∨ a.tier = b.tier ∧ a.name < b.name

/-- **The listing selects from the rules**: those of one tier, or all. -/
structure Selects (rules : List Rule) (tier : Option Tier) (listing : List ListedRule) : Prop where
  /-- Each of the rules has one entry, with its name and tier and whether it has a validator. -/
  entries : listing.Perm ((rules.filter fun r => tier = none ∨ tier = some r.tier).map fun r =>
    ⟨r.name, r.tier, r.validator.isSome⟩)
  /-- The entries are strictly ascending by tier and name. -/
  ascending : listing.Pairwise Before

/-- Whether a line is the heading of a tier. -/
def isHeading (line : String) : Bool :=
  Tier.all.any fun t => line == t.heading

/-- **The lines show the listing under headings.** -/
structure Headed (listing : List ListedRule) (text : List String) : Prop where
  /-- But for the headings, the lines are those of the rules, in their order. -/
  rules : (text.filter fun line => !isHeading line) = listing.map line
  /-- The headings are those of the tiers that are present, and ascend. -/
  headings : ∃ tiers : List Tier, tiers.Pairwise (· < ·) ∧
    (∀ t, t ∈ tiers ↔ ∃ r ∈ listing, r.tier = t) ∧ text.filter isHeading = tiers.map Tier.heading
  /-- A tier that is present has one heading. -/
  once : ∀ r ∈ listing, text.count r.tier.heading = 1
  /-- The last heading above a rule is that of its tier. -/
  under : ∀ r ∈ listing, ∀ above below, text = above ++ r.line :: below →
    (above.filter isHeading).getLast? = some r.tier.heading

/-! ### The order of a listing -/

section Order

variable {a b c : ListedRule}

theorem notAfter_iff : a.notAfter b = true ↔ a.tier < b.tier ∨ a.tier = b.tier ∧ a.name ≤ b.name := by
  rw [notAfter, Bool.or_eq_true, Bool.and_eq_true, decide_eq_true_iff, decide_eq_true_iff,
    Bool.not_eq_true', decide_eq_false_iff_not, String.not_lt]

theorem notAfter_trans (hab : a.notAfter b = true) (hbc : b.notAfter c = true) :
    a.notAfter c = true := by
  rw [notAfter_iff] at *
  rcases hab with hab | ⟨hab, hname⟩
  · rcases hbc with hbc | ⟨hbc, -⟩
    · exact .inl (Nat.lt_trans hab hbc)
    · exact .inl (hbc ▸ hab)
  · rcases hbc with hbc | ⟨hbc, hname'⟩
    · exact .inl (hab ▸ hbc)
    · exact .inr ⟨hab.trans hbc, String.le_trans hname hname'⟩

theorem notAfter_total (a b : ListedRule) : (a.notAfter b || b.notAfter a) = true := by
  rw [Bool.or_eq_true, notAfter_iff, notAfter_iff]
  rcases Nat.lt_trichotomy a.tier.rank b.tier.rank with h | h | h
  · exact .inl (.inl h)
  · have htier := Tier.rank_injective h
    rcases String.le_total a.name b.name with hname | hname
    · exact .inl (.inr ⟨htier, hname⟩)
    · exact .inr (.inr ⟨htier.symm, hname⟩)
  · exact .inr (.inl h)

theorem before_of_notAfter (h : a.notAfter b = true) (hne : a.name ≠ b.name) : a.Before b := by
  rcases notAfter_iff.mp h with htier | ⟨htier, hname⟩
  · exact .inl htier
  · refine .inr ⟨htier, String.not_le.mp fun hle => hne (String.le_antisymm hname hle)⟩

end Order

section Selection

variable (c : Catalog) (tier : Option Tier)

theorem listing_perm :
    (c.listing tier).Perm
      ((c.rules.filter fun r => tier = none ∨ tier = some r.tier).map ofRule) := by
  have hsame : (c.rules.filter fun r => tier.all (r.tier == ·)) =
      c.rules.filter fun r => tier = none ∨ tier = some r.tier := by
    refine List.filter_congr fun r _ => ?_
    cases tier with
    | none => rfl
    | some t =>
      rw [Bool.eq_iff_iff, Option.all_some, beq_iff_eq, decide_eq_true_iff]
      simp [eq_comm (a := t)]
  rw [Catalog.listing, hsame]
  exact List.mergeSort_perm _ _

theorem nodup_names_listing : ((c.listing tier).map name).Nodup := by
  have hnames : ((c.rules.filter fun r => tier = none ∨ tier = some r.tier).map ofRule).map name =
      (c.rules.filter fun r => tier = none ∨ tier = some r.tier).map Rule.name := by
    rw [List.map_map]
    rfl
  rw [((listing_perm c tier).map name).nodup_iff, hnames]
  exact c.distinct.sublist (List.filter_sublist.map _)

theorem kebabCase_of_mem_listing {r : ListedRule} (hr : r ∈ c.listing tier) :
    KebabCase r.name.toList := by
  obtain ⟨rule, hrule, rfl⟩ := List.mem_map.mp ((listing_perm c tier).mem_iff.mp hr)
  exact isKebab_iff.mp (c.kebab rule (List.mem_filter.mp hrule).1)

/-- **The listing of a catalog selects from its rules.** -/
theorem selects_listing : Selects c.rules tier (c.listing tier) := by
  have hsorted : (c.listing tier).Pairwise fun a b => a.notAfter b = true :=
    List.pairwise_mergeSort (fun a b c => notAfter_trans (a := a) (b := b) (c := c)) notAfter_total _
  refine ⟨listing_perm c tier, ?_⟩
  exact (hsorted.and (List.pairwise_map.mp (nodup_names_listing c tier))).imp fun h =>
    before_of_notAfter h.1 h.2

end Selection

/-! ### Lines of rules and headings -/

section Lines

variable {r s : ListedRule} {rs : List ListedRule} {heading : Option Tier}

theorem toList_line (r : ListedRule) :
    r.line.toList =
      ' ' :: ' ' :: (r.name.toList ++ if r.validated then " (validated)".toList else []) := by
  have hline : r.line = "  " ++ r.name ++ if r.validated then " (validated)" else "" := rfl
  rw [hline, String.toList_append, String.toList_append]
  split <;> simp

theorem isHeading_heading (t : Tier) : isHeading t.heading = true := by
  cases t <;> decide

theorem heading_injective : Function.Injective Tier.heading := by
  intro s t h
  cases s <;> cases t <;> first | rfl | (exact absurd h (by decide))

/-- No line of a rule is a heading, since it is indented. -/
theorem isHeading_line (r : ListedRule) : isHeading r.line = false := by
  rw [isHeading, List.any_eq_false]
  intro t _ h
  have hhead : r.line.toList.head? = t.heading.toList.head? := by rw [beq_iff_eq.mp h]
  rw [toList_line, List.head?_cons] at hhead
  cases t <;> exact absurd hhead (by decide)

theorem lines_cons_same : lines (some r.tier) (r :: rs) = r.line :: lines (some r.tier) rs := by
  rw [lines, if_pos rfl, List.nil_append]

theorem lines_cons_new (h : heading ≠ some r.tier) :
    lines heading (r :: rs) = r.tier.heading :: lines (some r.tier) (r :: rs) := by
  rw [lines_cons_same, lines, if_neg h]
  rfl

theorem filter_rules_lines :
    ((lines heading rs).filter fun line => !isHeading line) = rs.map line := by
  induction rs generalizing heading with
  | nil => rfl
  | cons r rs ih =>
    have hsame : ((lines (some r.tier) (r :: rs)).filter fun line => !isHeading line) =
        (r :: rs).map line := by
      rw [lines_cons_same, List.filter_cons_of_pos (by simp [isHeading_line]), ih, List.map_cons]
    by_cases h : heading = some r.tier
    · rw [h, hsame]
    · rw [lines_cons_new h, List.filter_cons_of_neg (by simp [isHeading_heading]), hsame]

/-- The tiers that get a heading on the way through a listing, where one heading stands already. -/
def newTiers (heading : Option Tier) : List ListedRule → List Tier
  | [] => []
  | r :: rs => (if heading = some r.tier then [] else [r.tier]) ++ newTiers (some r.tier) rs

theorem filter_headings_lines :
    (lines heading rs).filter isHeading = (newTiers heading rs).map Tier.heading := by
  induction rs generalizing heading with
  | nil => rfl
  | cons r rs ih =>
    have hsame : (lines (some r.tier) (r :: rs)).filter isHeading =
        (newTiers (some r.tier) rs).map Tier.heading := by
      rw [lines_cons_same, List.filter_cons_of_neg (by simp [isHeading_line]), ih]
    rw [newTiers, List.map_append, ← hsame]
    by_cases h : heading = some r.tier
    · rw [if_pos h, h]
      rfl
    · rw [if_neg h, lines_cons_new h, List.filter_cons_of_pos (isHeading_heading r.tier)]
      rfl

/-- Where a line of the text is no heading, it is that of a rule, and the last heading above it is
that of the rule's tier. -/
theorem last_heading_lines {above below : List String} {x : String}
    (htext : lines heading rs = above ++ x :: below) (hx : isHeading x = false) :
    ∃ r ∈ rs, x = r.line ∧
      (above.filter isHeading).getLast?.or (heading.map Tier.heading) = some r.tier.heading := by
  induction rs generalizing heading above with
  | nil => cases above <;> cases htext
  | cons r rs ih =>
    have hsame : ∀ above, lines (some r.tier) (r :: rs) = above ++ x :: below →
        ∃ s ∈ r :: rs, x = s.line ∧
          (above.filter isHeading).getLast?.or (some r.tier.heading) = some s.tier.heading := by
      intro above htext
      rw [lines_cons_same] at htext
      cases above with
      | nil => exact ⟨r, List.mem_cons_self, (List.cons.inj htext).1.symm, rfl⟩
      | cons y above =>
        rw [List.cons_append, List.cons.injEq] at htext
        obtain ⟨rfl, htext⟩ := htext
        obtain ⟨s, hs, hline, hlast⟩ := ih htext
        rw [List.filter_cons_of_neg (by simp [isHeading_line])]
        exact ⟨s, List.mem_cons_of_mem _ hs, hline, hlast⟩
    by_cases h : heading = some r.tier
    · subst h
      exact hsame above htext
    · rw [lines_cons_new h] at htext
      cases above with
      | nil =>
        rw [← (List.cons.inj htext).1, isHeading_heading] at hx
        cases hx
      | cons y above =>
        rw [List.cons_append, List.cons.injEq] at htext
        obtain ⟨rfl, htext⟩ := htext
        obtain ⟨s, hs, hline, hlast⟩ := hsame above htext
        refine ⟨s, hs, hline, ?_⟩
        rw [List.filter_cons_of_pos (isHeading_heading r.tier), List.getLast?_cons, Option.some_or,
          ← hlast, Option.or_some]

/-! ### Tiers that stand together -/

/-- **A tier gets a heading if it is present and has none yet.**  The rules are ascending by tier, so
a tier that was left does not come again. -/
theorem mem_newTiers_iff (hsorted : rs.Pairwise fun a b => a.tier ≤ b.tier)
    (habove : ∀ t ∈ heading, ∀ r ∈ rs, t ≤ r.tier) {t : Tier} :
    t ∈ newTiers heading rs ↔ heading ≠ some t ∧ ∃ r ∈ rs, r.tier = t := by
  induction rs generalizing heading with
  | nil => simp [newTiers]
  | cons r rs ih =>
    obtain ⟨hr, hrs⟩ := List.pairwise_cons.mp hsorted
    have hrest : t ∈ newTiers (some r.tier) rs ↔ some r.tier ≠ some t ∧ ∃ s ∈ rs, s.tier = t :=
      ih hrs fun _ ht => Option.some.inj ht ▸ hr
    rw [newTiers, List.mem_append, hrest]
    by_cases h : heading = some r.tier
    · subst h
      rw [if_pos rfl]
      constructor
      · rintro (hnil | ⟨hne, s, hs, rfl⟩)
        · cases hnil
        · exact ⟨hne, s, List.mem_cons_of_mem _ hs, rfl⟩
      · rintro ⟨hne, s, hs, rfl⟩
        rcases List.mem_cons.mp hs with rfl | hs
        · exact absurd rfl hne
        · exact .inr ⟨hne, s, hs, rfl⟩
    · rw [if_neg h, List.mem_singleton]
      constructor
      · rintro (rfl | ⟨hne, s, hs, rfl⟩)
        · exact ⟨h, r, List.mem_cons_self, rfl⟩
        · refine ⟨fun hs' => ?_, s, List.mem_cons_of_mem _ hs, rfl⟩
          have hle : s.tier ≤ r.tier := habove _ hs' r List.mem_cons_self
          exact hne (congrArg some (Tier.le_antisymm (hr s hs) hle))
      · rintro ⟨-, s, hs, rfl⟩
        rcases List.mem_cons.mp hs with rfl | hs
        · exact .inl rfl
        · by_cases hsame : s.tier = r.tier
          · exact .inl hsame
          · exact .inr ⟨fun h => hsame (Option.some.inj h).symm, s, hs, rfl⟩

theorem newTiers_ascending (hsorted : rs.Pairwise fun a b => a.tier ≤ b.tier)
    (habove : ∀ t ∈ heading, ∀ r ∈ rs, t ≤ r.tier) :
    (newTiers heading rs).Pairwise (· < ·) := by
  induction rs generalizing heading with
  | nil => exact .nil
  | cons r rs ih =>
    obtain ⟨hr, hrs⟩ := List.pairwise_cons.mp hsorted
    have hnew : ∀ t ∈ some r.tier, ∀ s ∈ rs, t ≤ s.tier := fun _ ht => Option.some.inj ht ▸ hr
    have hrest := ih hrs hnew
    rw [newTiers]
    split
    · exact hrest
    · refine List.pairwise_cons.mpr ⟨fun t ht => ?_, hrest⟩
      obtain ⟨hne, s, hs, rfl⟩ := (mem_newTiers_iff hrs hnew).mp ht
      exact Tier.lt_of_le_of_ne (hr s hs) fun h => hne (congrArg some h)

end Lines

/-! ### The lines of a listing -/

theorem space_not_mem {cs : List Char} (h : KebabCase cs) : ' ' ∉ cs := by
  have hword : ∀ {w}, KebabWord w → ' ' ∉ w := fun hw hmem =>
    absurd (isKebabChar_iff.mpr (hw.chars _ hmem)) (by decide)
  induction h with
  | word hw => exact hword hw
  | join hw _ ih => simp [hword hw, ih]

/-- A line tells the name of its rule, since there is no space in a name. -/
theorem name_eq_of_line_eq {r s : ListedRule} (hr : KebabCase r.name.toList)
    (hs : KebabCase s.name.toList) (h : r.line = s.line) : r.name = s.name := by
  have hbne : ∀ {cs}, KebabCase cs → ∀ c ∈ cs, (c != ' ') = true := fun hcs c hc =>
    bne_iff_ne.mpr fun hspace => space_not_mem hcs (hspace ▸ hc)
  have hmark : ∀ x : ListedRule,
      ∀ c ∈ (if x.validated then " (validated)".toList else []).head?, (c != ' ') = false := by
    intro x
    split
    · exact Text.forall_head?_cons rfl
    · exact fun c hc => absurd hc (by simp)
  have hlines := congrArg String.toList h
  rw [toList_line, toList_line, List.cons.injEq, List.cons.injEq] at hlines
  exact String.toList_inj.mp
    (Text.run_append_cancel (hbne hr) (hbne hs) (hmark r) (hmark s) hlines.2.2).1

/-- **The lines of a catalog's listing are headed.** -/
theorem headed_lines (c : Catalog) (tier : Option Tier) :
    Headed (c.listing tier) (lines none (c.listing tier)) := by
  have hsorted : (c.listing tier).Pairwise fun a b => a.tier ≤ b.tier :=
    (selects_listing c tier).ascending.imp fun h => h.elim Nat.le_of_lt fun h => Nat.le_of_eq
      (congrArg Tier.rank h.1)
  have hmem : ∀ t, t ∈ newTiers none (c.listing tier) ↔ ∃ r ∈ c.listing tier, r.tier = t := by
    intro t
    rw [mem_newTiers_iff hsorted (by simp)]
    simp
  have hascending : (newTiers none (c.listing tier)).Pairwise (· < ·) :=
    newTiers_ascending hsorted (by simp)
  have hnodup : (newTiers none (c.listing tier)).Nodup := by
    refine hascending.imp ?_
    rintro t _ hlt rfl
    exact Nat.lt_irrefl _ hlt
  refine ⟨filter_rules_lines, ⟨_, hascending, hmem, filter_headings_lines⟩, fun r hr => ?_,
    fun r hr above below htext => ?_⟩
  · rw [← List.count_filter (isHeading_heading r.tier), filter_headings_lines,
      List.count_map_of_injective _ _ heading_injective]
    exact List.count_eq_one_of_mem hnodup ((hmem _).mpr ⟨r, hr, rfl⟩)
  · obtain ⟨s, hs, hline, hlast⟩ := last_heading_lines htext (isHeading_line r)
    have hname : r.name = s.name := name_eq_of_line_eq (kebabCase_of_mem_listing c tier hr)
      (kebabCase_of_mem_listing c tier hs) hline
    obtain rfl := List.inj_on_of_nodup_map (nodup_names_listing c tier) hr hs hname
    rwa [Option.map_none, Option.or_none] at hlast

end ListedRule

open ListedRule in
/-- **A catalog's rules are listed by tier and name**, whatever the order they were given in, and in
print each tier has one heading with its rules under it. -/
theorem listing_selects_and_headed {rules : List Rule} {c : Catalog}
    (h : Catalog.ofRules rules = .ok c) (tier : Option Tier) :
    Selects rules tier (c.listing tier) ∧
      Headed (c.listing tier) (ListedRule.lines none (c.listing tier)) := by
  rw [← Catalog.ofRules_eq_ok_iff.mp h]
  exact ⟨selects_listing c tier, headed_lines c tier⟩

open ListedRule in
/-- Rules of three tiers that are given in another order than they are listed in. -/
theorem listing_selects_and_headed_mixedRules :
    ∃ c, Catalog.ofRules mixedRules = .ok c ∧ Selects mixedRules none (c.listing none) ∧
      Headed (c.listing none) (ListedRule.lines none (c.listing none)) ∧
      (ListedRule.lines none (c.listing none)).count "bronze:" = 1 := by
  have hproper : Proper mixedRules := proper_iff.mpr ⟨by decide +kernel, by decide +kernel⟩
  obtain ⟨c, hc⟩ := Catalog.exists_ofRules_eq_ok_iff.mpr hproper
  obtain ⟨hselects, hheaded⟩ := listing_selects_and_headed hc none
  have hbrands : ⟨"brands", .bronze, false⟩ ∈ c.listing none := by
    rw [hselects.entries.mem_iff]
    simp [mixedRules]
  exact ⟨c, hc, hselects, hheaded, hheaded.once _ hbrands⟩

end QualityScale
