import Mathlib.Order.BoundedOrder.Lattice
import QualityScale.Presence

/-!
# Merged exemptions

Exemptions are ordered by inclusion, and a merge is the least upper bound.  More exemptions relax
the mandate: an integration that has to carry a declaration may become one that can do without or
that must not have one, and never the other way round.

* `Presence.Relaxes`: what more exemptions can do to the class of an integration.
* `Presence.relaxes_classify`: they do nothing else.
* `Presence.Relaxes.check_absent`, `Presence.Relaxes.check_present`: what that does to the outcome,
  without a file and with one.
* `Exemptions.merge_relaxes_mandate`: the laws of a merge and what it does to decisions.
-/

namespace QualityScale

/-! ### The order of inclusion -/

namespace NameSet

instance : PartialOrder NameSet where
  le s t := ∀ x ∈ s, x ∈ t
  le_refl _ _ hx := hx
  le_trans _ _ _ hst htu x hx := htu x (hst x hx)
  le_antisymm _ _ hst hts := ext fun x => ⟨hst x, hts x⟩

instance : SemilatticeSup NameSet where
  sup := union
  le_sup_left _ _ _ hx := mem_union.mpr (.inl hx)
  le_sup_right _ _ _ hx := mem_union.mpr (.inr hx)
  sup_le _ _ _ hs ht x hx := (mem_union.mp hx).elim (hs x) (ht x)

instance : OrderBot NameSet where
  bot := empty
  bot_le _ x hx := absurd hx (not_mem_empty x)

end NameSet

namespace Exemptions

instance : PartialOrder Exemptions where
  le a b := a.forbidden ≤ b.forbidden ∧ a.grandfathered ≤ b.grandfathered
  le_refl _ := ⟨le_refl _, le_refl _⟩
  le_trans _ _ _ h k := ⟨h.1.trans k.1, h.2.trans k.2⟩
  le_antisymm a b h k := by
    obtain ⟨af, ag⟩ := a
    obtain ⟨bf, bg⟩ := b
    rw [mk.injEq]
    exact ⟨le_antisymm h.1 k.1, le_antisymm h.2 k.2⟩

instance : SemilatticeSup Exemptions where
  sup := merge
  -- A merge puts the sets of its second part first.
  le_sup_left _ b := ⟨le_sup_right (a := b.forbidden), le_sup_right (a := b.grandfathered)⟩
  le_sup_right a _ := ⟨le_sup_left (b := a.forbidden), le_sup_left (b := a.grandfathered)⟩
  sup_le _ _ _ ha hb := ⟨sup_le hb.1 ha.1, sup_le hb.2 ha.2⟩

instance : OrderBot Exemptions where
  bot := empty
  bot_le _ := ⟨bot_le, bot_le⟩

variable {x y : Exemptions} {domain : String}

theorem isForbidden_of_le (h : x ≤ y) (hx : x.isForbidden domain = true) :
    y.isForbidden domain = true :=
  NameSet.contains_eq_true.mpr (h.1 domain (NameSet.contains_eq_true.mp hx))

theorem isGrandfathered_of_le (h : x ≤ y) (hx : x.isGrandfathered domain = true) :
    y.isGrandfathered domain = true :=
  NameSet.contains_eq_true.mpr (h.2 domain (NameSet.contains_eq_true.mp hx))

end Exemptions

/-! ### Decisions under more exemptions -/

namespace Presence

/-- What more exemptions can do to a class. -/
inductive Relaxes : Presence → Presence → Prop
  | refl (p : Presence) : Relaxes p p
  | grandfathered : Relaxes .required .grandfathered
  | forbidden : Relaxes .required (.forbidden .domain)
  | grandfatheredForbidden : Relaxes .grandfathered (.forbidden .domain)

variable {x y : Exemptions} {i : Integration} {p q : Presence} {declared : Option Tier}

/-- **More exemptions can only relax what is asked of an integration.** -/
theorem relaxes_classify (h : x ≤ y) (i : Integration) :
    Relaxes (classify x i) (classify y i) := by
  have hforbidden : x.isForbidden i.domain = true → y.isForbidden i.domain = true :=
    Exemptions.isForbidden_of_le h
  have hgrandfathered : x.isGrandfathered i.domain = true → y.isGrandfathered i.domain = true :=
    Exemptions.isGrandfathered_of_le h
  rw [classify, classify]
  split
  · exact .refl _
  split
  · exact .refl _
  -- What is forbidden stays so.  Everything else can be forbidden by what is new.
  by_cases hx : x.isForbidden i.domain = true
  · rw [if_pos hx, if_pos (hforbidden hx)]
    exact .refl _
  rw [if_neg hx]
  by_cases hg : x.isGrandfathered i.domain = true
  · rw [if_pos hg, if_pos (hgrandfathered hg)]
    split
    · exact .grandfatheredForbidden
    · exact .refl _
  · rw [if_neg hg]
    split
    · exact .forbidden
    split
    · exact .grandfathered
    · exact .refl _

/-- **Without a file**, the outcome changes only where a file was missing that is not asked for any
more. -/
theorem Relaxes.check_absent (h : Relaxes p q) (declared : Option Tier) :
    q.check false declared = p.check false declared ∨
      p.check false declared = .breach .missingRequired ∧
        q.check false declared ≠ .breach .missingRequired := by
  cases h with
  | refl => exact .inl rfl
  | grandfathered | forbidden =>
    refine .inr ⟨rfl, ?_⟩
    cases declared <;> simp [check]
  | grandfatheredForbidden => exact .inl rfl

/-- **With a file**, the outcome changes only to a breach, and only where the file was read or was
the file of a grandfathered integration. -/
theorem Relaxes.check_present (h : Relaxes p q) (declared : Option Tier) :
    q.check true declared = p.check true declared ∨
      p.check true declared = .validate ∧ (∃ b, q.check true declared = .breach b) ∨
      p.check true declared = .breach .grandfatheredHasFile ∧
        q.check true declared = .breach .forbiddenHasFile := by
  cases h with
  | refl => exact .inl rfl
  | grandfathered | forbidden => exact .inr (.inl ⟨rfl, _, rfl⟩)
  | grandfatheredForbidden => exact .inr (.inr ⟨rfl, rfl⟩)

theorem decide_absent_of_le (h : x ≤ y) (i : Integration) :
    (decide x i false = .skip → decide y i false = .skip) ∧
    (decide y i false = .breach .missingRequired →
      decide x i false = .breach .missingRequired) := by
  have hcheck := (relaxes_classify h i).check_absent i.declaredTier
  rw [← decide, ← decide] at hcheck
  rcases hcheck with hsame | ⟨hmissing, hno⟩
  · rw [hsame]
    exact ⟨id, id⟩
  · refine ⟨fun hskip => ?_, fun hbreach => absurd hbreach hno⟩
    rw [hmissing] at hskip
    cases hskip

theorem decide_present_of_le (h : x ≤ y) (i : Integration) :
    (decide y i true = .validate → decide x i true = .validate) ∧
    (∀ b, decide x i true = .breach b → ∃ b', decide y i true = .breach b' ∧
      (b' = b ∨ b = .grandfatheredHasFile ∧ b' = .forbiddenHasFile)) := by
  have hcheck := (relaxes_classify h i).check_present i.declaredTier
  rw [← decide, ← decide] at hcheck
  rcases hcheck with hsame | ⟨hvalidate, b', hb'⟩ | ⟨hgrandfathered, hforbidden⟩
  · rw [hsame]
    exact ⟨id, fun b hb => ⟨b, hb, .inl rfl⟩⟩
  · refine ⟨fun _ => hvalidate, fun b hb => ?_⟩
    rw [hvalidate] at hb
    cases hb
  · rw [hgrandfathered, hforbidden]
    constructor
    · intro hvalidate
      cases hvalidate
    · intro b hb
      cases hb
      exact ⟨_, rfl, .inr ⟨rfl, rfl⟩⟩

end Presence

namespace Exemptions

/-- **A merge is the join of exemptions, and relaxes the mandate.**  Without a file, what was passed
over still is, and no file is missing that was not.  With a file, nothing is read that was not, and
what was a breach still is one: the same, or the integration is now forbidden to have the file that
it was grandfathered to lack. -/
theorem merge_relaxes_mandate :
    (∀ a b : Exemptions, a.merge b = b.merge a) ∧
    (∀ a b c : Exemptions, (a.merge b).merge c = a.merge (b.merge c)) ∧
    (∀ a : Exemptions, a.merge a = a ∧ empty.merge a = a ∧ a.merge empty = a) ∧
    (∀ a b c : Exemptions, a.merge b ≤ c ↔ a ≤ c ∧ b ≤ c) ∧
    (∀ (a b : Exemptions) (domain : String),
      (a.merge b).isForbidden domain = (a.isForbidden domain || b.isForbidden domain) ∧
      (a.merge b).isGrandfathered domain =
        (a.isGrandfathered domain || b.isGrandfathered domain)) ∧
    ∀ (l e : Exemptions) (i : Integration),
      (Presence.decide l i false = .skip → Presence.decide (l.merge e) i false = .skip) ∧
      (Presence.decide (l.merge e) i false = .breach .missingRequired →
        Presence.decide l i false = .breach .missingRequired) ∧
      (Presence.decide (l.merge e) i true = .validate → Presence.decide l i true = .validate) ∧
      (∀ b, Presence.decide l i true = .breach b →
        ∃ b', Presence.decide (l.merge e) i true = .breach b' ∧
          (b' = b ∨ b = .grandfatheredHasFile ∧ b' = .forbiddenHasFile)) := by
  refine ⟨sup_comm, sup_assoc, ?_, fun a b c => sup_le_iff, ?_, ?_⟩
  · intro a
    exact ⟨sup_idem a, bot_sup_eq a, sup_bot_eq a⟩
  · intro a b domain
    exact ⟨isForbidden_merge a b domain, isGrandfathered_merge a b domain⟩
  · intro l e i
    have hle : l ≤ l.merge e := le_sup_left
    obtain ⟨hskip, hmissing⟩ := Presence.decide_absent_of_le hle i
    obtain ⟨hvalidate, hbreach⟩ := Presence.decide_present_of_le hle i
    exact ⟨hskip, hmissing, hvalidate, hbreach⟩

/-- Exemptions that forbid an integration which was only grandfathered, and do not concern another
one. -/
theorem merge_relaxes_mandate_nowForbidden :
    let l : Exemptions := ⟨.empty, .ofList ["hue"]⟩
    let e : Exemptions := ⟨.ofList ["hue"], .empty⟩
    let hue : Integration := ⟨"hue", ⟨"hue"⟩, true, .hub, none, .object []⟩
    let acme : Integration := ⟨"acme", ⟨"acme"⟩, true, .hub, none, .object []⟩
    Presence.decide (l.merge e) hue false = .skip ∧
    Presence.decide l acme false = .breach .missingRequired ∧
    Presence.decide l acme true = .validate ∧
    ∃ b, Presence.decide (l.merge e) hue true = .breach b := by
  intro l e hue acme
  obtain ⟨-, -, -, -, -, hdecide⟩ := merge_relaxes_mandate
  obtain ⟨hskip, -, -, hbreach⟩ := hdecide l e hue
  obtain ⟨-, hmissing, hvalidate, -⟩ := hdecide l e acme
  obtain ⟨b, hb, -⟩ := hbreach .grandfatheredHasFile rfl
  exact ⟨hskip rfl, hmissing rfl, hvalidate rfl, b, hb⟩

end Exemptions

end QualityScale
