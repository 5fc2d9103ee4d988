import QualityScale.Proofs.Checker.CleanVerdict

/-!
# Decisions on presence

The policy on the presence of a declaration works in two steps: it finds a class for the
integration, and then what follows for that class.  An integration can fit several classes; the
first in the order of precedence counts.  Both steps are described here apart from the program.

* `Fits`, `FirstFit`: the classes that an integration fits, and the first of them in a list.
* `Refuses`, `Follows`: the table of what follows for a class, with a file or without one.
* `firstFit_classify`, `exists_follows`: the policy finds the first class that fits and decides by
  the table.
* `decide_sound`: what a decision says about the integration, whatever the exemptions are.
-/

namespace QualityScale

namespace Presence

/-! ### The first class that fits -/

/-- What it takes to fit a class under the exemptions `x`.  Every integration fits the class of
those that have to carry a declaration, which comes last. -/
def Fits (x : Exemptions) (i : Integration) : Presence → Prop
  | notApplicable => i.core = false
  | forbidden .virtual => i.kind = .virtual
  | forbidden .domain => i.domain ∈ x.forbidden
  | grandfathered => i.domain ∈ x.grandfathered
  | required => True

/-- The first class of a list that the integration fits. -/
inductive FirstFit (x : Exemptions) (i : Integration) : List Presence → Presence → Prop
  | here {p : Presence} {ps : List Presence} (fits : Fits x i p) : FirstFit x i (p :: ps) p
  | later {p q : Presence} {ps : List Presence} (misfit : ¬ Fits x i p)
      (rest : FirstFit x i ps q) : FirstFit x i (p :: ps) q

/-- The classes of the integrations that are free of the duty, in order of precedence. -/
def exemptClasses : List Presence :=
  [.forbidden .virtual, .forbidden .domain, .grandfathered]

/-- All classes in order of precedence. -/
def precedence : List Presence :=
  .notApplicable :: (exemptClasses ++ [.required])

section Classes

variable {x : Exemptions} {i : Integration} {ps : List Presence} {p q : Presence}

theorem FirstFit.fits (h : FirstFit x i ps p) : Fits x i p := by
  induction h with
  | here hp => exact hp
  | later _ _ ih => exact ih

theorem FirstFit.mem (h : FirstFit x i ps p) : p ∈ ps := by
  induction h with
  | here _ => exact List.mem_cons_self
  | later _ _ ih => exact List.mem_cons_of_mem _ ih

theorem FirstFit.of_misfit (h : FirstFit x i (p :: ps) q) (hp : ¬ Fits x i p) :
    FirstFit x i ps q := by
  cases h with
  | here hfits => exact absurd hfits hp
  | later _ hrest => exact hrest

/-- If the first part of a list has a class that fits, the first one that fits is there. -/
theorem FirstFit.of_append {qs : List Presence} (h : FirstFit x i (ps ++ qs) p) (hq : q ∈ ps)
    (hfits : Fits x i q) : FirstFit x i ps p := by
  induction ps with
  | nil => cases hq
  | cons r rs ih =>
    cases h with
    | here hr => exact .here hr
    | later hmisfit hrest =>
      rcases List.mem_cons.mp hq with rfl | hq
      · exact absurd hfits hmisfit
      · exact .later hmisfit (ih hrest hq)

/-- One question of the policy: a class, or what the remaining questions find. -/
theorem FirstFit.ite {P : Prop} [Decidable P] (hp : P ↔ Fits x i p) (hrest : FirstFit x i ps q) :
    FirstFit x i (p :: ps) (if P then p else q) := by
  by_cases h : P
  · rw [if_pos h]
    exact .here (hp.mp h)
  · rw [if_neg h]
    exact .later (mt hp.mpr h) hrest

/-- **The policy finds the first class that fits.** -/
theorem firstFit_classify (x : Exemptions) (i : Integration) :
    FirstFit x i precedence (classify x i) := by
  have hcore : (!i.core) = true ↔ Fits x i .notApplicable := by rw [Bool.not_eq_true', Fits]
  refine .ite hcore (.ite Iff.rfl ?_)
  refine .ite NameSet.contains_eq_true (.ite NameSet.contains_eq_true ?_)
  exact .here trivial

theorem not_fits_notApplicable (hc : i.core = true) : ¬ Fits x i .notApplicable := by
  intro h
  rw [Fits, hc] at h
  cases h

/-- An integration of the core that is free of the duty has the first exempt class that it fits. -/
theorem firstFit_exempt_of_free (hc : i.core = true) (hf : FreeOfDuty x i) :
    FirstFit x i exemptClasses (classify x i) := by
  have hfirst : FirstFit x i (exemptClasses ++ [.required]) (classify x i) :=
    (firstFit_classify x i).of_misfit (not_fits_notApplicable hc)
  rcases hf with hv | hd | hg
  · exact hfirst.of_append (q := .forbidden .virtual) (by decide) hv
  · exact hfirst.of_append (q := .forbidden .domain) (by decide) hd
  · exact hfirst.of_append (q := .grandfathered) (by decide) hg

/-- An integration that has to carry a declaration fits none of the classes that come before. -/
theorem not_fits_of_required (h : FirstFit x i precedence .required)
    (hq : q ∈ .notApplicable :: exemptClasses) : ¬ Fits x i q := by
  intro hfits
  have hfirst : FirstFit x i (.notApplicable :: exemptClasses ++ [.required]) .required := h
  exact absurd (hfirst.of_append hq hfits).mem (by decide)

end Classes

/-! ### What follows for a class -/

/-- What is wrong with a file where the class does not ask for one. -/
inductive Refuses : Presence → PresenceBreach → Prop
  | virtual : Refuses (.forbidden .virtual) .virtualHasFile
  | domain : Refuses (.forbidden .domain) .forbiddenHasFile
  | grandfathered : Refuses .grandfathered .grandfatheredHasFile

/-- **The table of decisions**: what follows for a class, with a file or without one. -/
inductive Follows (i : Integration) : Presence → Bool → PresenceOutcome → Prop
  | foreign {hasFile : Bool} : Follows i .notApplicable hasFile .skip
  | present : Follows i .required true .validate
  | missing : Follows i .required false (.breach .missingRequired)
  | refused {p : Presence} {b : PresenceBreach} (refuses : Refuses p b) :
      Follows i p true (.breach b)
  | claimed {p : Presence} {b : PresenceBreach} {t : Tier} (refuses : Refuses p b)
      (claims : i.Claims t) : Follows i p false (.breach .missingForDeclaredTier)
  | absent {p : Presence} {b : PresenceBreach} (refuses : Refuses p b)
      (noTier : ∀ t, ¬ i.Claims t) : Follows i p false .skip

section Outcomes

variable {x : Exemptions} {i : Integration} {p : Presence} {hasFile : Bool} {o : PresenceOutcome}

theorem follows_of_refuses {b : PresenceBreach} (h : Refuses p b) (hasFile : Bool) :
    Follows i p hasFile (p.check hasFile i.declaredTier) := by
  cases hasFile with
  | true =>
    have hbreach : p.check true i.declaredTier = .breach b := by cases h <;> rfl
    rw [hbreach]
    exact .refused h
  | false =>
    cases htier : i.declaredTier with
    | none =>
      have hskip : p.check false none = .skip := by cases h <;> rfl
      rw [hskip]
      exact .absent h (Integration.declaredTier_eq_none_iff.mp htier)
    | some t =>
      have hbreach : p.check false (some t) = .breach .missingForDeclaredTier := by
        cases h <;> rfl
      rw [hbreach]
      exact .claimed h (Integration.declaredTier_eq_some_iff.mp htier)

theorem follows_check (i : Integration) (p : Presence) (hasFile : Bool) :
    Follows i p hasFile (p.check hasFile i.declaredTier) := by
  cases p with
  | notApplicable => exact .foreign
  | forbidden reason =>
    cases reason with
    | virtual => exact follows_of_refuses .virtual hasFile
    | domain => exact follows_of_refuses .domain hasFile
  | grandfathered => exact follows_of_refuses .grandfathered hasFile
  | required =>
    cases hasFile with
    | true => exact .present
    | false => exact .missing

/-- **The policy decides by the table**, for the first class that fits. -/
theorem exists_follows (h : decide x i hasFile = o) :
    ∃ p, FirstFit x i precedence p ∧ Follows i p hasFile o :=
  ⟨classify x i, firstFit_classify x i, h ▸ follows_check i (classify x i) hasFile⟩

/-- A declaration is read exactly if there is one and nothing frees the integration from it. -/
theorem decide_eq_validate_iff :
    decide x i hasFile = .validate ↔
      i.core = true ∧ i.kind ≠ .virtual ∧ i.domain ∉ x.forbidden ∧ i.domain ∉ x.grandfathered ∧
        hasFile = true := by
  constructor
  · intro h
    obtain ⟨p, hfirst, hfollows⟩ := exists_follows h
    cases hfollows with
    | present =>
      have hmisfit : ∀ q ∈ .notApplicable :: exemptClasses, ¬ Fits x i q := fun _ hq =>
        not_fits_of_required hfirst hq
      have hcore : ¬ i.core = false := hmisfit .notApplicable (by decide)
      exact ⟨(Bool.not_eq_false i.core).mp hcore, hmisfit (.forbidden .virtual) (by decide),
        hmisfit (.forbidden .domain) (by decide), hmisfit .grandfathered (by decide), rfl⟩
  · rintro ⟨hc, hv, hd, hg, rfl⟩
    have hf : ¬ FreeOfDuty x i := by
      rintro (h | h | h)
      · exact hv h
      · exact hd h
      · exact hg h
    rw [decide_of_duty hc hf, if_pos rfl]

/-- An integration of the core that claims a tier is never passed over. -/
theorem decide_ne_skip_of_claims {t : Tier} (hc : i.core = true) (ht : i.Claims t) :
    decide x i hasFile ≠ .skip := by
  intro h
  obtain ⟨p, hfirst, hfollows⟩ := exists_follows h
  cases hfollows with
  | foreign => exact not_fits_notApplicable hc hfirst.fits
  | absent _ hnone => exact hnone t ht

/-- A breach is reported in agreement with the file. -/
theorem saysPresent_of_breach {b : PresenceBreach} (h : decide x i hasFile = .breach b) :
    b.saysPresent = hasFile := by
  obtain ⟨p, -, hfollows⟩ := exists_follows h
  cases hfollows with
  | missing => rfl
  | refused hrefuses => cases hrefuses <;> rfl
  | claimed _ _ => rfl

/-- The breaches that say that a file is missing are those whose message begins so. -/
theorem saysPresent_eq_false_iff (b : PresenceBreach) :
    b.saysPresent = false ↔ "Quality scale definition not found.".toList <+: b.message.toList := by
  cases b <;> decide +kernel

end Outcomes

/-- **Decisions on presence are sound, whatever the exemptions are.**  What is not part of the core
is passed over, and what is and claims a tier is not.  A declaration is read exactly if there is one
and no exemption concerns the integration.  A breach is right about the file, in the text of its
message too.  Where exemptions concern an integration of the core, however many of them, the first
of its classes decides. -/
theorem decide_sound (x : Exemptions) (i : Integration) (hasFile : Bool) :
    (i.core = false → decide x i hasFile = .skip) ∧
    (i.core = true → (∃ t, i.Claims t) → decide x i hasFile ≠ .skip) ∧
    (decide x i hasFile = .validate ↔
      i.core = true ∧ i.kind ≠ .virtual ∧ i.domain ∉ x.forbidden ∧ i.domain ∉ x.grandfathered ∧
        hasFile = true) ∧
    (∀ b, decide x i hasFile = .breach b →
      b.saysPresent = hasFile ∧
        ("Quality scale definition not found.".toList <+: b.message.toList ↔ hasFile = false)) ∧
    (i.core = true → FreeOfDuty x i →
      ∃ p, FirstFit x i exemptClasses p ∧ Follows i p hasFile (decide x i hasFile)) := by
  refine ⟨?_, ?_, decide_eq_validate_iff, ?_, ?_⟩
  · intro hc
    exact decide_of_not_core hc hasFile
  · rintro hc ⟨t, ht⟩
    exact decide_ne_skip_of_claims hc ht
  · intro b hb
    have hfile := saysPresent_of_breach hb
    refine ⟨hfile, ?_⟩
    rw [← saysPresent_eq_false_iff, hfile]
  · intro hc hf
    exact ⟨classify x i, firstFit_exempt_of_free hc hf, follows_check i (classify x i) hasFile⟩

/-- A virtual integration that claims a tier, under exemptions that have its domain in both sets. -/
theorem decide_sound_manyExemptions :
    let x : Exemptions := ⟨.ofList ["hue"], .ofList ["hue"]⟩
    let i : Integration :=
      ⟨"hue", ⟨"components/hue"⟩, true, .virtual, some "gold", .object []⟩
    decide x { i with core := false } true = .skip ∧
    decide x i false ≠ .skip ∧
    (PresenceBreach.virtualHasFile.saysPresent = true ∧
      ("Quality scale definition not found.".toList <+:
        PresenceBreach.virtualHasFile.message.toList ↔ true = false)) ∧
    ∃ p, FirstFit x i exemptClasses p ∧ Follows i p true (decide x i true) := by
  intro x i
  have hforeign := (decide_sound x { i with core := false } true).1
  have hclaims := (decide_sound x i false).2.1
  obtain ⟨-, -, -, hbreach, hexempt⟩ := decide_sound x i true
  have hsays := hbreach .virtualHasFile rfl
  exact ⟨hforeign rfl, hclaims rfl ⟨.gold, rfl⟩, hsays, hexempt rfl (.inl rfl)⟩

end Presence

end QualityScale
