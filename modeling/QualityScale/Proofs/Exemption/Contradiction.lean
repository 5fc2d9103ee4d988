import QualityScale.Proofs.Command.Validation

/-!
# Contradictory exemptions

A domain should not be in both sets of exemptions: one that must not carry a declaration does not
merely lack it so far.  A file of further exemptions is refused if it puts a domain in both, and the
exemptions that always hold have no such domain either.  The two together can have one, for a file
may put a domain in one set that is always in the other.

* `Exemptions.Contradicts`: a domain is in both sets.
* `not_contradicts_builtin`, `not_contradicts_of_load`: neither part contradicts itself.
* `contradicts_inForce_iff`: the domains that the exemptions in force contradict themselves about.
* `contradiction_in_force`: a file that is accepted and makes a contradiction.
-/

namespace QualityScale

/-! ### Lists without a common name -/

/-- A number made from the bytes of a name. -/
def digest (name : String) : Nat :=
  name.toByteArray.data.toList.foldl (fun n b => 31 * n + b.toNat) 0 % 65536

/-- The number that has a bit for the digest of every name in a list. -/
def digestBits (names : List String) : Nat :=
  names.foldr (fun name bits => 1 <<< digest name ||| bits) 0

theorem testBit_digestBits {names : List String} {name : String} (h : name ∈ names) :
    (digestBits names).testBit (digest name) = true := by
  induction names with
  | nil => cases h
  | cons first rest ih =>
    have hbits : digestBits (first :: rest) = 1 <<< digest first ||| digestBits rest := rfl
    rw [hbits, Nat.testBit_or]
    rcases List.mem_cons.mp h with rfl | h
    · have hself : (1 <<< digest name).testBit (digest name) = true := by
        rw [Nat.one_shiftLeft, Nat.testBit_two_pow_self]
      rw [hself, Bool.true_or]
    · rw [ih h, Bool.or_true]

/-- Names that are in no digest of a list are not in the list.  For long lists this is much less
work than to compare every name with every other. -/
theorem not_mem_of_digestBits {names others : List String}
    (h : others.all (fun name => !(digestBits names).testBit (digest name)) = true) {name : String}
    (hname : name ∈ names) : name ∉ others := by
  intro hother
  have hbit := List.all_eq_true.mp h name hother
  rw [testBit_digestBits hname] at hbit
  cases hbit

/-! ### The parts of the exemptions in force -/

namespace Exemptions

/-- The domain is in both sets of exemptions. -/
structure Contradicts (x : Exemptions) (domain : String) : Prop where
  forbidden : domain ∈ x.forbidden
  grandfathered : domain ∈ x.grandfathered

theorem mem_builtin_forbidden {domain : String} :
    domain ∈ builtin.forbidden ↔ domain ∈ entityPlatforms ++ helperDomains :=
  NameSet.mem_ofList

theorem mem_builtin_grandfathered {domain : String} :
    domain ∈ builtin.grandfathered ↔ domain ∈ grandfatheredDomains :=
  NameSet.mem_ofList

theorem not_contradicts_builtin (domain : String) : ¬ builtin.Contradicts domain := by
  rintro ⟨hforbidden, hgrandfathered⟩
  have hapart : grandfatheredDomains.all (fun name =>
      !(digestBits (entityPlatforms ++ helperDomains)).testBit (digest name)) = true := by
    -- The bits are those of the shorter list: it costs more to set a bit than to look at one.
    decide +kernel
  exact not_mem_of_digestBits hapart (mem_builtin_forbidden.mp hforbidden)
    (mem_builtin_grandfathered.mp hgrandfathered)

theorem contradiction?_eq_none_iff {x : Exemptions} :
    x.contradiction? = none ↔ ∀ domain, ¬ x.Contradicts domain := by
  rw [contradiction?, List.head?_eq_none_iff, NameSet.common, List.filter_eq_nil_iff]
  refine forall_congr' fun domain => ?_
  rw [NameSet.contains_eq_true]
  constructor
  · intro h hboth
    exact h hboth.forbidden hboth.grandfathered
  · intro h hforbidden hgrandfathered
    exact h ⟨hforbidden, hgrandfathered⟩

theorem not_contradicts_of_load {files : FileTree} {path : Path} {x : Exemptions}
    (h : load files path = .ok x) (domain : String) : ¬ x.Contradicts domain := by
  rw [load] at h
  cases htext : files.text path with
  | error e =>
    rw [htext] at h
    cases h
  | ok text =>
    rw [htext] at h
    cases hread : read text with
    | error e =>
      simp only [hread] at h
      cases h
    | ok y =>
      simp only [hread] at h
      cases hcontra : y.contradiction? with
      | some d =>
        rw [hcontra] at h
        cases h
      | none =>
        rw [hcontra] at h
        cases h
        exact contradiction?_eq_none_iff.mp hcontra domain

/-- Where neither part contradicts itself, the two together do about the domains that one part has
in the one set and the other part in the other. -/
theorem contradicts_merge_iff {x y : Exemptions} {domain : String}
    (hx : ¬ x.Contradicts domain) (hy : ¬ y.Contradicts domain) :
    (x.merge y).Contradicts domain ↔
      domain ∈ y.forbidden ∧ domain ∈ x.grandfathered ∨
        domain ∈ x.forbidden ∧ domain ∈ y.grandfathered := by
  have hforbidden : domain ∈ (x.merge y).forbidden ↔ domain ∈ y.forbidden ∨ domain ∈ x.forbidden :=
    NameSet.mem_union
  have hgrandfathered : domain ∈ (x.merge y).grandfathered ↔
      domain ∈ y.grandfathered ∨ domain ∈ x.grandfathered := NameSet.mem_union
  constructor
  · intro hboth
    rcases hforbidden.mp hboth.forbidden with hf | hf
    · rcases hgrandfathered.mp hboth.grandfathered with hg | hg
      · exact absurd ⟨hf, hg⟩ hy
      · exact .inl ⟨hf, hg⟩
    · rcases hgrandfathered.mp hboth.grandfathered with hg | hg
      · exact .inr ⟨hf, hg⟩
      · exact absurd ⟨hf, hg⟩ hx
  · rintro (⟨hf, hg⟩ | ⟨hf, hg⟩)
    · exact ⟨hforbidden.mpr (.inl hf), hgrandfathered.mpr (.inr hg)⟩
    · exact ⟨hforbidden.mpr (.inr hf), hgrandfathered.mpr (.inl hg)⟩

end Exemptions

/-! ### The exemptions in force -/

namespace Command

/-- **The exemptions in force contradict themselves about the domains that the file puts in the
other set.**  Without a file there is no contradiction. -/
theorem contradicts_inForce_iff {files : FileTree} {file : Option Path} {x : Exemptions}
    (h : InForce files file x) (domain : String) :
    x.Contradicts domain ↔
      ∃ path extra, file = some path ∧ Exemptions.load files path = .ok extra ∧
        (domain ∈ extra.forbidden ∧ domain ∈ Exemptions.builtin.grandfathered ∨
          domain ∈ Exemptions.builtin.forbidden ∧ domain ∈ extra.grandfathered) := by
  have hbuiltin := Exemptions.not_contradicts_builtin domain
  cases h with
  | builtin =>
    refine iff_of_false hbuiltin ?_
    rintro ⟨path, extra, hnone, -⟩
    cases hnone
  | @merged path extra hload =>
    have hextra := Exemptions.not_contradicts_of_load hload domain
    rw [Exemptions.contradicts_merge_iff hbuiltin hextra]
    constructor
    · intro hsets
      exact ⟨path, extra, rfl, hload, hsets⟩
    · rintro ⟨path', extra', hpath, hload', hsets⟩
      cases hpath
      rw [hload] at hload'
      cases hload'
      exact hsets

/-- A checkout without integrations, and beside it a file that forbids `hue` and lets `acme` and
`sensor` go without a declaration. -/
def crossingCheckout : FileTree :=
  ⟨.directory [
    ("extra.yaml",
      .file "no_quality_scale: [hue]\nwithout_file: [acme, sensor]\n".toByteArray),
    ("homeassistant", .directory [("components", .directory [])])], []⟩

/-- What is in its file. -/
def crossingExemptions : Exemptions :=
  ⟨.ofList ["hue"], .ofList ["acme", "sensor"]⟩

theorem load_crossingCheckout :
    Exemptions.load crossingCheckout ⟨"extra.yaml"⟩ = .ok crossingExemptions := by
  have hsome : (Exemptions.load crossingCheckout ⟨"extra.yaml"⟩).toOption =
      some crossingExemptions := by decide +kernel
  cases hload : Exemptions.load crossingCheckout ⟨"extra.yaml"⟩ with
  | error e =>
    rw [hload] at hsome
    cases hsome
  | ok x =>
    rw [hload] at hsome
    rw [Option.some.inj hsome]

theorem contradicts_inForce_iff_crossingCheckout :
    let x := Exemptions.builtin.merge crossingExemptions
    InForce crossingCheckout (some ⟨"extra.yaml"⟩) x ∧
      (x.Contradicts "hue" ↔
        ∃ path extra, some ⟨"extra.yaml"⟩ = some path ∧
          Exemptions.load crossingCheckout path = .ok extra ∧
          ("hue" ∈ extra.forbidden ∧ "hue" ∈ Exemptions.builtin.grandfathered ∨
            "hue" ∈ Exemptions.builtin.forbidden ∧ "hue" ∈ extra.grandfathered)) := by
  have hforce : InForce crossingCheckout (some ⟨"extra.yaml"⟩)
      (Exemptions.builtin.merge crossingExemptions) := .merged load_crossingCheckout
  exact ⟨hforce, contradicts_inForce_iff hforce "hue"⟩

/-- **Exemptions in force can contradict themselves**, on either side, and the run goes on. -/
theorem contradiction_in_force :
    (∃ x, InForce crossingCheckout (some ⟨"extra.yaml"⟩) x ∧
      x.Contradicts "sensor" ∧ x.Contradicts "hue") ∧
    (run crossingCheckout {} ["validate", "--exemptions", "extra.yaml"]).code = 0 := by
  have hsensor : "sensor" ∈ Exemptions.builtin.forbidden :=
    Exemptions.mem_builtin_forbidden.mpr (by decide)
  have hhue : "hue" ∈ Exemptions.builtin.grandfathered :=
    Exemptions.mem_builtin_grandfathered.mpr (by decide +kernel)
  refine ⟨⟨_, .merged load_crossingCheckout, ⟨?_, ?_⟩, ⟨?_, ?_⟩⟩, by decide +kernel⟩
  · exact NameSet.mem_union.mpr (.inr hsensor)
  · exact NameSet.mem_union.mpr (.inl (by decide))
  · exact NameSet.mem_union.mpr (.inl (by decide))
  · exact NameSet.mem_union.mpr (.inr hhue)

end Command

end QualityScale
