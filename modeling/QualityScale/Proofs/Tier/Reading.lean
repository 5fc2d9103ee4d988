import QualityScale.Tier
import QualityScale.Proofs.Text.LowerCase
import QualityScale.Proofs.Text.Runs

/-!
# Two ways to read a tier

A manifest has to name a tier exactly.  On a command line a tier may have blanks around it and be
written in capitals, and then the text is brought into lower case by the rules of Unicode.  No more
comes of that than of the case of letters of ASCII: the letters outside ASCII that have a form within
it have none that is in the name of a tier.

* `Means s t`: without the blanks around it the text is the name of the tier, but for the case of
  letters of ASCII.
* `parse_eq_ok_iff`: which texts are read as a tier.
* `readings_agree`: the same, and where the two ways to read agree.
-/

namespace QualityScale.Tier

open Text (Stripped SameButCase IsAscii stripped_iff sameButCase_iff lowercase_eq_iff)

/-- **The text means the tier**: without the blanks around it, it is the tier's name up to the case
of letters of ASCII. -/
def Means (s : String) (t : Tier) : Prop :=
  ∃ word, Stripped s.toList word ∧ SameButCase word t.name.toList

section Reading

variable {s : String} {t : Tier}

theorem isAscii_of_mem_name (t : Tier) : ∀ c ∈ t.name.toList, IsAscii c := by
  have h : (t.name.toList.all fun c => IsAscii c) = true := by cases t <;> decide
  simpa using h

theorem k_not_mem_name (t : Tier) : 'k' ∉ t.name.toList := by cases t <;> decide

theorem map_toLower_name (t : Tier) : t.name.toList.map Char.toLower = t.name.toList := by
  cases t <;> decide

theorem means_iff : Means s t ↔ (Text.trim s.toList).map Char.toLower = t.name.toList := by
  rw [Means]
  simp only [stripped_iff, exists_eq_left, sameButCase_iff, map_toLower_name]

/-- **The texts that are read as a tier are those that mean it.** -/
theorem parse_eq_ok_iff : parse s = .ok t ↔ Means s t := by
  have hname : ∀ cs : List Char, ofName? (String.ofList cs) = some t ↔ cs = t.name.toList := by
    intro cs
    rw [ofName?_eq_some_iff, ← String.toList_inj, String.toList_ofList, eq_comm]
  rw [means_iff, ← lowercase_eq_iff (isAscii_of_mem_name t) (k_not_mem_name t), ← hname, parse]
  split
  next found hfound => rw [hfound, Except.ok.injEq, Option.some.injEq]
  next hnone => rw [hnone]; exact ⟨nofun, nofun⟩

theorem Means.isAscii (h : Means s t) {word : List Char} (hword : Stripped s.toList word) :
    ∀ c ∈ word, IsAscii c := by
  intro c hc
  have hlower : word.map Char.toLower = t.name.toList := by
    rw [stripped_iff.mp hword]
    exact means_iff.mp h
  exact Text.isAscii_of_toLower
    (isAscii_of_mem_name t _ (hlower ▸ List.mem_map_of_mem hc))

/-- The name of a tier has no blanks around it. -/
theorem stripped_name (t : Tier) : Stripped t.name.toList t.name.toList := by
  rw [stripped_iff]
  cases t <;> decide

theorem means_name (t : Tier) : Means t.name t :=
  ⟨_, stripped_name t, sameButCase_iff.mpr rfl⟩

theorem Means.name_eq (h : Means s t) (hbare : Stripped s.toList s.toList)
    (hsmall : ∀ c ∈ s.toList, ¬ ('A' ≤ c ∧ c ≤ 'Z')) : t.name = s := by
  have hkept : s.toList.map Char.toLower = s.toList :=
    (List.map_congr_left fun c hc => Text.toLower_of_not_capital (hsmall c hc)).trans
      (List.map_id _)
  rw [means_iff, ← stripped_iff.mp hbare, hkept] at h
  exact String.toList_inj.mp h.symm

end Reading

/-- **The two ways to read a tier agree.**  The lenient one takes the texts that mean the tier, and a
text that means one has nothing outside ASCII between its blanks.  It takes all that the strict one
takes, and no more among the texts without blanks around them and without capital letters. -/
theorem readings_agree (s : String) (t : Tier) :
    (parse s = .ok t ↔ Means s t) ∧
      (parse s = .ok t → ∀ word, Stripped s.toList word → ∀ c ∈ word, IsAscii c) ∧
      (ofName? s = some t → parse s = .ok t) ∧
      (parse s = .ok t → Stripped s.toList s.toList →
        (∀ c ∈ s.toList, ¬ ('A' ≤ c ∧ c ≤ 'Z')) → ofName? s = some t) := by
  refine ⟨parse_eq_ok_iff, fun hparse word hword => ?_, fun hname => ?_,
    fun hparse hbare hsmall => ?_⟩
  · exact (parse_eq_ok_iff.mp hparse).isAscii hword
  · rw [← ofName?_eq_some_iff.mp hname]
    exact parse_eq_ok_iff.mpr (means_name t)
  · exact ofName?_eq_some_iff.mpr ((parse_eq_ok_iff.mp hparse).name_eq hbare hsmall)

/-- A name as it is, and one with blanks of two kinds around it and with capitals. -/
theorem readings_agree_twoSpellings :
    (ofName? "gold" = some .gold ∧ parse "gold" = .ok .gold) ∧
      (Stripped "gold".toList "gold".toList ∧
        (∀ c ∈ "gold".toList, ¬ ('A' ≤ c ∧ c ≤ 'Z')) ∧ ofName? "gold" = some .gold) ∧
      (Means "\u3000gOLd\n" .gold ∧ parse "\u3000gOLd\n" = .ok .gold ∧
        Stripped "\u3000gOLd\n".toList "gOLd".toList ∧ ∀ c ∈ "gOLd".toList, IsAscii c) := by
  have hplain := readings_agree "gold" .gold
  have hspelled := readings_agree "\u3000gOLd\n" .gold
  have hname : ofName? "gold" = some .gold := by decide
  have hparse : parse "gold" = .ok .gold := hplain.2.2.1 hname
  have hbare : Stripped "gold".toList "gold".toList := stripped_iff.mpr (by decide)
  have hsmall : ∀ c ∈ "gold".toList, ¬ ('A' ≤ c ∧ c ≤ 'Z') := by simp
  have hword : Stripped "\u3000gOLd\n".toList "gOLd".toList := stripped_iff.mpr (by decide)
  have hmeans : Means "\u3000gOLd\n" .gold :=
    ⟨_, hword, sameButCase_iff.mpr (by decide)⟩
  have hparsed : parse "\u3000gOLd\n" = .ok .gold := hspelled.1.mpr hmeans
  exact ⟨⟨hname, hparse⟩, ⟨hbare, hsmall, hplain.2.2.2 hparse hbare hsmall⟩, hmeans, hparsed, hword,
    hspelled.2.1 hparsed _ hword⟩

/-- A capital I with a dot is no `i`. -/
example : (parse "PLAT\u0130NUM").isOk = false := by decide +kernel

end QualityScale.Tier
