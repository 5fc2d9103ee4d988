import Mathlib.Data.List.Forall2
import QualityScale.Text.Case

/-!
# Lower case within ASCII

Lower case is a matter of all of Unicode, and some letters outside ASCII have a form that reaches into
it: the Kelvin sign becomes a `k`, and the capital I with a dot becomes an `i` and a dot that stands
by itself.  No other letter does, so a word of ASCII without `k` is the lower-case form of those texts
only that differ from it in capital letters of ASCII.

* `IsAscii c`: a character of ASCII.
* `exists_beyond_of_not_isAscii`: the form of a character outside ASCII has one that is outside ASCII
  too, or is `k`.
* `SameLetter c d`, `SameButCase s t`: the same up to the case of letters of ASCII.
* `lowercase_eq_iff`: which texts have a word of ASCII for their lower-case form.
-/

namespace QualityScale.Text

/-- A character of ASCII. -/
def IsAscii (c : Char) : Prop := c.toNat < 128

instance (c : Char) : Decidable (IsAscii c) := inferInstanceAs (Decidable (c.toNat < 128))

/-! ### Characters outside ASCII -/

/-- The small letters of the run are characters outside ASCII. -/
def CapitalRun.isBeyond (r : CapitalRun) : Bool :=
  128 ≤ r.small &&
    (r.lower r.last < 0xd800 || 0xe000 ≤ r.small && r.lower r.last < 0x110000)

/-- The run of the Kelvin sign. -/
def kelvinRun : CapitalRun := ⟨0x212a, 0x212a, 1, 0x6b⟩

section Beyond

variable {c : Char} {r : CapitalRun}

/-- The runs are those of ASCII, that of the Kelvin sign, and runs whose letters are outside ASCII,
small letters too. -/
theorem capitalRuns_cases (hr : r ∈ capitalRuns) :
    r.last < 128 ∨ r.first = kelvinRun.first ∧ r.last = kelvinRun.last ∧ r.small = kelvinRun.small ∨
      r.isBeyond = true := by
  have hall : capitalRuns.all (fun r => r.last < 128 || (r.first == kelvinRun.first &&
      (r.last == kelvinRun.last && r.small == kelvinRun.small)) || r.isBeyond) = true := by
    decide +kernel
  have h := List.all_eq_true.mp hall r hr
  simpa [or_assoc] using h

theorem CapitalRun.not_isAscii_of_isBeyond {n : Nat} (h : r.isBeyond = true) (hn : n ≤ r.last) :
    ¬ IsAscii (Char.ofNat (r.lower n)) := by
  simp only [isBeyond, Bool.and_eq_true, Bool.or_eq_true, decide_eq_true_eq] at h
  simp only [lower] at h
  have hvalid : (r.lower n).isValidChar := by
    rw [lower, Nat.isValidChar]
    omega
  have hcode : (Char.ofNat (r.lower n)).toNat = r.lower n := by
    rw [Char.ofNat, dif_pos hvalid]
    rfl
  rw [IsAscii, hcode, lower]
  omega

theorem lowerChar_beyond (h : ¬ IsAscii c) : ¬ IsAscii (lowerChar c) ∨ lowerChar c = 'k' := by
  rw [lowerChar]
  split
  next r hr =>
    have hhas := List.find?_some hr
    simp only [CapitalRun.has, Bool.and_eq_true, decide_eq_true_eq] at hhas
    obtain ⟨⟨hfirst, hlast⟩, -⟩ := hhas
    rcases capitalRuns_cases (List.mem_of_find?_eq_some hr) with hascii | ⟨hf, hl, hsmall⟩ | hbeyond
    · exact absurd (Nat.lt_of_le_of_lt hlast hascii) h
    · have hlower : r.lower c.toNat = 0x6b := by
        simp only [kelvinRun] at hf hl hsmall
        rw [CapitalRun.lower]
        omega
      rw [hlower]
      exact .inr rfl
    · exact .inl (CapitalRun.not_isAscii_of_isBeyond hbeyond hlast)
  next => exact .inl h

/-- **The form of a character outside ASCII reaches beyond ASCII**, or it is the `k` of the Kelvin
sign. -/
theorem exists_beyond_of_not_isAscii (h : ¬ IsAscii c) :
    ∃ d ∈ lowerForm c, ¬ IsAscii d ∨ d = 'k' := by
  rw [lowerForm]
  split
  · exact ⟨'\u0307', by simp, .inl (by decide)⟩
  · exact ⟨lowerChar c, List.mem_singleton_self _, lowerChar_beyond h⟩

end Beyond

/-! ### Words of ASCII -/

/-- A small letter of ASCII and its capital. -/
def CapitalOf (c d : Char) : Prop := 'A' ≤ c ∧ c ≤ 'Z' ∧ d.toNat = c.toNat + 32

/-- **The same character up to the case of letters of ASCII.** -/
def SameLetter (c d : Char) : Prop := c = d ∨ CapitalOf c d ∨ CapitalOf d c

/-- **The same text up to the case of letters of ASCII.** -/
def SameButCase (s t : List Char) : Prop := List.Forall₂ SameLetter s t

section Word

variable {before s t w : List Char} {c d : Char}

theorem toLower_of_not_capital (h : ¬ ('A' ≤ c ∧ c ≤ 'Z')) : c.toLower = c := dif_neg h

theorem toNat_toLower (c : Char) :
    c.toLower.toNat = if 'A' ≤ c ∧ c ≤ 'Z' then c.toNat + 32 else c.toNat := by
  by_cases hc : 'A' ≤ c ∧ c ≤ 'Z'
  · have hsum : c.toLower.val = c.val + 32 := congrArg Char.val (dif_pos hc)
    have hle : c.val.toNat ≤ 90 := hc.2
    have hsmall : c.val.toNat + 32 < 2 ^ 32 := by omega
    rw [if_pos hc, Char.toNat, hsum]
    exact (UInt32.toNat_add c.val 32).trans (Nat.mod_eq_of_lt hsmall)
  · rw [if_neg hc, toLower_of_not_capital hc]

theorem sameLetter_iff : SameLetter c d ↔ c.toLower = d.toLower := by
  rw [← Char.toNat_inj, toNat_toLower, toNat_toLower, SameLetter, CapitalOf, CapitalOf,
    ← Char.toNat_inj]
  simp only [Char.le_def, UInt32.le_iff_toNat_le]
  have : 'A'.val.toNat = 65 := rfl
  have : 'Z'.val.toNat = 90 := rfl
  have : c.val.toNat = c.toNat := rfl
  have : d.val.toNat = d.toNat := rfl
  split <;> split <;> omega

theorem isAscii_of_toLower (h : IsAscii c.toLower) : IsAscii c := by
  rw [IsAscii, toNat_toLower] at h
  rw [IsAscii]
  split at h <;> omega

theorem sameButCase_iff : SameButCase s t ↔ s.map Char.toLower = t.map Char.toLower := by
  rw [← List.forall₂_eq_eq_eq, List.forall₂_map_left_iff, List.forall₂_map_right_iff]
  constructor
  · exact fun h => h.imp fun _ _ => sameLetter_iff.mp
  · exact fun h => h.imp fun _ _ => sameLetter_iff.mpr

theorem not_isAscii_lowerSigma (before after : List Char) :
    ¬ IsAscii (lowerSigma before after) := by
  rw [lowerSigma]
  split <;> decide

theorem lowercaseAfter_eq_iff (hw : ∀ d ∈ w, IsAscii d) (hk : 'k' ∉ w) :
    lowercaseAfter before s = w ↔ s.map Char.toLower = w := by
  induction s generalizing before w with
  | nil => rfl
  | cons c s ih =>
    rw [lowercaseAfter, List.map_cons]
    by_cases hc : IsAscii c
    · have hsigma : c ≠ 'Σ' := by
        rintro rfl
        exact absurd hc (by decide)
      rw [if_neg hsigma, lowerForm_of_ascii hc, List.singleton_append]
      cases w with
      | nil => exact iff_of_false (List.cons_ne_nil _ _) (List.cons_ne_nil _ _)
      | cons d w =>
        rw [List.cons.injEq, List.cons.injEq, ih (fun d hd => hw d (List.mem_cons_of_mem _ hd))
          fun hmem => hk (List.mem_cons_of_mem _ hmem)]
    · -- What becomes of the first character is not in the word, on either side.
      refine iff_of_false (fun h => ?_) (fun h => ?_)
      · have hbeyond : ∃ d ∈ if c = 'Σ' then [lowerSigma before s] else lowerForm c,
            ¬ IsAscii d ∨ d = 'k' := by
          split
          · exact ⟨_, List.mem_singleton_self _, .inl (not_isAscii_lowerSigma before s)⟩
          · exact exists_beyond_of_not_isAscii hc
        obtain ⟨d, hd, hbeyond⟩ := hbeyond
        have hmem : d ∈ w := h ▸ List.mem_append_left _ hd
        rcases hbeyond with hd | rfl
        · exact hd (hw d hmem)
        · exact hk hmem
      · exact hc (isAscii_of_toLower (hw _ (h ▸ List.mem_cons_self)))

/-- **A word of ASCII without `k` is the lower-case form of just those texts that have the same
lower-case form within ASCII.** -/
theorem lowercase_eq_iff (hw : ∀ d ∈ w, IsAscii d) (hk : 'k' ∉ w) :
    lowercase s = w ↔ s.map Char.toLower = w :=
  lowercaseAfter_eq_iff hw hk

/-- The Kelvin sign is why `k` is left out. -/
example : lowercase "\u212aelvin".toList = "kelvin".toList ∧
    "\u212aelvin".toList.map Char.toLower ≠ "kelvin".toList := by decide +kernel

end Word

end QualityScale.Text
