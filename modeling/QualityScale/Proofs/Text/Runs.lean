import Mathlib.Data.List.TakeWhile
import QualityScale.Text.Blank
import QualityScale.Text.Word

/-!
# Runs of characters

A line is read in runs: blanks, then a word, then blanks again.  A run that takes all characters of
its class ends where the next character is of another one, so a text can be cut there in one way only.

* `Blanks w`: a run, possibly empty, of blanks.
* `IsIdentifier name`: a run of at least one word character.
* `run_append_cancel`: two ways to cut a text after such a run are the same.
* `Stripped s w`: the text is `w` with blanks around it, and `w` has none at its ends.
-/

namespace QualityScale.Text

/-- The text is a run, possibly empty, of blanks. -/
def Blanks (w : List Char) : Prop := ∀ c ∈ w, isBlank c = true

/-- The text is a run of at least one word character. -/
def IsIdentifier (name : List Char) : Prop := name ≠ [] ∧ ∀ c ∈ name, isWord c = true

instance (w : List Char) : Decidable (Blanks w) :=
  decidable_of_iff (w.all isBlank = true) List.all_eq_true

instance (name : List Char) : Decidable (IsIdentifier name) :=
  decidable_of_iff (name ≠ [] ∧ name.all isWord = true) (and_congr_right fun _ => List.all_eq_true)

section Run

variable {p : Char → Bool} {u v s t : List Char}

theorem takeWhile_run (hu : ∀ c ∈ u, p c = true) (hs : ∀ c ∈ s.head?, p c = false) :
    (u ++ s).takeWhile p = u := by
  rw [List.takeWhile_append_of_pos hu]
  cases s with
  | nil => rw [List.takeWhile_nil, List.append_nil]
  | cons c s =>
    have hc : ¬ p c = true := by simp [hs c rfl]
    rw [List.takeWhile_cons_of_neg hc, List.append_nil]

theorem dropWhile_run (hu : ∀ c ∈ u, p c = true) (hs : ∀ c ∈ s.head?, p c = false) :
    (u ++ s).dropWhile p = s := by
  have hsplit := List.takeWhile_append_dropWhile (p := p) (l := u ++ s)
  rw [takeWhile_run hu hs] at hsplit
  exact List.append_cancel_left hsplit

/-- **A text can be cut after a run in one way.**  What comes after the run does not start with a
character of its class. -/
theorem run_append_cancel (hu : ∀ c ∈ u, p c = true) (hv : ∀ c ∈ v, p c = true)
    (hs : ∀ c ∈ s.head?, p c = false) (ht : ∀ c ∈ t.head?, p c = false) (h : u ++ s = v ++ t) :
    u = v ∧ s = t := by
  have huv : u = v := by
    calc u = (u ++ s).takeWhile p := (takeWhile_run hu hs).symm
      _ = (v ++ t).takeWhile p := by rw [h]
      _ = v := takeWhile_run hv ht
  subst huv
  exact ⟨rfl, List.append_cancel_left h⟩

end Run

/-! ### Blanks and word characters -/

theorem isWord_eq_false_of_isBlank {c : Char} (h : isBlank c = true) : isWord c = false := by
  have hnone : (blanks.all fun c => !isWord c) = true := by decide +kernel
  have hc := List.all_eq_true.mp hnone c (List.contains_iff_mem.mp h)
  rwa [Bool.not_eq_true'] at hc

theorem isBlank_eq_false_of_isWord {c : Char} (h : isWord c = true) : isBlank c = false := by
  cases hblank : isBlank c with
  | false => rfl
  | true => rw [isWord_eq_false_of_isBlank hblank] at h; cases h

theorem forall_head?_cons {P : Char → Prop} {c : Char} {s : List Char} (hc : P c) :
    ∀ d ∈ (c :: s).head?, P d := by
  rintro d ⟨⟩
  exact hc

/-- What all characters of a run are, the text that starts with it starts with too. -/
theorem forall_head?_append {P : Char → Prop} {u s : List Char} (hu : ∀ c ∈ u, P c)
    (hs : u = [] → ∀ c ∈ s.head?, P c) : ∀ c ∈ (u ++ s).head?, P c := by
  cases u with
  | nil => exact hs rfl
  | cons c u => exact forall_head?_cons (hu c List.mem_cons_self)

theorem Blanks.not_word_head? {gap s : List Char} (hgap : Blanks gap)
    (hs : ∀ c ∈ s.head?, isWord c = false) : ∀ c ∈ (gap ++ s).head?, isWord c = false :=
  forall_head?_append (fun c hc => isWord_eq_false_of_isBlank (hgap c hc)) fun _ => hs

theorem IsIdentifier.not_blank_head? {name : List Char} (hname : IsIdentifier name)
    (s : List Char) : ∀ c ∈ (name ++ s).head?, isBlank c = false :=
  forall_head?_append (fun c hc => isBlank_eq_false_of_isWord (hname.2 c hc))
    fun hnil => absurd hnil hname.1

/-! ### Blanks around a text -/

/-- **The text is `w` with blanks around it**, and `w` neither starts nor ends with a blank. -/
structure Stripped (s w : List Char) : Prop where
  around : ∃ before after, Blanks before ∧ Blanks after ∧ s = before ++ (w ++ after)
  first : ∀ c ∈ w.head?, isBlank c = false
  last : ∀ c ∈ w.getLast?, isBlank c = false

section Stripped

variable {s w : List Char}

theorem dropWhile_blank_head? (s : List Char) :
    ∀ c ∈ (s.dropWhile isBlank).head?, isBlank c = false := by
  intro c hc
  have h := List.head?_dropWhile_not isBlank s
  rw [Option.mem_def.mp hc] at h
  exact h

theorem stripped_trim (s : List Char) : Stripped s (trim s) := by
  have hstart : s.takeWhile isBlank ++ trimStart s = s := List.takeWhile_append_dropWhile
  have hend : trim s ++ ((trimStart s).reverse.takeWhile isBlank).reverse = trimStart s := by
    rw [trim, trimEnd, trimStart, ← List.reverse_append, List.takeWhile_append_dropWhile,
      List.reverse_reverse]
  refine ⟨⟨s.takeWhile isBlank, ((trimStart s).reverse.takeWhile isBlank).reverse, ?_, ?_, ?_⟩, ?_,
    ?_⟩
  · exact fun c hc => List.mem_takeWhile_imp hc
  · exact fun c hc => List.mem_takeWhile_imp (List.mem_reverse.mp hc)
  · rw [hend, hstart]
  · intro c hc
    refine dropWhile_blank_head? s c ?_
    rw [← trimStart, ← hend, List.head?_append, Option.mem_def.mp hc]
    rfl
  · intro c hc
    rw [trim, trimEnd, List.getLast?_reverse] at hc
    exact dropWhile_blank_head? _ c hc

/-- **There is one way to strip a text of its blanks**, and trimming finds it. -/
theorem stripped_iff : Stripped s w ↔ w = trim s := by
  constructor
  · rintro ⟨⟨before, after, hbefore, hafter, rfl⟩, hfirst, hlast⟩
    have hafter' : ∀ c ∈ after.reverse, isBlank c = true := fun c hc =>
      hafter c (List.mem_reverse.mp hc)
    cases w with
    | nil =>
      have hall : ∀ c ∈ before ++ after, isBlank c = true := fun c hc =>
        (List.mem_append.mp hc).elim (hbefore c) (hafter c)
      rw [List.nil_append, trim, trimStart, List.dropWhile_eq_nil_iff.mpr hall]
      rfl
    | cons d w =>
      have hhead : ∀ c ∈ (d :: w ++ after).head?, isBlank c = false := hfirst
      rw [trim, trimStart, dropWhile_run hbefore hhead, trimEnd, trimStart, List.reverse_append,
        dropWhile_run hafter' (by rwa [List.head?_reverse]), List.reverse_reverse]
  · rintro rfl
    exact stripped_trim s

end Stripped

end QualityScale.Text
