import Mathlib.Logic.Basic
import QualityScale.Proofs.Source.LineWise

/-!
# Names before a parenthesis

A line shows a name as that of a call if the name stands in it from a word boundary on, with blanks
at most between it and an opening parenthesis.

* `Opens name after`: a text starts with the name, perhaps blanks, and an opening parenthesis.
* `calls_iff`: `calls` finds each place of each line where such a text starts at a word boundary.
* `CountsAfter line name before`: the name counts where it stands after the start `before` of a line.
* `calls_iff_countsAfter`: which modules have a name as that of a call, and which places count for a
  name that starts with a word character.
-/

namespace QualityScale.Source

open Text (isBlank isWord Blanks)

/-- The text starts with the name, perhaps blanks, and an opening parenthesis. -/
def Opens (name after : List Char) : Prop :=
  ∃ gap rest : List Char, (∀ c ∈ gap, isBlank c = true) ∧ after = name ++ (gap ++ '(' :: rest)

theorem startsIn_application_iff {name after : List Char} :
    (application name).startsIn after = true ↔ Opens name after := by
  rw [Pattern.startsIn_iff]
  constructor
  · rintro ⟨w, rest, hw, rfl⟩
    obtain ⟨u, v, hu, ⟨gap, p, hgap, hp, rfl⟩, rfl⟩ := hw
    obtain rfl : u = name := hu
    obtain rfl : p = ['('] := hp
    exact ⟨gap, rest, hgap, by simp⟩
  · rintro ⟨gap, rest, hgap, rfl⟩
    exact ⟨name ++ (gap ++ ['(']), rest, ⟨name, gap ++ ['('], rfl, ⟨gap, ['('], hgap, rfl, rfl⟩, rfl⟩,
      by simp⟩

/-- A pattern occurs at a word boundary of a line exactly if the line can be split there.  `first` is
the character before the line, if there is one. -/
theorem occursAtBoundary_iff {p : Pattern} {first : Option Char} {line : List Char} :
    occursAtBoundary p first line = true ↔
      ∃ before after, line = before ++ after ∧
        isWordBoundary (before.getLast?.or first) after = true ∧ p.startsIn after = true := by
  induction line generalizing first with
  | nil =>
    rw [occursAtBoundary, Bool.or_false, Bool.and_eq_true]
    constructor
    · rintro ⟨hboundary, hp⟩
      exact ⟨[], [], rfl, hboundary, hp⟩
    · rintro ⟨before, after, hline, hboundary, hp⟩
      obtain ⟨rfl, rfl⟩ := List.append_eq_nil_iff.mp hline.symm
      exact ⟨hboundary, hp⟩
  | cons c line ih =>
    have hlast : ∀ before : List Char,
        (c :: before).getLast?.or first = before.getLast?.or (some c) := by
      intro before
      rw [List.getLast?_cons, Option.some_or, Option.or_some]
    rw [occursAtBoundary, Bool.or_eq_true, Bool.and_eq_true, ih]
    constructor
    · rintro (⟨hboundary, hp⟩ | ⟨before, after, rfl, hboundary, hp⟩)
      · exact ⟨[], c :: line, rfl, hboundary, hp⟩
      · exact ⟨c :: before, after, rfl, (hlast before).symm ▸ hboundary, hp⟩
    · rintro ⟨before, after, hline, hboundary, hp⟩
      cases before with
      | nil =>
        obtain rfl : after = c :: line := hline.symm
        exact .inl ⟨hboundary, hp⟩
      | cons d before =>
        obtain ⟨rfl, rfl⟩ := List.cons.inj hline
        exact .inr ⟨before, after, rfl, hlast before ▸ hboundary, hp⟩

theorem calls_iff {source name : List Char} :
    calls source name = true ↔
      ∃ line ∈ codeLines source, ∃ before after, line = before ++ after ∧
        isWordBoundary before.getLast? after = true ∧ Opens name after := by
  rw [calls, List.any_eq_true]
  refine exists_congr fun line => and_congr_right fun _ => ?_
  rw [occursAtBoundary_iff]
  simp only [Option.or_none, startsIn_application_iff]

/-! ### Places that count -/

/-- There is a character, and it is one of a word. -/
def IsWordAt (place : Option Char) : Prop := ∃ c ∈ place, isWord c = true

/-- **The name counts after the start `before` of the line**: it stands there, with blanks at most
between it and an opening parenthesis, and exactly one of the characters before and after the place
where it starts is one of a word. -/
def CountsAfter (line name before : List Char) : Prop :=
  ∃ gap rest, Blanks gap ∧ line = before ++ (name ++ (gap ++ '(' :: rest)) ∧
    Xor (IsWordAt before.getLast?) (IsWordAt (name ++ (gap ++ ['('])).head?)

section Place

variable {line name before after : List Char}

theorem isWordAt_iff {place : Option Char} : place.any isWord = true ↔ IsWordAt place :=
  Option.any_eq_true ..

theorem isWordBoundary_iff_xor {place : Option Char} :
    isWordBoundary place after = true ↔ Xor (IsWordAt place) (IsWordAt after.head?) := by
  rw [isWordBoundary, ← isWordAt_iff, ← isWordAt_iff]
  cases place.any isWord <;> cases after.head?.any isWord <;> decide

theorem countsAfter_iff :
    CountsAfter line name before ↔ ∃ after, line = before ++ after ∧
      isWordBoundary before.getLast? after = true ∧ Opens name after := by
  have hhead : ∀ gap rest : List Char,
      (name ++ (gap ++ '(' :: rest)).head? = (name ++ (gap ++ ['('])).head? := by
    intro gap rest
    cases name with
    | nil => cases gap <;> rfl
    | cons => rfl
  constructor
  · rintro ⟨gap, rest, hgap, rfl, hxor⟩
    rw [← hhead gap rest, ← isWordBoundary_iff_xor] at hxor
    exact ⟨_, rfl, hxor, gap, rest, hgap, rfl⟩
  · rintro ⟨_, rfl, hboundary, gap, rest, hgap, rfl⟩
    rw [isWordBoundary_iff_xor, hhead gap rest] at hboundary
    exact ⟨gap, rest, hgap, rfl, hboundary⟩

/-- At a name that starts with a word character, a word starts or the name goes on with one. -/
theorem isWordBoundary_iff (hname : name.head?.any isWord = true) (hopens : Opens name after) :
    isWordBoundary before.getLast? after = true ↔ ∀ c ∈ before.getLast?, isWord c = false := by
  obtain ⟨gap, rest, -, rfl⟩ := hopens
  have hhead : (name ++ (gap ++ '(' :: rest)).head?.any isWord = true := by
    cases name with
    | nil => cases hname
    | cons c name => exact hname
  rw [isWordBoundary, hhead]
  cases before.getLast? with
  | none => simp
  | some c => simp

end Place

/-- **A module has the name as that of a call if it counts at some place of a line that is no
comment.**  If the name starts with a word character, it counts at a place exactly if there is none
right before it.  So it does not count as the end of a longer identifier, and that it stands in one
does not keep another place of the line from counting. -/
theorem calls_iff_countsAfter (source name : List Char) :
    (calls source name = true ↔
      ∃ line ∈ Text.lines source, ¬ StartsComment line ∧ ∃ before, CountsAfter line name before) ∧
    (IsWordAt name.head? → ∀ line before after, line = before ++ after → Opens name after →
      (CountsAfter line name before ↔ ¬ IsWordAt before.getLast?)) := by
  constructor
  · rw [calls_iff]
    simp only [mem_codeLines_iff, countsAfter_iff, and_assoc]
  · rintro hname line before after rfl hopens
    have hnone : (∀ c ∈ before.getLast?, isWord c = false) ↔ ¬ IsWordAt before.getLast? := by
      simp [IsWordAt]
    rw [countsAfter_iff, ← hnone, ← isWordBoundary_iff (isWordAt_iff.mpr hname) hopens]
    constructor
    · rintro ⟨after', hsame, hboundary, -⟩
      rwa [List.append_cancel_left hsame]
    · intro hboundary
      exact ⟨after, rfl, hboundary, hopens⟩

/-- A line in which the name stands at the end of a longer one and, further on, by itself. -/
theorem calls_iff_countsAfter_laterPlace :
    let name := "update".toList
    let line := "    self.async_update(x) or update (x)".toList
    let earlier := "    self.async_".toList
    let later := "    self.async_update(x) or ".toList
    (IsWordAt name.head? ∧ line = earlier ++ "update(x) or update (x)".toList ∧
        Opens name "update(x) or update (x)".toList ∧ line = later ++ "update (x)".toList ∧
        Opens name "update (x)".toList) ∧
      ¬ CountsAfter line name earlier ∧ CountsAfter line name later ∧ calls line name = true := by
  intro name line earlier later
  have hname : IsWordAt name.head? := isWordAt_iff.mp (by decide)
  have hfirst : Opens name "update(x) or update (x)".toList := ⟨[], _, by simp, rfl⟩
  have hgap : Blanks [' '] := by decide
  have hsecond : Opens name "update (x)".toList := ⟨[' '], "x)".toList, hgap, rfl⟩
  have hline : line ∈ Text.lines line ∧ ¬ isComment line = true := by decide +kernel
  obtain ⟨hcalls, hplaces⟩ := calls_iff_countsAfter line name
  have hearlier : IsWordAt earlier.getLast? := isWordAt_iff.mp (by decide)
  have hlater : ¬ IsWordAt later.getLast? := fun h => absurd (isWordAt_iff.mpr h) (by decide)
  have hcounts : CountsAfter line name later := (hplaces hname line _ _ rfl hsecond).mpr hlater
  refine ⟨⟨hname, rfl, hfirst, rfl, hsecond⟩, ?_, hcounts, ?_⟩
  · exact fun h => (hplaces hname line earlier _ rfl hfirst).mp h hearlier
  · exact hcalls.mpr ⟨line, hline.1, fun h => hline.2 (isComment_iff.mpr h), later, hcounts⟩

end QualityScale.Source
