/-!
# Line patterns

A small language of patterns for the start of a line.  `Pattern.Matches` says which texts a
pattern stands for; `Pattern.rests` finds every way to read such a text at the start of a line
and lists what is left over.  `mem_rests` says that it finds exactly those ways, so no order of
trials and no backing up shows in what a pattern accepts.
-/

namespace QualityScale.Source

/-- What the start of a line may look like. -/
inductive Pattern where
  /-- These characters. -/
  | literal (cs : List Char)
  /-- One character of a class. -/
  | one (p : Char → Bool)
  /-- A run, possibly empty, of characters of a class. -/
  | many (p : Char → Bool)
  /-- The first and then the second. -/
  | seq (a b : Pattern)
  /-- The pattern or nothing. -/
  | optional (a : Pattern)

namespace Pattern

/-- A run of at least one character of a class. -/
def many1 (p : Char → Bool) : Pattern :=
  seq (one p) (many p)

/-- The patterns one after the other. -/
def all : List Pattern → Pattern
  | [] => literal []
  | [a] => a
  | a :: as => seq a (all as)

/-- The texts that a pattern stands for. -/
def Matches : Pattern → List Char → Prop
  | literal cs, w => w = cs
  | one p, w => ∃ c, p c = true ∧ w = [c]
  | many p, w => ∀ c ∈ w, p c = true
  | seq a b, w => ∃ u v, a.Matches u ∧ b.Matches v ∧ w = u ++ v
  | optional a, w => w = [] ∨ a.Matches w

/-- What is left of a text after the given characters at its start. -/
def dropLiteral? : List Char → List Char → Option (List Char)
  | [], s => some s
  | _ :: _, [] => none
  | c :: cs, d :: s => if c = d then dropLiteral? cs s else none

/-- What is left after each run of characters of a class, the empty run first. -/
def runs (p : Char → Bool) : List Char → List (List Char)
  | [] => [[]]
  | c :: s => if p c then (c :: s) :: runs p s else [c :: s]

/-- Everything that may be left of a text after the pattern at its start. -/
def rests : Pattern → List Char → List (List Char)
  | literal cs, s => (dropLiteral? cs s).toList
  | one p, s =>
    match s with
    | c :: s => if p c then [s] else []
    | [] => []
  | many p, s => runs p s
  | seq a b, s => (a.rests s).flatMap b.rests
  | optional a, s => s :: a.rests s

/-- Whether a text starts with the pattern. -/
def startsIn (p : Pattern) (s : List Char) : Bool :=
  !(p.rests s).isEmpty

theorem dropLiteral?_eq_some_iff {cs s rest : List Char} :
    dropLiteral? cs s = some rest ↔ s = cs ++ rest := by
  induction cs generalizing s with
  | nil => simp [dropLiteral?]
  | cons c cs ih =>
    cases s with
    | nil => simp [dropLiteral?]
    | cons d s =>
      by_cases h : c = d
      · subst h; simp [dropLiteral?, ih]
      · simp [dropLiteral?, h, Ne.symm h]

theorem mem_runs {p : Char → Bool} {s rest : List Char} :
    rest ∈ runs p s ↔ ∃ w, (∀ c ∈ w, p c = true) ∧ s = w ++ rest := by
  induction s with
  | nil =>
    constructor
    · intro h
      exact ⟨[], by simp, (List.mem_singleton.1 h).symm⟩
    · rintro ⟨w, -, h⟩
      simp [runs, (List.append_eq_nil_iff.1 h.symm).2]
  | cons c s ih =>
    constructor
    · intro h
      unfold runs at h
      split at h
      next hc =>
        rcases List.mem_cons.1 h with rfl | h
        · exact ⟨[], by simp, rfl⟩
        · obtain ⟨w, hw, rfl⟩ := ih.1 h
          exact ⟨c :: w, by simpa using ⟨hc, hw⟩, rfl⟩
      next =>
        exact ⟨[], by simp, (List.mem_singleton.1 h).symm⟩
    · rintro ⟨w, hw, h⟩
      cases w with
      | nil =>
        have hr : rest = c :: s := h.symm
        subst hr
        unfold runs
        split <;> simp
      | cons d w =>
        obtain ⟨rfl, rfl⟩ := List.cons.inj h
        have hd : p c = true := hw c (by simp)
        have hmem := ih.2 ⟨w, fun x hx => hw x (by simp [hx]), rfl⟩
        simp only [runs, hd, if_true]
        exact List.mem_cons_of_mem _ hmem

/-- **The rests of a text are what its matching beginnings leave over.** -/
theorem mem_rests {p : Pattern} {s rest : List Char} :
    rest ∈ p.rests s ↔ ∃ w, p.Matches w ∧ s = w ++ rest := by
  induction p generalizing s rest with
  | literal cs =>
    simp [rests, Matches, dropLiteral?_eq_some_iff]
  | one p =>
    cases s with
    | nil =>
      constructor
      · intro h
        simp [rests] at h
      · rintro ⟨w, ⟨d, -, rfl⟩, h⟩
        cases h
    | cons c s =>
      by_cases hc : p c = true
      · simp only [rests, hc, if_true, List.mem_singleton, Matches]
        constructor
        · rintro rfl
          exact ⟨[c], ⟨c, hc, rfl⟩, rfl⟩
        · rintro ⟨w, ⟨d, -, rfl⟩, h⟩
          exact (List.cons.inj h).2.symm
      · simp only [rests, hc, Bool.false_eq_true, if_false, List.not_mem_nil, Matches, false_iff]
        rintro ⟨w, ⟨d, hd, rfl⟩, h⟩
        exact hc ((List.cons.inj h).1 ▸ hd)
  | many p => exact mem_runs
  | seq a b iha ihb =>
    simp only [rests, List.mem_flatMap, iha, ihb, Matches]
    constructor
    · rintro ⟨m, ⟨u, hu, rfl⟩, v, hv, rfl⟩
      exact ⟨u ++ v, ⟨u, v, hu, hv, rfl⟩, by simp⟩
    · rintro ⟨w, ⟨u, v, hu, hv, rfl⟩, rfl⟩
      exact ⟨v ++ rest, ⟨u, hu, by simp⟩, v, hv, rfl⟩
  | optional a ih =>
    simp only [rests, List.mem_cons, ih, Matches]
    constructor
    · rintro (rfl | ⟨w, hw, rfl⟩)
      · exact ⟨[], .inl rfl, rfl⟩
      · exact ⟨w, .inr hw, rfl⟩
    · rintro ⟨w, rfl | hw, rfl⟩
      · exact .inl rfl
      · exact .inr ⟨w, hw, rfl⟩

/-- A text starts with a pattern exactly if it begins with a text that the pattern stands for. -/
theorem startsIn_iff {p : Pattern} {s : List Char} :
    p.startsIn s = true ↔ ∃ w rest, p.Matches w ∧ s = w ++ rest := by
  rw [startsIn, Bool.not_eq_true', List.isEmpty_eq_false_iff_exists_mem]
  constructor
  · rintro ⟨rest, h⟩
    obtain ⟨w, hw⟩ := mem_rests.1 h
    exact ⟨w, rest, hw⟩
  · rintro ⟨w, rest, hw⟩
    exact ⟨rest, mem_rests.2 ⟨w, hw⟩⟩

/-- A text starts with one pattern and then another if it can be cut after the first. -/
theorem startsIn_seq_iff {a b : Pattern} {s : List Char} :
    (seq a b).startsIn s = true ↔
      ∃ w rest, a.Matches w ∧ s = w ++ rest ∧ b.startsIn rest = true := by
  simp only [startsIn_iff]
  constructor
  · rintro ⟨_, rest, ⟨u, v, hu, hv, rfl⟩, rfl⟩
    exact ⟨u, v ++ rest, hu, List.append_assoc .., v, rest, hv, rfl⟩
  · rintro ⟨u, _, hu, rfl, v, rest, hv, rfl⟩
    exact ⟨u ++ v, rest, ⟨u, v, hu, hv, rfl⟩, (List.append_assoc ..).symm⟩

theorem matches_many1_iff {p : Char → Bool} {w : List Char} :
    (many1 p).Matches w ↔ w ≠ [] ∧ ∀ c ∈ w, p c = true := by
  constructor
  · rintro ⟨_, v, ⟨c, hc, rfl⟩, hv, rfl⟩
    exact ⟨List.cons_ne_nil c v, List.forall_mem_cons.2 ⟨hc, hv⟩⟩
  · rintro ⟨hne, hw⟩
    cases w with
    | nil => exact absurd rfl hne
    | cons c v =>
      obtain ⟨hc, hv⟩ := List.forall_mem_cons.1 hw
      exact ⟨[c], v, ⟨c, hc, rfl⟩, hv, rfl⟩

end Pattern

end QualityScale.Source
