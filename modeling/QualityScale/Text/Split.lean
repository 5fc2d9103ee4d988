/-!
# Splitting a text

A text cut at every occurrence of a separator.  `splitAt_ne_nil` says that there is always at
least one piece.  The pieces of two texts with a separator between them are those of the one and
those of the other (`splitAt_append_cons`).
-/

namespace QualityScale.Text

/-- The pieces of a text between the given separators; there is always at least one. -/
def splitAt (sep : Char) : List Char → List (List Char)
  | [] => [[]]
  | c :: cs =>
    match splitAt sep cs with
    | [] => [[c]]
    | piece :: pieces => if c = sep then [] :: piece :: pieces else (c :: piece) :: pieces

theorem splitAt_ne_nil (sep : Char) (cs : List Char) : splitAt sep cs ≠ [] := by
  cases cs with
  | nil => simp [splitAt]
  | cons c cs =>
    unfold splitAt
    split
    · simp
    · split <;> simp

theorem splitAt_append_cons (sep : Char) (cs ds : List Char) :
    splitAt sep (cs ++ sep :: ds) = splitAt sep cs ++ splitAt sep ds := by
  induction cs with
  | nil =>
    cases hds : splitAt sep ds with
    | nil => exact absurd hds (splitAt_ne_nil sep ds)
    | cons piece pieces => simp [splitAt, hds]
  | cons c cs ih =>
    cases hcs : splitAt sep cs with
    | nil => exact absurd hcs (splitAt_ne_nil sep cs)
    | cons piece pieces =>
      rw [List.cons_append, splitAt, ih, splitAt, hcs, List.cons_append]
      by_cases hc : c = sep <;> simp [hc]

theorem splitAt_of_not_mem {sep : Char} {cs : List Char} (h : sep ∉ cs) :
    splitAt sep cs = [cs] := by
  induction cs with
  | nil => rfl
  | cons c cs ih =>
    rw [List.mem_cons, not_or] at h
    rw [splitAt, ih h.2]
    exact if_neg (Ne.symm h.1)

end QualityScale.Text
