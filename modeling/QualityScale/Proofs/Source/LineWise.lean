import Mathlib.Data.List.TakeWhile
import Mathlib.Logic.Relation
import QualityScale.Source.Line
import QualityScale.Proofs.Text.Runs

/-!
# Questions about single lines

A question about a module is whether some line that is no comment looks a certain way.  So it is
asked of each line by itself: neither what stands on other lines, nor where the line stands, nor how
it ends has a part in the answer.

* `StartsComment line`: the first character that is not blank is `#`.
* `Row`, `ended rows`: rows that are each ended by a line feed.  The texts that are `Terminated` are
  these (`terminated_iff_exists_rows`).
* `Edit rows rows'`: a comment is put in or taken out, or the rows are put in another order.
  `Edit.codeLines_perm` says what one edit does to the lines that are no comments, and
  `codeLines_perm_of_edits` what any number of them does.
* `withReturns s`: the same text with carriage returns before its line feeds.
* `LineWise question`: the laws of a question about single lines.
* `questions_lineWise`: definitions, assignments, calls and mentions are asked for so.
-/

namespace QualityScale.Source

open Text (isBlank Blanks dropReturn lines linesFrom)

/-! ### Comments -/

/-- **The first character of the line that is not blank is `#`.** -/
def StartsComment (line : List Char) : Prop :=
  ∃ gap rest, Blanks gap ∧ line = gap ++ '#' :: rest

section Comment

variable {line source : List Char}

theorem isComment_iff : isComment line = true ↔ StartsComment line := by
  rw [isComment, beq_iff_eq, Text.trimStart]
  constructor
  · intro h
    obtain ⟨rest, hrest⟩ := List.head?_eq_some_iff.mp h
    refine ⟨line.takeWhile isBlank, rest, fun c hc => List.mem_takeWhile_imp hc, ?_⟩
    rw [← hrest, List.takeWhile_append_dropWhile]
  · rintro ⟨gap, rest, hgap, rfl⟩
    have hmark : ¬ isBlank '#' = true := by decide
    rw [List.dropWhile_append_of_pos hgap, List.dropWhile_cons_of_neg hmark]
    rfl

theorem mem_codeLines_iff :
    line ∈ codeLines source ↔ line ∈ lines source ∧ ¬ StartsComment line := by
  rw [codeLines, List.mem_filter, ← isComment_iff, Bool.not_eq_true', Bool.not_eq_true]

/-- The carriage return that belongs to a line break is no part of what makes a comment. -/
theorem StartsComment.dropReturn (h : StartsComment line) : StartsComment (dropReturn line) := by
  obtain ⟨gap, rest, hgap, rfl⟩ := h
  rw [Text.dropReturn]
  split
  next hlast =>
    cases rest with
    | nil =>
      rw [List.getLast?_concat] at hlast
      cases hlast
    | cons c rest =>
      refine ⟨gap, (c :: rest).dropLast, hgap, ?_⟩
      rw [List.dropLast_append_of_ne_nil (List.cons_ne_nil _ _),
        List.dropLast_cons_of_ne_nil (List.cons_ne_nil _ _)]
  next => exact ⟨gap, rest, hgap, rfl⟩

end Comment

/-! ### Rows -/

/-- What stands in a text up to a line feed. -/
structure Row where
  text : List Char
  noFeed : '\n' ∉ text

/-- The rows one after the other, each ended by a line feed. -/
def ended (rows : List Row) : List Char :=
  rows.flatMap fun row => row.text ++ ['\n']

/-- The text is empty or ends with a line feed, so what follows it starts a new line. -/
def Terminated (s : List Char) : Prop :=
  s = [] ∨ ∃ start, s = start ++ ['\n']

section Rows

variable {row : Row} {rows rows' : List Row} {line s t : List Char}

theorem ended_cons_append : ended (row :: rows) ++ t = row.text ++ '\n' :: (ended rows ++ t) := by
  rw [ended, List.flatMap_cons, ended, List.append_assoc, List.append_assoc]
  rfl

/-- Any text is rows and what is left after the last line feed. -/
theorem exists_ended_append (s : List Char) :
    ∃ rows last, '\n' ∉ last ∧ s = ended rows ++ last := by
  induction s with
  | nil => exact ⟨[], [], List.not_mem_nil, rfl⟩
  | cons c s ih =>
    obtain ⟨rows, last, hlast, rfl⟩ := ih
    by_cases hc : c = '\n'
    · subst hc
      exact ⟨⟨[], List.not_mem_nil⟩ :: rows, last, hlast, rfl⟩
    · cases rows with
      | nil => exact ⟨[], c :: last, by simp [Ne.symm hc, hlast], rfl⟩
      | cons row rows =>
        have hfeed : '\n' ∉ c :: row.text := by simp [Ne.symm hc, row.noFeed]
        refine ⟨⟨c :: row.text, hfeed⟩ :: rows, last, hlast, ?_⟩
        rw [ended_cons_append, ended_cons_append, List.cons_append]

theorem terminated_iff_exists_rows : Terminated s ↔ ∃ rows, s = ended rows := by
  constructor
  · rintro (rfl | ⟨start, rfl⟩)
    · exact ⟨[], rfl⟩
    · obtain ⟨rows, last, hlast, rfl⟩ := exists_ended_append start
      refine ⟨rows ++ [⟨last, hlast⟩], ?_⟩
      rw [ended, ended, List.flatMap_append, List.flatMap_singleton, List.append_assoc]
  · rintro ⟨rows, rfl⟩
    rcases List.eq_nil_or_concat rows with rfl | ⟨rows, row, rfl⟩
    · exact .inl rfl
    · refine .inr ⟨ended rows ++ row.text, ?_⟩
      rw [ended, List.concat_eq_append, List.flatMap_append, List.flatMap_singleton, ended,
        List.append_assoc]

theorem linesFrom_cons_of_ne {c : Char} (h : c ≠ '\n') :
    linesFrom line (c :: s) = linesFrom (c :: line) s := by
  simp [linesFrom]

theorem linesFrom_row (h : '\n' ∉ s) :
    linesFrom line (s ++ ['\n']) = [dropReturn (line.reverse ++ s)] := by
  induction s generalizing line with
  | nil =>
    rw [List.append_nil]
    rfl
  | cons c s ih =>
    rw [List.mem_cons, not_or] at h
    rw [List.cons_append, linesFrom_cons_of_ne (Ne.symm h.1), ih h.2, List.reverse_cons,
      List.append_assoc]
    rfl

/-- **The lines of rows are the rows**, but for carriage returns before the line feeds. -/
theorem lines_ended_append (rows : List Row) (t : List Char) :
    lines (ended rows ++ t) = (rows.map fun row => dropReturn row.text) ++ lines t := by
  induction rows with
  | nil => rfl
  | cons row rows ih =>
    have hrow : lines (row.text ++ ['\n']) = [dropReturn row.text] := linesFrom_row row.noFeed
    rw [ended_cons_append, Text.lines_append, hrow, ih]
    rfl

theorem lines_ended : lines (ended rows) = rows.map fun row => dropReturn row.text := by
  have h := lines_ended_append rows []
  rwa [List.append_nil, show lines [] = [] from rfl, List.append_nil] at h

theorem Terminated.lines_append (h : Terminated s) (t : List Char) :
    lines (s ++ t) = lines s ++ lines t := by
  obtain ⟨rows, rfl⟩ := terminated_iff_exists_rows.mp h
  rw [lines_ended_append, lines_ended]

theorem Terminated.codeLines_append (h : Terminated s) (t : List Char) :
    codeLines (s ++ t) = codeLines s ++ codeLines t := by
  rw [codeLines, h.lines_append, List.filter_append]
  rfl

/-! ### Edits of rows -/

/-- **An edit of rows**: a comment is put in or taken out at any place, or the rows are put in
another order. -/
inductive Edit : List Row → List Row → Prop
  | insert (above : List Row) (comment : Row) (below : List Row) : StartsComment comment.text →
      Edit (above ++ below) (above ++ comment :: below)
  | delete (above : List Row) (comment : Row) (below : List Row) : StartsComment comment.text →
      Edit (above ++ comment :: below) (above ++ below)
  | reorder {old new : List Row} : old.Perm new → Edit old new

theorem codeLines_ended :
    codeLines (ended rows) =
      (rows.map fun row => dropReturn row.text).filter fun line => !isComment line := by
  rw [codeLines, lines_ended]

/-- A comment among the rows gives no line of code. -/
theorem codeLines_ended_comment (above below : List Row) (h : StartsComment row.text) :
    codeLines (ended (above ++ row :: below)) = codeLines (ended (above ++ below)) := by
  have hcomment : isComment (dropReturn row.text) = true := isComment_iff.mpr h.dropReturn
  simp [codeLines_ended, hcomment]

/-- One edit leaves the lines of code as they are, in some order. -/
theorem Edit.codeLines_perm (h : Edit rows rows') :
    (codeLines (ended rows)).Perm (codeLines (ended rows')) := by
  cases h with
  | insert above comment below hcomment => rw [codeLines_ended_comment above below hcomment]
  | delete above comment below hcomment => rw [codeLines_ended_comment above below hcomment]
  | reorder hperm =>
    rw [codeLines_ended, codeLines_ended]
    exact (hperm.map _).filter _

theorem codeLines_perm_of_edits (h : Relation.ReflTransGen Edit rows rows') :
    (codeLines (ended rows)).Perm (codeLines (ended rows')) := by
  induction h with
  | refl => exact .refl _
  | tail _ hlast ih => exact ih.trans hlast.codeLines_perm

end Rows

/-! ### Carriage returns -/

/-- The text with a carriage return before every line feed. -/
def withReturns (s : List Char) : List Char :=
  s.flatMap fun c => if c = '\n' then ['\r', '\n'] else [c]

theorem dropReturn_concat (line : List Char) : dropReturn (line ++ ['\r']) = line := by
  rw [dropReturn, List.getLast?_concat, if_pos rfl, List.dropLast_concat]

theorem dropReturn_of_not_mem {line : List Char} (h : '\r' ∉ line) : dropReturn line = line :=
  if_neg fun hlast => h (List.mem_of_getLast? hlast)

theorem withReturns_feed (s : List Char) :
    withReturns ('\n' :: s) = '\r' :: '\n' :: withReturns s := rfl

theorem withReturns_cons_of_ne {c : Char} (h : c ≠ '\n') (s : List Char) :
    withReturns (c :: s) = c :: withReturns s := by
  rw [withReturns, List.flatMap_cons, if_neg h]
  rfl

/-- A carriage return before a line feed goes with it. -/
theorem linesFrom_returnFeed (line s : List Char) :
    linesFrom line ('\r' :: '\n' :: s) = line.reverse :: linesFrom [] s := by
  have hreturn : '\r' ≠ '\n' := by decide
  rw [linesFrom_cons_of_ne hreturn, linesFrom, List.reverse_cons, dropReturn_concat]

theorem linesFrom_withReturns {line s : List Char} (hline : '\r' ∉ line) (hs : '\r' ∉ s) :
    linesFrom line (withReturns s) = linesFrom line s := by
  induction s generalizing line with
  | nil => rfl
  | cons c s ih =>
    rw [List.mem_cons, not_or] at hs
    obtain ⟨hc, hs⟩ := hs
    by_cases hfeed : c = '\n'
    · subst hfeed
      have hkept : dropReturn line.reverse = line.reverse :=
        dropReturn_of_not_mem (by rwa [List.mem_reverse])
      rw [withReturns_feed, linesFrom_returnFeed, ih List.not_mem_nil hs, linesFrom, hkept]
    · have hreturn : '\r' ∉ c :: line := by simp [hc, hline]
      rw [withReturns_cons_of_ne hfeed, linesFrom_cons_of_ne hfeed, linesFrom_cons_of_ne hfeed,
        ih hreturn hs]

theorem codeLines_withReturns {s : List Char} (h : '\r' ∉ s) :
    codeLines (withReturns s) = codeLines s := by
  rw [codeLines, lines, linesFrom_withReturns List.not_mem_nil h]
  rfl

/-! ### Questions -/

/-- **The laws of a question about single lines that are no comments.** -/
structure LineWise (question : List Char → Bool) : Prop where
  /-- A text that goes on with a new line gets a yes for what it was or for what comes after it. -/
  append : ∀ s t, Terminated s → question (s ++ t) = (question s || question t)
  /-- Comments that are put in or taken out do not matter, and neither does the order of the lines. -/
  edits : ∀ rows rows', Relation.ReflTransGen Edit rows rows' →
    question (ended rows') = question (ended rows)
  /-- A carriage return before each line feed does not matter. -/
  returns : ∀ s, '\r' ∉ s → question (withReturns s) = question s

theorem lineWise_any_codeLines (looks : List Char → Bool) :
    LineWise fun source => (codeLines source).any looks where
  append s t hs := by rw [hs.codeLines_append, List.any_append]
  edits rows rows' h := (codeLines_perm_of_edits h).symm.any_eq
  returns s hs := by rw [codeLines_withReturns hs]

/-- **Definitions, assignments, calls and mentions are asked for line by line.** -/
theorem questions_lineWise (name : List Char) :
    LineWise (defines · name) ∧ LineWise (assigns · name) ∧ LineWise (calls · name) ∧
      LineWise (mentions · name) :=
  ⟨lineWise_any_codeLines _, lineWise_any_codeLines _, lineWise_any_codeLines _,
    lineWise_any_codeLines _⟩

/-- The rows of a module, one of them with a carriage return, exchanged and with a comment between
them. -/
theorem questions_lineWise_exchangedRows :
    ∃ setup step remark : Row,
      (setup.text = "LIMIT = 0\r".toList ∧ step.text = "def step(self):".toList ∧
        remark.text = "\t# def other(".toList) ∧
      (Terminated (ended [setup]) ∧ '\r' ∉ ended [step] ∧
        Relation.ReflTransGen Edit [setup, step] [step, remark, setup]) ∧
      defines (ended [setup] ++ step.text) "step".toList = true ∧
      assigns (ended [step, remark, setup]) "LIMIT".toList = true ∧
      mentions (ended [step, remark, setup]) "other".toList = false ∧
      defines (withReturns (ended [step])) "step".toList = true := by
  let setup : Row := ⟨"LIMIT = 0\r".toList, by decide⟩
  let step : Row := ⟨"def step(self):".toList, by decide⟩
  let remark : Row := ⟨"\t# def other(".toList, by decide⟩
  have hsetup : Terminated (ended [setup]) := terminated_iff_exists_rows.mpr ⟨_, rfl⟩
  have hreturn : '\r' ∉ ended [step] := by decide
  have hremark : StartsComment remark.text := ⟨['\t'], _, by decide, rfl⟩
  have hedits : Relation.ReflTransGen Edit [setup, step] [step, remark, setup] :=
    .tail (.single (.reorder (List.Perm.swap step setup []))) (.insert [step] remark [setup] hremark)
  have hstep := questions_lineWise "step".toList
  have hlimit := questions_lineWise "LIMIT".toList
  have hother := questions_lineWise "other".toList
  refine ⟨setup, step, remark, ⟨rfl, rfl, rfl⟩, ⟨hsetup, hreturn, hedits⟩, ?_, ?_, ?_, ?_⟩
  · rw [hstep.1.append _ _ hsetup]
    decide +kernel
  · rw [hlimit.2.1.edits _ _ hedits]
    decide +kernel
  · rw [hother.2.2.2.edits _ _ hedits]
    decide +kernel
  · rw [hstep.1.returns _ hreturn]
    decide +kernel

end QualityScale.Source
