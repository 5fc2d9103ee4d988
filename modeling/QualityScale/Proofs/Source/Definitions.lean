import QualityScale.Proofs.Source.Calls
import QualityScale.Proofs.Source.LineWise

/-!
# Lines that define a function

A line defines a function if it has, after its indentation, perhaps `async`, then `def`, a name and an
opening parenthesis, with blanks between them.  The name may itself start or end with blanks, so there
may be several ways to read a line so.  For an identifier there is one.

* `Modifier w`: what may stand before `def`.
* `DefinesName line name`: the line can be read as a definition of the name.
* `startsIn_definition_iff`: the pattern of a definition finds every way to read a line so.
* `DefinesName.name_unique`: a line defines one identifier at most.
* `defines_iff_definesName`: which modules define a function of a name.
-/

namespace QualityScale.Source

open Text (isBlank isWord Blanks IsIdentifier run_append_cancel forall_head?_cons)

/-- What may stand before `def`: nothing, or `async` and blanks. -/
inductive Modifier : List Char → Prop
  | none : Modifier []
  | async {gap} : gap ≠ [] → Blanks gap → Modifier ("async".toList ++ gap)

/-- **The line defines a function of this name**: there are blanks or none, perhaps `async`, then
`def`, blanks, the name, blanks or none, and an opening parenthesis. -/
def DefinesName (line name : List Char) : Prop :=
  ∃ indent modifier gap after, Blanks indent ∧ Modifier modifier ∧ (gap ≠ [] ∧ Blanks gap) ∧
    Opens name after ∧ line = indent ++ (modifier ++ ("def".toList ++ (gap ++ after)))

section Definition

variable {line name other after s t w : List Char}

/-! ### The pattern of a definition -/

theorem matches_modifier_iff :
    (Pattern.optional (.all [.literal "async".toList, space])).Matches w ↔ Modifier w := by
  constructor
  · rintro (rfl | ⟨keyword, gap, hkeyword, hgap, rfl⟩)
    · exact .none
    · obtain rfl : keyword = "async".toList := hkeyword
      obtain ⟨hne, hblank⟩ := Pattern.matches_many1_iff.mp hgap
      exact .async hne hblank
  · intro h
    cases h with
    | none => exact .inl rfl
    | @async gap hne hblank =>
      exact .inr ⟨"async".toList, gap, rfl, Pattern.matches_many1_iff.mpr ⟨hne, hblank⟩, rfl⟩

theorem startsIn_definition_iff :
    (definition name).startsIn line = true ↔ DefinesName line name := by
  have hparts : definition name =
      .seq gap (.seq (.optional (.all [.literal "async".toList, space]))
        (.seq (.literal "def".toList) (.seq space (application name)))) := rfl
  rw [hparts]
  simp only [Pattern.startsIn_seq_iff, startsIn_application_iff, matches_modifier_iff]
  constructor
  · rintro ⟨indent, _, hindent, rfl, modifier, _, hmodifier, rfl, keyword, _, hkeyword, rfl, gap,
      after, hgap, rfl, hopens⟩
    obtain rfl : keyword = "def".toList := hkeyword
    exact ⟨indent, modifier, gap, after, hindent, hmodifier, Pattern.matches_many1_iff.mp hgap,
      hopens, rfl⟩
  · rintro ⟨indent, modifier, gap, after, hindent, hmodifier, hgap, hopens, rfl⟩
    exact ⟨indent, _, hindent, rfl, modifier, _, hmodifier, rfl, "def".toList, _, rfl, rfl, gap,
      after, Pattern.matches_many1_iff.mpr hgap, rfl, hopens⟩

/-! ### One name only -/

theorem Opens.not_blank_head? (hname : IsIdentifier name) (h : Opens name after) :
    ∀ c ∈ after.head?, isBlank c = false := by
  obtain ⟨gap, rest, -, rfl⟩ := h
  exact hname.not_blank_head? _

/-- A text opens with one identifier at most. -/
theorem Opens.name_unique (hname : IsIdentifier name) (hother : IsIdentifier other)
    (h : Opens name after) (h' : Opens other after) : name = other := by
  have hparenthesis : ∀ rest : List Char, ∀ c ∈ ('(' :: rest).head?, isWord c = false :=
    fun rest => forall_head?_cons (by decide)
  obtain ⟨gap, rest, hgap, rfl⟩ := h
  obtain ⟨gap', rest', hgap', hsame⟩ := h'
  exact (run_append_cancel hname.2 hother.2 (Blanks.not_word_head? hgap (hparenthesis rest))
    (Blanks.not_word_head? hgap' (hparenthesis rest')) hsame).1

theorem Modifier.not_blank_head? (h : Modifier w) (s : List Char) :
    ∀ c ∈ (w ++ ("def".toList ++ s)).head?, isBlank c = false := by
  cases h with
  | none => exact forall_head?_cons (by decide)
  | async => exact forall_head?_cons (by decide)

/-- What stands before `def` ends in one way. -/
theorem Modifier.append_cancel {w' : List Char} (h : Modifier w) (h' : Modifier w')
    (hsame : w ++ ("def".toList ++ s) = w' ++ ("def".toList ++ t)) : s = t := by
  have hkeyword : ∀ rest, ∀ c ∈ ("def".toList ++ rest).head?, isBlank c = false :=
    Modifier.none.not_blank_head?
  cases h with
  | none =>
    cases h' with
    | none => exact List.append_cancel_left hsame
    | async => cases hsame
  | async _ hgap =>
    cases h' with
    | none => cases hsame
    | async _ hgap' =>
      rw [List.append_assoc, List.append_assoc] at hsame
      have hrest := List.append_cancel_left hsame
      exact List.append_cancel_left
        (run_append_cancel hgap hgap' (hkeyword s) (hkeyword t) hrest).2

/-- **A line defines one identifier at most.**  So it defines none that is only the beginning or the
end of the one that it defines. -/
theorem DefinesName.name_unique (hname : IsIdentifier name) (hother : IsIdentifier other)
    (h : DefinesName line name) (h' : DefinesName line other) : name = other := by
  obtain ⟨indent, modifier, gap, after, hindent, hmodifier, ⟨-, hgap⟩, hopens, rfl⟩ := h
  obtain ⟨indent', modifier', gap', after', hindent', hmodifier', ⟨-, hgap'⟩, hopens', hsame⟩ := h'
  -- The runs are cut off one after the other, until only what opens with the name is left.
  have hhead := (run_append_cancel hindent hindent' (hmodifier.not_blank_head? _)
    (hmodifier'.not_blank_head? _) hsame).2
  have htail : gap ++ after = gap' ++ after' := hmodifier.append_cancel hmodifier' hhead
  obtain rfl := (run_append_cancel hgap hgap' (hopens.not_blank_head? hname)
    (hopens'.not_blank_head? hother) htail).2
  exact hopens.name_unique hname hother hopens'

end Definition

/-- **A module defines a function if some line that is no comment does**, and a line that defines an
identifier defines no other one. -/
theorem defines_iff_definesName (source name : List Char) :
    (defines source name = true ↔
      ∃ line ∈ Text.lines source, ¬ StartsComment line ∧ DefinesName line name) ∧
    (IsIdentifier name → ∀ line other, IsIdentifier other → other ≠ name → DefinesName line other →
      ¬ DefinesName line name) := by
  constructor
  · rw [defines, List.any_eq_true]
    simp only [mem_codeLines_iff, startsIn_definition_iff, and_assoc]
  · intro hname line other hother hne h h'
    exact hne (h.name_unique hother hname h')

/-- A definition of an identifier that starts with another one. -/
theorem defines_iff_definesName_longerName :
    let line := "\tasync  def setup_entry (self):".toList
    (IsIdentifier "setup".toList ∧ IsIdentifier "setup_entry".toList ∧
        "setup_entry".toList ≠ "setup".toList ∧ DefinesName line "setup_entry".toList) ∧
      ¬ DefinesName line "setup".toList ∧ defines line "setup_entry".toList = true := by
  intro line
  have hsetup : IsIdentifier "setup".toList := by decide
  have hentry : IsIdentifier "setup_entry".toList := by decide
  have hgap : Blanks [' '] := by decide
  have hasync : Modifier ("async".toList ++ [' ', ' ']) := .async (by decide) (by decide)
  have hdefines : DefinesName line "setup_entry".toList :=
    ⟨['\t'], _, [' '], "setup_entry (self):".toList, by decide, hasync, ⟨by decide, hgap⟩,
      ⟨[' '], "self):".toList, hgap, rfl⟩, rfl⟩
  have hline : line ∈ Text.lines line ∧ ¬ isComment line = true := by decide +kernel
  refine ⟨⟨hsetup, hentry, by decide, hdefines⟩, ?_, ?_⟩
  · exact (defines_iff_definesName [] _).2 hsetup line _ hentry (by decide) hdefines
  · exact (defines_iff_definesName line _).1.mpr
      ⟨line, hline.1, fun h => hline.2 (isComment_iff.mpr h), hdefines⟩

end QualityScale.Source
