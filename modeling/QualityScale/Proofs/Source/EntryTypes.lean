import QualityScale.Proofs.Source.LineWise

/-!
# Lines that declare the type of an entry

The type of an entry is declared as an alias at the start of a line, under a name that ends with the
name of the type that it stands for and is longer.

* `NamesEntryType name`: an identifier of this kind.
* `DeclaresEntryType line`: the line declares such a name.
* `startsIn_typedEntryAlias_iff`: the pattern of an alias finds every way to read a line so.  It asks
  for word characters and then for the end of the name, which is made of word characters itself.
* `declaresTypedEntry_iff`, `mentions_iff`: what is asked of a module, line by line.
-/

namespace QualityScale.Source

open Text (isWord Blanks IsIdentifier)

/-- **The name of an entry's type**: an identifier that ends with `ConfigEntry` and is longer. -/
structure NamesEntryType (name : List Char) : Prop where
  identifier : IsIdentifier name
  ending : "ConfigEntry".toList <:+ name
  longer : "ConfigEntry".length < name.length

/-- **The line declares the type of an entry**: it starts with `type`, blanks, the name, blanks or
none, an equals sign, blanks or none, and `ConfigEntry[`. -/
def DeclaresEntryType (line : List Char) : Prop :=
  ∃ gap name before after rest, (gap ≠ [] ∧ Blanks gap) ∧ NamesEntryType name ∧ Blanks before ∧
    Blanks after ∧
      line = "type".toList ++
        (gap ++ (name ++ (before ++ '=' :: (after ++ ("ConfigEntry[".toList ++ rest)))))

section EntryType

variable {line name source needle : List Char}

theorem namesEntryType_iff :
    NamesEntryType name ↔ ∃ stem, IsIdentifier stem ∧ name = stem ++ "ConfigEntry".toList := by
  constructor
  · rintro ⟨⟨-, hword⟩, ⟨stem, rfl⟩, hlonger⟩
    refine ⟨stem, ⟨?_, fun c hc => hword c (List.mem_append_left _ hc)⟩, rfl⟩
    rintro rfl
    exact absurd hlonger (by decide)
  · rintro ⟨stem, ⟨hne, hword⟩, rfl⟩
    have hending : IsIdentifier "ConfigEntry".toList := by decide
    refine ⟨⟨?_, fun c hc => ?_⟩, List.suffix_append _ _, ?_⟩
    · simp [hne]
    · exact (List.mem_append.mp hc).elim (hword c) (hending.2 c)
    · rw [List.length_append, String.length_toList]
      exact Nat.lt_add_of_pos_left (List.length_pos_iff.mpr hne)

theorem startsIn_typedEntryAlias_iff :
    typedEntryAlias.startsIn line = true ↔ DeclaresEntryType line := by
  have hparts : typedEntryAlias =
      .seq (.literal "type".toList) (.seq space (.seq (.many1 isWord)
        (.seq (.literal "ConfigEntry".toList) (.seq gap (.seq (.literal ['='])
          (.seq gap (.literal "ConfigEntry[".toList))))))) := rfl
  rw [hparts]
  simp only [Pattern.startsIn_seq_iff]
  constructor
  · rintro ⟨keyword, _, hkeyword, rfl, gap, _, hgap, rfl, stem, _, hstem, rfl, ending, _, hending, rfl,
      before, _, hbefore, rfl, sign, _, hsign, rfl, after, value, hafter, rfl, hvalue⟩
    obtain ⟨type, rest, htype, rfl⟩ := Pattern.startsIn_iff.mp hvalue
    obtain rfl : keyword = "type".toList := hkeyword
    obtain rfl : ending = "ConfigEntry".toList := hending
    obtain rfl : sign = ['='] := hsign
    obtain rfl : type = "ConfigEntry[".toList := htype
    refine ⟨gap, stem ++ "ConfigEntry".toList, before, after, rest, Pattern.matches_many1_iff.mp hgap,
      namesEntryType_iff.mpr ⟨stem, Pattern.matches_many1_iff.mp hstem, rfl⟩, hbefore, hafter, ?_⟩
    rw [List.append_assoc stem]
    rfl
  · rintro ⟨gap, name, before, after, rest, hgap, hname, hbefore, hafter, rfl⟩
    obtain ⟨stem, hstem, rfl⟩ := namesEntryType_iff.mp hname
    refine ⟨"type".toList, _, rfl, rfl, gap, _, Pattern.matches_many1_iff.mpr hgap, rfl, stem, _,
      Pattern.matches_many1_iff.mpr hstem, List.append_assoc .., "ConfigEntry".toList, _, rfl, rfl, before,
      _, hbefore, rfl, ['='], _, rfl, rfl, after, _, hafter, rfl, ?_⟩
    exact Pattern.startsIn_iff.mpr ⟨_, rest, rfl, rfl⟩

theorem declaresTypedEntry_iff :
    declaresTypedEntry source = true ↔ ∃ line ∈ Text.lines source, DeclaresEntryType line := by
  rw [declaresTypedEntry, List.any_eq_true]
  simp only [startsIn_typedEntryAlias_iff]

theorem occurs_iff_infix : occurs needle line = true ↔ needle <:+: line := by
  rw [occurs_iff]
  simp only [List.IsInfix, List.append_assoc, eq_comm]

theorem mentions_iff :
    mentions source needle = true ↔
      ∃ line ∈ Text.lines source, ¬ StartsComment line ∧ needle <:+: line := by
  rw [mentions, List.any_eq_true]
  simp only [mem_codeLines_iff, occurs_iff_infix, and_assoc]

end EntryType

/-- The end of the name may stand in it before. -/
example : typedEntryAlias.startsIn "type ConfigEntryConfigEntry=ConfigEntry[Data]".toList = true := by
  decide

end QualityScale.Source
