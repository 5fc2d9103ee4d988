import QualityScale.Evidence.Flow
import QualityScale.Proofs.Source.Calls

/-!
# Calls and definitions in the flow

An integration that allows several entries shows in its flow that it keeps one thing from being set
up twice: the flow has to call one of two functions.  What is looked for is the name of the function
before a parenthesis, and so stands the name in the definition of a function too.

* `NamedAt line name before`: after the start `before` of a line, an identifier begins with the name,
  and a parenthesis opens after it.
* `AfterDef before`: the name after this start of a line is the one that a `def` defines.
* `FlowHas files i looks`: a line of the flow, no comment, looks so with one of the two names.
* `unique_entry_iff_named`: a call and a definition both pass for evidence.
-/

namespace QualityScale

open Text (isBlank isWord)

namespace Source

/-- **After the start `before` of a line, an identifier begins with the name**, and a parenthesis
opens after it, perhaps with blanks between them. -/
def NamedAt (line name before : List Char) : Prop :=
  ∃ after, line = before ++ after ∧ (∀ c ∈ before.getLast?, isWord c = false) ∧ Opens name after

/-- A start of a line ends with the word `def` and blanks, so the name after it is being defined. -/
def AfterDef (before : List Char) : Prop :=
  ∃ start gap, before = start ++ ("def".toList ++ gap) ∧ (∀ c ∈ start.getLast?, isWord c = false) ∧
    gap ≠ [] ∧ ∀ c ∈ gap, isBlank c = true

/-- The line has the name as that of a call. -/
def Called (line name : List Char) : Prop :=
  ∃ before, NamedAt line name before ∧ ¬ AfterDef before

/-- The line has the name as that of a function that it defines. -/
def Defined (line name : List Char) : Prop :=
  ∃ before, NamedAt line name before ∧ AfterDef before

section Named

variable {source line name : List Char}

theorem called_or_defined_iff :
    Called line name ∨ Defined line name ↔ ∃ before, NamedAt line name before := by
  constructor
  · rintro (⟨before, hnamed, -⟩ | ⟨before, hnamed, -⟩)
    · exact ⟨before, hnamed⟩
    · exact ⟨before, hnamed⟩
  · rintro ⟨before, hnamed⟩
    by_cases hdef : AfterDef before
    · exact .inr ⟨before, hnamed, hdef⟩
    · exact .inl ⟨before, hnamed, hdef⟩

theorem calls_iff_named (hname : name.head?.any isWord = true) :
    calls source name = true ↔
      ∃ line ∈ codeLines source, Called line name ∨ Defined line name := by
  rw [calls_iff]
  refine exists_congr fun line => and_congr_right fun _ => ?_
  rw [called_or_defined_iff]
  refine exists_congr fun before => exists_congr fun after => and_congr_right fun _ => ?_
  exact and_congr_left (isWordBoundary_iff hname)

end Named

end Source

namespace Evidence

/-- A line of the flow that is no comment looks so with one of the names to be called. -/
def FlowHas (files : FileTree) (i : Integration) (looks : List Char → List Char → Prop) : Prop :=
  ∃ text, i.moduleText? files flowModule = some text ∧
    ∃ line ∈ Source.codeLines text.toList, ∃ call ∈ uniquenessCalls, looks line call.toList

section Flow

variable {files : FileTree} {i : Integration} {looks looks' : List Char → List Char → Prop}

theorem flowHas_or_iff :
    FlowHas files i (fun line call => looks line call ∨ looks' line call) ↔
      FlowHas files i looks ∨ FlowHas files i looks' := by
  constructor
  · rintro ⟨text, htext, line, hline, call, hcall, h | h⟩
    · exact .inl ⟨text, htext, line, hline, call, hcall, h⟩
    · exact .inr ⟨text, htext, line, hline, call, hcall, h⟩
  · rintro (⟨text, htext, line, hline, call, hcall, h⟩ | ⟨text, htext, line, hline, call, hcall, h⟩)
    · exact ⟨text, htext, line, hline, call, hcall, .inl h⟩
    · exact ⟨text, htext, line, hline, call, hcall, .inr h⟩

theorem any_calls_iff :
    (uniquenessCalls.any fun call => i.moduleShows files flowModule (Source.calls · call.toList)) =
        true ↔
      FlowHas files i fun line call => Source.Called line call ∨ Source.Defined line call := by
  have hwords : ∀ call ∈ uniquenessCalls, call.toList.head?.any isWord = true := by decide
  rw [List.any_eq_true]
  constructor
  · rintro ⟨call, hcall, hshows⟩
    obtain ⟨text, htext, hcalls⟩ := (Option.any_eq_true ..).mp hshows
    obtain ⟨line, hline, h⟩ := (Source.calls_iff_named (hwords call hcall)).mp hcalls
    exact ⟨text, htext, line, hline, call, hcall, h⟩
  · rintro ⟨text, htext, line, hline, call, hcall, h⟩
    have hcalls := (Source.calls_iff_named (hwords call hcall)).mpr ⟨line, hline, h⟩
    exact ⟨call, hcall, (Option.any_eq_true ..).mpr ⟨text, htext, hcalls⟩⟩

theorem uniqueConfigEntry_eq_nil_iff (config : Config) (files : FileTree) (i : Integration)
    (done : NameSet) :
    uniqueConfigEntry config files i done = [] ↔
      i.manifestFlag "single_config_entry" = true ∨ FlowHas files i Source.Called ∨
        FlowHas files i Source.Defined := by
  rw [← flowHas_or_iff, ← any_calls_iff, ← Bool.or_eq_true, uniqueConfigEntry]
  split
  next h => exact iff_of_true rfl h
  next h => exact iff_of_false (List.cons_ne_nil _ _) h

end Flow

/-- **A name before a parenthesis passes for evidence**, whether it is called there or defined.  So
an integration that allows several entries passes without a call exactly if its flow has a definition
and no call. -/
theorem unique_entry_iff_named (config : Config) (files : FileTree) (i : Integration)
    (done : NameSet) :
    (uniqueConfigEntry config files i done = [] ↔
        i.manifestFlag "single_config_entry" = true ∨ FlowHas files i Source.Called ∨
          FlowHas files i Source.Defined) ∧
      (i.manifestFlag "single_config_entry" = false ∧ uniqueConfigEntry config files i done = [] ∧
          ¬ FlowHas files i Source.Called ↔
        i.manifestFlag "single_config_entry" = false ∧ FlowHas files i Source.Defined ∧
          ¬ FlowHas files i Source.Called) := by
  have hnil := uniqueConfigEntry_eq_nil_iff config files i done
  refine ⟨hnil, ?_⟩
  constructor
  · rintro ⟨hflag, hpasses, hnone⟩
    rcases hnil.mp hpasses with hset | hcalled | hdefined
    · rw [hflag] at hset
      cases hset
    · exact absurd hcalled hnone
    · exact ⟨hflag, hdefined, hnone⟩
  · rintro ⟨hflag, hdefined, hnone⟩
    exact ⟨hflag, hnil.mpr (.inr (.inr hdefined)), hnone⟩

/-- A line that defines a function of a name to be called. -/
def definingLine : String := "def async_set_unique_id(self):"

/-- A checkout with one integration, whose flow has that line only. -/
def definingTree : FileTree :=
  ⟨.directory [("hue", .directory [("config_flow.py", .file definingLine.toByteArray)])], []⟩

/-- The integration in `definingTree`. -/
def defining : Integration where
  domain := "hue"
  path := ⟨"hue"⟩
  core := true

/-- A definition passes for a call. -/
theorem definition_passes :
    defining.manifestFlag "single_config_entry" = false ∧
      uniqueConfigEntry ⟨⟨"."⟩, none⟩ definingTree defining .empty = [] ∧
      ¬ FlowHas definingTree defining Source.Called := by
  refine ⟨rfl, by decide +kernel, ?_⟩
  rintro ⟨text, htext, line, hline, call, hcall, before, ⟨after, hsplit, -, gap, rest, -, rfl⟩, hfree⟩
  have hread : defining.moduleText? definingTree flowModule = some definingLine := by decide +kernel
  obtain rfl := Option.some.inj (hread.symm.trans htext)
  have hlines : Source.codeLines definingLine.toList = [definingLine.toList] := by decide
  rw [hlines, List.mem_singleton] at hline
  -- The names stand in the line at one place only.
  have hplace : ∀ call ∈ uniquenessCalls, ∀ n < definingLine.length + 1,
      call.toList.isPrefixOf (definingLine.toList.drop n) = true → n = 4 := by decide
  have hlength : before.length < definingLine.length + 1 := by
    rw [← String.length_toList, ← hline, hsplit, List.length_append]
    omega
  have hprefix : call.toList.isPrefixOf (definingLine.toList.drop before.length) = true := by
    rw [← hline, hsplit, List.drop_left, List.isPrefixOf_iff_prefix]
    exact List.prefix_append _ _
  have hbefore : before = "def ".toList := by
    have htake := congrArg (List.take before.length) (hline.symm.trans hsplit)
    rw [List.take_left, hplace call hcall _ hlength hprefix] at htake
    exact htake.symm
  exact hfree ⟨[], [' '], hbefore, by simp, by simp, by simp [isBlank, Text.blanks]⟩

end Evidence

end QualityScale
