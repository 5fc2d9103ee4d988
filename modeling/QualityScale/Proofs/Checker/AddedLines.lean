import QualityScale.Proofs.Checker.OwnFiles
import QualityScale.Proofs.Source.LineWise

/-!
# Lines that are added to evidence

What a validator asks of a file is whether some line of it looks a certain way.  Lines that are added
at the end leave the ones before them as they are, so they can answer a question and never take an
answer back.  A validator returns no message for the longer files that it does not return for the
shorter ones: `messages_sublist_of_grown`.

* `EndsLine s`: the text is empty or ends with a line break, so what follows starts a new line.
* `LinesAdded files files' p`: the file at `p` holds such a text, and more of it in the second tree.
* `Grown config i files files'`: the evidence about an integration is the same in both trees but for
  lines that are added in the second one.
* `Source.Persistent question`: a yes to the question about a text stays when lines are added.
-/

namespace QualityScale

/-! ### Texts that go on with a new line -/

/-- The text is empty or ends with a line break. -/
def EndsLine (s : String) : Prop :=
  s = "" ∨ ∃ start : String, s = start ++ "\n"

theorem EndsLine.terminated {s : String} (h : EndsLine s) : Source.Terminated s.toList := by
  obtain rfl | ⟨start, rfl⟩ := h
  · exact .inl rfl
  · exact .inr ⟨start.toList, String.toList_append⟩

theorem EndsLine.lines_append {s : String} (h : EndsLine s) (t : String) :
    Text.lines (s ++ t).toList = Text.lines s.toList ++ Text.lines t.toList := by
  rw [String.toList_append]
  exact h.terminated.lines_append t.toList

theorem EndsLine.codeLines_append {s : String} (h : EndsLine s) (t : String) :
    Source.codeLines (s ++ t).toList =
      Source.codeLines s.toList ++ Source.codeLines t.toList := by
  rw [String.toList_append]
  exact h.terminated.codeLines_append t.toList

namespace Source

/-- A yes to the question about a text stays when lines are added. -/
def Persistent (question : List Char → Bool) : Prop :=
  ∀ s t : String, EndsLine s → question s.toList = true → question (s ++ t).toList = true

theorem persistent_any_lines (looks : List Char → Bool) :
    Persistent fun source => (Text.lines source).any looks := by
  intro s t hs h
  have hbefore : (Text.lines s.toList).any looks = true := h
  show (Text.lines (s ++ t).toList).any looks = true
  rw [hs.lines_append, List.any_append, hbefore, Bool.true_or]

theorem persistent_any_codeLines (looks : List Char → Bool) :
    Persistent fun source => (codeLines source).any looks := by
  intro s t hs h
  have hbefore : (codeLines s.toList).any looks = true := h
  show (codeLines (s ++ t).toList).any looks = true
  rw [hs.codeLines_append, List.any_append, hbefore, Bool.true_or]

theorem persistent_defines (name : List Char) : Persistent (defines · name) :=
  persistent_any_codeLines _

theorem persistent_assigns (name : List Char) : Persistent (assigns · name) :=
  persistent_any_codeLines _

theorem persistent_calls (name : List Char) : Persistent (calls · name) :=
  persistent_any_codeLines _

theorem persistent_mentions (needle : List Char) : Persistent (mentions · needle) :=
  persistent_any_codeLines _

theorem persistent_declaresTypedEntry : Persistent declaresTypedEntry :=
  persistent_any_lines _

end Source

/-! ### Trees with added lines -/

/-- **Lines are added to a file**: it is text that ends with a line break or is empty, and further
text comes after it in the second tree. -/
def LinesAdded (files files' : FileTree) (p : Path) : Prop :=
  ∃ old new : String, EndsLine old ∧ files.bytes p = .ok old.toByteArray ∧
    files'.bytes p = .ok (old ++ new).toByteArray

/-- **Lines are added to the evidence about an integration**, to any number of its files, and the
others of these are the same in both trees. -/
def Grown (config : Config) (i : Integration) (files files' : FileTree) : Prop :=
  ∀ p ∈ i.evidenceFiles config, AgreeAt files files' p ∨ LinesAdded files files' p

/-- A text of the first tree, if there is one, and that of the second: the same, or a longer one. -/
def TextGrown (text text' : Option String) : Prop :=
  text' = text ∨
    ∃ old new : String, EndsLine old ∧ text = some old ∧ text' = some (old ++ new)

theorem TextGrown.any {text text' : Option String} (h : TextGrown text text')
    {question : List Char → Bool} (hq : Source.Persistent question)
    (hyes : (text.any fun s => question s.toList) = true) :
    (text'.any fun s => question s.toList) = true := by
  obtain rfl | ⟨old, new, hends, rfl, rfl⟩ := h
  · exact hyes
  · exact hq old new hends hyes

namespace Grown

variable {config : Config} {i : Integration} {files files' : FileTree} {name : String}

theorem textGrown (h : Grown config i files files') {p : Path}
    (hp : p ∈ i.evidenceFiles config) :
    TextGrown (files.text p).toOption (files'.text p).toOption := by
  rcases h p hp with hsame | ⟨old, new, hends, hold, hnew⟩
  · exact .inl hsame.text_toOption_eq.symm
  · rw [FileTree.text_eq_ok_iff.mpr hold, FileTree.text_eq_ok_iff.mpr hnew]
    exact .inr ⟨old, new, hends, rfl, rfl⟩

theorem moduleFile_mem (hm : name ∈ evidenceModules) :
    i.moduleFile name ∈ i.evidenceFiles config :=
  List.mem_cons_of_mem _ (List.mem_map_of_mem hm)

theorem moduleText?_grown (h : Grown config i files files') (hm : name ∈ evidenceModules) :
    TextGrown (i.moduleText? files name) (i.moduleText? files' name) :=
  h.textGrown (moduleFile_mem hm)

theorem moduleShows (h : Grown config i files files') (hm : name ∈ evidenceModules)
    {question : List Char → Bool} (hq : Source.Persistent question)
    (hyes : i.moduleShows files name question = true) :
    i.moduleShows files' name question = true :=
  (h.moduleText?_grown hm).any hq hyes

theorem hasModule (h : Grown config i files files') (hm : name ∈ evidenceModules)
    (hyes : i.hasModule files name = true) : i.hasModule files' name = true := by
  rcases h _ (moduleFile_mem hm) with hsame | ⟨old, new, -, -, hnew⟩
  · rw [Integration.hasModule, ← hsame.isFile_eq]
    exact hyes
  · exact FileTree.isFile_iff.mpr ⟨_, hnew⟩

theorem declaresEntryType (h : Grown config i files files')
    (hyes : Evidence.declaresEntryType files i = true) :
    Evidence.declaresEntryType files' i = true := by
  rw [Evidence.declaresEntryType, List.any_eq_true] at hyes ⊢
  have hmodules : ∀ name ∈ Evidence.setupModule :: Evidence.typeModules,
      name ∈ evidenceModules := by decide
  obtain ⟨name, hname, hshows⟩ := hyes
  exact ⟨name, hname,
    h.moduleShows (hmodules name hname) Source.persistent_declaresTypedEntry hshows⟩

end Grown

/-! ### Validators -/

/-- A check that passes where another one passed returns no more than that one. -/
theorem sublist_of_passes {p q : Prop} [Decidable p] [Decidable q] (h : p → q)
    (messages : List String) :
    (if q then [] else messages).Sublist (if p then [] else messages) := by
  by_cases hp : p
  · rw [if_pos hp, if_pos (h hp)]
  · rw [if_neg hp]
    split
    · exact List.nil_sublist _
    · exact .refl _

/-- Where each item gives the same or nothing, the results are among those of before, in order. -/
theorem filterMap_sublist {α β : Type} {f g : α → Option β} {items : List α}
    (h : ∀ a ∈ items, g a = f a ∨ g a = none) : (items.filterMap g).Sublist (items.filterMap f) := by
  induction items with
  | nil => exact .slnil
  | cons a items ih =>
    have hrest := ih fun b hb => h b (List.mem_cons_of_mem a hb)
    rw [List.filterMap_cons, List.filterMap_cons]
    rcases h a List.mem_cons_self with ha | ha
    · rw [ha]
      cases f a with
      | none => exact hrest
      | some b => exact hrest.cons_cons b
    · rw [ha]
      cases f a with
      | none => exact hrest
      | some b => exact hrest.cons b

section Validators

variable {config : Config} {i : Integration} {files files' : FileTree}

/-- A step that the flow defines stays defined, so this holds of a flow of any kind. -/
theorem flowStep_sublist (h : Grown config i files files') (step kind : String) (done : NameSet) :
    (Evidence.flowStep step kind config files' i done).Sublist
      (Evidence.flowStep step kind config files i done) :=
  sublist_of_passes (h.moduleShows (by decide) (Source.persistent_defines _)) _

theorem configFlow_sublist (h : Grown config i files files') (done : NameSet) :
    (Evidence.configFlow config files' i done).Sublist
      (Evidence.configFlow config files i done) :=
  -- What the manifest says does not change.
  .append (.refl _) (sublist_of_passes (h.hasModule (by decide)) _)

theorem runtimeData_sublist (h : Grown config i files files') (done : NameSet) :
    (Evidence.runtimeData config files' i done).Sublist
      (Evidence.runtimeData config files i done) := by
  have htyped : ∀ l : List String,
      (if done.contains "strict-typing" && !Evidence.declaresEntryType files' i then l
        else []).Sublist
      (if done.contains "strict-typing" && !Evidence.declaresEntryType files i then l else []) := by
    intro l
    by_cases hbefore : Evidence.declaresEntryType files i = true
    · rw [hbefore, h.declaresEntryType hbefore]
    · rw [Bool.not_eq_true] at hbefore
      rw [hbefore]
      cases done.contains "strict-typing" <;> cases Evidence.declaresEntryType files' i <;> simp
  have hsetup : Evidence.setupModule ∈ evidenceModules := by decide
  unfold Evidence.runtimeData
  rcases h.moduleText?_grown hsetup with hsame | ⟨old, new, hends, hold, hnew⟩
  · rw [hsame]
    cases i.moduleText? files Evidence.setupModule with
    | none => exact .refl _
    | some s => exact .append (.refl _) (htyped _)
  · rw [hold, hnew]
    exact .append (sublist_of_passes (Source.persistent_mentions _ old new hends) _) (htyped _)

theorem uniqueConfigEntry_sublist (h : Grown config i files files') (done : NameSet) :
    (Evidence.uniqueConfigEntry config files' i done).Sublist
      (Evidence.uniqueConfigEntry config files i done) := by
  refine sublist_of_passes (fun hpass => ?_) _
  rw [Bool.or_eq_true, List.any_eq_true] at hpass ⊢
  refine hpass.imp id ?_
  rintro ⟨call, hcall, hguarded⟩
  exact ⟨call, hcall, h.moduleShows (by decide) (Source.persistent_calls _) hguarded⟩

theorem discovery_sublist (h : Grown config i files files') (done : NameSet) :
    (Evidence.discovery config files' i done).Sublist
      (Evidence.discovery config files i done) := by
  refine sublist_of_passes (fun hpass => ?_) _
  rw [Bool.or_eq_true] at hpass ⊢
  refine hpass.imp id fun hflow => ?_
  obtain ⟨key, hkey, hdefines⟩ := List.any_eq_true.mp hflow
  exact List.any_eq_true.mpr
    ⟨key, hkey, h.moduleShows (by decide) (Source.persistent_defines _) hdefines⟩

theorem diagnostics_sublist (h : Grown config i files files') (done : NameSet) :
    (Evidence.diagnostics config files' i done).Sublist
      (Evidence.diagnostics config files i done) := by
  have hm : "diagnostics" ∈ evidenceModules := by decide
  unfold Evidence.diagnostics
  rcases h.moduleText?_grown hm with hsame | ⟨old, new, hends, hold, hnew⟩
  · rw [hsame]
  · rw [hold, hnew]
    refine sublist_of_passes (fun hpass => ?_) _
    obtain ⟨f, hf, hdefines⟩ := List.any_eq_true.mp hpass
    exact List.any_eq_true.mpr ⟨f, hf, Source.persistent_defines _ old new hends hdefines⟩

theorem parallelUpdates_sublist (h : Grown config i files files') (done : NameSet) :
    (Evidence.parallelUpdates config files' i done).Sublist
      (Evidence.parallelUpdates config files i done) := by
  refine filterMap_sublist fun platform hplatform => ?_
  rcases h.moduleText?_grown (List.mem_append_right _ hplatform) with
    hsame | ⟨old, new, hends, hold, hnew⟩
  · rw [hsame]
    exact .inl rfl
  · rw [hold, hnew]
    by_cases hset : Source.assigns old.toList "PARALLEL_UPDATES".toList = true
    · exact .inr (if_pos (Source.persistent_assigns _ old new hends hset))
    · simp only [if_neg hset]
      split
      · exact .inr rfl
      · exact .inl rfl

theorem strictTyping_sublist (h : Grown config i files files') (done : NameSet) :
    (Evidence.strictTyping config files' i done).Sublist
      (Evidence.strictTyping config files i done) :=
  sublist_of_passes ((h.textGrown List.mem_cons_self).any (Source.persistent_any_lines _)) _

end Validators

/-- **Lines that are added never speak against a claim.**  What a validator of the standard catalog
returns for the tree with further lines is, in the same order, among what it returns for the tree
without them. -/
theorem messages_sublist_of_grown {r : Rule} (hr : r ∈ Catalog.standard.rules)
    {validate : Validator} (hv : r.validator = some validate) {config : Config} {i : Integration}
    {files files' : FileTree} (h : Grown config i files files') (done : NameSet) :
    (validate config files' i done).Sublist (validate config files i done) := by
  have hall := Catalog.forall_standard_validator
    (p := fun validate => (validate config files' i done).Sublist (validate config files i done))
  refine hall.mpr ?_ r hr validate hv
  refine ⟨configFlow_sublist h done, runtimeData_sublist h done, uniqueConfigEntry_sublist h done,
    ?_, parallelUpdates_sublist h done, flowStep_sublist h _ _ done, diagnostics_sublist h done,
    discovery_sublist h done, flowStep_sublist h _ _ done, strictTyping_sublist h done⟩
  exact sublist_of_passes (h.moduleShows (by decide) (Source.persistent_defines _)) _

/-- A checkout with one integration, which has two modules, and the list of typed modules. -/
def evidenceTree (setup sensor typed : String) : FileTree :=
  ⟨.directory [("hue", .directory [("__init__.py", .file setup.toByteArray),
    ("sensor.py", .file sensor.toByteArray)]), (".strict-typing", .file typed.toByteArray)], []⟩

/-- A checkout in which the setup module is empty. -/
def bareTree : FileTree :=
  evidenceTree "" "# No updates.\n" "homeassistant.components.hue.*\n"

/-- The same checkout with lines added to the three files. -/
def grownTree : FileTree :=
  evidenceTree "entry.runtime_data = hue\n" "# No updates.\nPARALLEL_UPDATES = 0\n"
    "homeassistant.components.hue.*\nhomeassistant.components.zha.*\n"

theorem grown_grownTree :
    Grown ⟨⟨"."⟩, none⟩ halfProvenEntry.integration bareTree grownTree := by
  have hothers : ∀ p ∈ halfProvenEntry.integration.evidenceFiles ⟨⟨"."⟩, none⟩,
      p ∉ [⟨"hue/__init__.py"⟩, ⟨"hue/sensor.py"⟩, ⟨"./.strict-typing"⟩] →
        bareTree.bytes p = grownTree.bytes p := by
    decide +kernel
  intro p hp
  by_cases hlonger : p ∈ [⟨"hue/__init__.py"⟩, ⟨"hue/sensor.py"⟩, ⟨"./.strict-typing"⟩]
  · refine .inr ?_
    simp only [List.mem_cons, List.not_mem_nil, or_false] at hlonger
    rcases hlonger with rfl | rfl | rfl
    · exact ⟨"", "entry.runtime_data = hue\n", .inl rfl, by decide +kernel, by decide +kernel⟩
    · exact ⟨"# No updates.\n", "PARALLEL_UPDATES = 0\n", .inr ⟨"# No updates.", rfl⟩,
        by decide +kernel, by decide +kernel⟩
    · exact ⟨"homeassistant.components.hue.*\n", "homeassistant.components.zha.*\n",
        .inr ⟨"homeassistant.components.hue.*", rfl⟩, by decide +kernel, by decide +kernel⟩
  · exact .inl (.of_bytes_eq (hothers p hp hlonger))

/-- The rule that asks for a place to keep data, and more with strict typing. -/
def dataRule : Rule := ⟨"runtime-data", .bronze, some Evidence.runtimeData⟩

theorem messages_sublist_of_grown_grownTree :
    (dataRule ∈ Catalog.standard.rules ∧ dataRule.validator = some Evidence.runtimeData ∧
      Grown ⟨⟨"."⟩, none⟩ halfProvenEntry.integration bareTree grownTree) ∧
    (Evidence.runtimeData ⟨⟨"."⟩, none⟩ grownTree halfProvenEntry.integration
        (.ofList ["strict-typing"])).Sublist
      (Evidence.runtimeData ⟨⟨"."⟩, none⟩ bareTree halfProvenEntry.integration
        (.ofList ["strict-typing"])) ∧
    (Evidence.runtimeData ⟨⟨"."⟩, none⟩ grownTree halfProvenEntry.integration
      (.ofList ["strict-typing"])).length = 1 ∧
    (Evidence.runtimeData ⟨⟨"."⟩, none⟩ bareTree halfProvenEntry.integration
      (.ofList ["strict-typing"])).length = 2 := by
  have hrule : dataRule ∈ Catalog.standard.rules := List.mem_of_getElem? (i := 14) rfl
  exact ⟨⟨hrule, rfl, grown_grownTree⟩, messages_sublist_of_grown hrule rfl grown_grownTree _,
    by decide +kernel, by decide +kernel⟩

end QualityScale
