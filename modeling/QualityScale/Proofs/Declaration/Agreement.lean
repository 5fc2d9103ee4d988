import QualityScale.Catalog.Standard
import QualityScale.Declaration.Classification
import QualityScale.Proofs.Declaration.Grammar

/-!
# The schema and the classification agree

A document is read twice.  The schema looks at its values as they are, and the classification takes
whatever status it can make out.  On a document without violations the two readings are one.

* `mem_done_iff`, `mem_met_iff`: what the classification of any document holds, entry by entry.
* `EntryForm.writes_iff`: the status made out of a well-formed entry is the one that it writes.
* `readAlike_of_accepted`: so no entry of an accepted document is passed over, and the rules that
  are done and met are those whose entries say so.
* `Conforms.mem_done_iff`, `Conforms.mem_met_iff`: the same, by what the document `Declares` and
  `Excuses`.
-/

namespace QualityScale.Grammar

open Yaml (Value)
open Classification (ruleEntries namedStatus? statuses ofDocument)

/-! ### The classification of any document -/

theorem RulesOf.ruleEntries_eq {doc : Value} {rules : List (Value × Value)}
    (h : RulesOf doc rules) : ruleEntries doc = rules := by
  obtain ⟨top, htop, hrules⟩ := h
  have hget : doc.get? Schema.rulesKey = some (.mapping rules) := by
    rw [Value.get?, Value.asMapping?_eq_some_iff.mpr htop]
    exact lookupText_eq_some_iff.mpr hrules
  rw [ruleEntries, hget]
  rfl

theorem namedStatus?_eq_some_iff {e : Value × Value} {name : String} {s : Status} :
    namedStatus? e = some (name, s) ↔
      e.1.untag = .string name ∧ Status.ofEntry? e.2 = some s := by
  rw [← Value.asString?_eq_some_iff, namedStatus?]
  rcases e.1.asString? with _ | name'
  · simp
  · rcases Status.ofEntry? e.2 with _ | s'
    · simp
    · simp

theorem mem_statuses_iff {doc : Value} {name : String} {s : Status} :
    (name, s) ∈ statuses doc ↔
      ∃ e ∈ ruleEntries doc, e.1.untag = .string name ∧ Status.ofEntry? e.2 = some s := by
  rw [statuses, List.mem_filterMap]
  exact exists_congr fun e => and_congr_right fun _ => namedStatus?_eq_some_iff

/-- A rule is done exactly if an entry has its name and the status `done`. -/
theorem mem_done_iff {doc : Value} {name : String} :
    name ∈ (ofDocument doc).done ↔
      ∃ e ∈ ruleEntries doc, e.1.untag = .string name ∧ Status.ofEntry? e.2 = some .done := by
  rw [ofDocument, Classification.mem_namesWith, ← mem_statuses_iff]
  constructor
  · rintro ⟨s, hs, hd⟩
    rwa [beq_iff_eq.mp hd] at hs
  · exact fun h => ⟨.done, h, rfl⟩

/-- A rule is met exactly if an entry has its name and is done or exempt. -/
theorem mem_met_iff {doc : Value} {name : String} :
    name ∈ (ofDocument doc).met ↔
      ∃ e ∈ ruleEntries doc, e.1.untag = .string name ∧
        (Status.ofEntry? e.2 = some .done ∨ Status.ofEntry? e.2 = some .exempt) := by
  rw [ofDocument, Classification.mem_namesWith]
  constructor
  · rintro ⟨s, hs, hm⟩
    obtain ⟨e, he, hname, hstatus⟩ := mem_statuses_iff.mp hs
    refine ⟨e, he, hname, ?_⟩
    cases s with
    | todo => exact absurd hm (by decide)
    | done => exact .inl hstatus
    | exempt => exact .inr hstatus
  · rintro ⟨e, he, hname, hstatus | hstatus⟩
    · exact ⟨.done, mem_statuses_iff.mpr ⟨e, he, hname, hstatus⟩, rfl⟩
    · exact ⟨.exempt, mem_statuses_iff.mpr ⟨e, he, hname, hstatus⟩, rfl⟩

theorem met_of_done {doc : Value} {name : String} (h : name ∈ (ofDocument doc).done) :
    name ∈ (ofDocument doc).met := by
  obtain ⟨e, he, hname, hstatus⟩ := mem_done_iff.mp h
  exact mem_met_iff.mpr ⟨e, he, hname, .inl hstatus⟩

/-! ### Statuses of well-formed entries -/

/-- Of a mapping, only what stands under the plain key is looked at. -/
theorem Gives.ofEntry?_eq {v : Value} {fields : List (Value × Value)}
    (h : Gives "status" v fields) : Status.ofEntry? (.mapping fields) = Status.ofValue? v := by
  have hlookup : Yaml.lookupText Status.key fields = some v := lookupText_eq_some_iff.mpr h
  rw [Status.ofEntry?, hlookup, Option.bind_some]

/-- The status that an entry writes is made out. -/
theorem Writes.ofEntry?_eq_some {s : Status} {e : Value} (h : Writes s e) :
    Status.ofEntry? e = some s := by
  have hname : Status.ofName? s.name = some s := Status.ofName?_eq_some_iff.mpr rfl
  cases h with
  | bare => exact hname
  | field h =>
    rw [h.ofEntry?_eq]
    exact hname

/-- An entry writes at most one status. -/
theorem Writes.unique {s t : Status} {e : Value} (hs : Writes s e) (ht : Writes t e) : s = t :=
  Option.some.inj (hs.ofEntry?_eq_some.symm.trans ht.ofEntry?_eq_some)

theorem EntryForm.exists_writes {e : Value} (h : EntryForm e) : ∃ s, Writes s e := by
  cases h with
  | todo => exact ⟨.todo, .bare⟩
  | done => exact ⟨.done, .bare⟩
  | detailed s _ status => exact ⟨s, .field status⟩

/-- **Of a well-formed entry, just the status that it writes is made out.** -/
theorem EntryForm.writes_iff {e : Value} (h : EntryForm e) {s : Status} :
    Writes s e ↔ Status.ofEntry? e = some s := by
  refine ⟨Writes.ofEntry?_eq_some, fun hs => ?_⟩
  obtain ⟨t, ht⟩ := h.exists_writes
  obtain rfl : t = s := Option.some.inj (ht.ofEntry?_eq_some.symm.trans hs)
  exact ht

theorem EntryForm.not_bare_exempt {e : Value} (h : EntryForm e) : e.untag ≠ .string "exempt" := by
  cases h with
  | todo => exact fun h => absurd (Value.string.inj h) (by decide)
  | done => exact fun h => absurd (Value.string.inj h) (by decide)
  | detailed => exact fun h => by cases h

/-! ### Accepted documents -/

/-- **Both readings of a document give the same.**  The document has the entries `rules`. -/
structure ReadAlike (c : Catalog) (doc : Value) (rules : List (Value × Value)) : Prop where
  /-- A status is made out of every entry, and it is the one that the entry writes. -/
  status : ∀ e ∈ rules, ∃ s, Writes s e.2 ∧ Status.ofEntry? e.2 = some s
  /-- The rules that are done are those whose entries write `done`. -/
  done : ∀ name, name ∈ (ofDocument doc).done ↔
    ∃ e ∈ rules, e.1.untag = .string name ∧ Writes .done e.2
  /-- The rules that are met are those whose entries write `done` or `exempt`. -/
  met : ∀ name, name ∈ (ofDocument doc).met ↔
    ∃ e ∈ rules, e.1.untag = .string name ∧ (Writes .done e.2 ∨ Writes .exempt e.2)
  /-- What is done is met. -/
  subset : ∀ name ∈ (ofDocument doc).done, name ∈ (ofDocument doc).met
  /-- Only rules of the catalog are met. -/
  known : ∀ name ∈ (ofDocument doc).met, ∃ r ∈ c.rules, r.name = name
  /-- No entry is a bare `exempt`, so none is met by one. -/
  noBareExempt : ∀ e ∈ rules, e.2.untag ≠ .string "exempt"

theorem Conforms.readAlike {c : Catalog} {doc : Value} {rules : List (Value × Value)}
    (h : Conforms c doc) (hrules : RulesOf doc rules) : ReadAlike c doc rules := by
  obtain ⟨-, rules', hrules', hentries⟩ := h
  obtain rfl := hrules'.unique hrules
  have hform : ∀ e ∈ rules', EntryForm e.2 := fun e he => (hentries e he).2
  have hmet : ∀ name, name ∈ (ofDocument doc).met ↔
      ∃ e ∈ rules', e.1.untag = .string name ∧ (Writes .done e.2 ∨ Writes .exempt e.2) := by
    intro name
    rw [mem_met_iff, hrules.ruleEntries_eq]
    refine exists_congr fun e => and_congr_right fun he => ?_
    rw [(hform e he).writes_iff, (hform e he).writes_iff]
  refine ⟨fun e he => ?_, fun name => ?_, hmet, fun name => met_of_done, fun name hname => ?_,
    fun e he => (hform e he).not_bare_exempt⟩
  · obtain ⟨s, hs⟩ := (hform e he).exists_writes
    exact ⟨s, hs, hs.ofEntry?_eq_some⟩
  · rw [mem_done_iff, hrules.ruleEntries_eq]
    refine exists_congr fun e => and_congr_right fun he => ?_
    rw [(hform e he).writes_iff]
  · obtain ⟨e, he, hkey, -⟩ := (hmet name).mp hname
    obtain ⟨⟨r, hr, hr'⟩, -⟩ := hentries e he
    exact ⟨r, hr, Value.string.inj (hr'.symm.trans hkey)⟩

/-- **The classification of an accepted document is what its entries say.** -/
theorem readAlike_of_accepted {c : Catalog} {doc : Value} (h : Schema.violations c doc = []) :
    ∃ rules, RulesOf doc rules ∧ ReadAlike c doc rules := by
  have hc := conforms_of_violations_eq_nil h
  obtain ⟨rules, hrules, -⟩ := hc.rules
  exact ⟨rules, hrules, hc.readAlike hrules⟩

/-- A declaration with tags on the document and on a key, and an entry of each form. -/
def taggedDeclaration : Value :=
  .tagged "scale" (.mapping [(.string "rules", .mapping [
    (.string "brands", .string "todo"),
    (.tagged "x" (.string "config-flow"), .string "done"),
    (.string "docs-actions", .mapping [
      (.string "comment", .string "There are no actions."),
      (.string "status", .string "exempt")])])])

theorem readAlike_taggedDeclaration :
    Schema.violations Catalog.standard taggedDeclaration = [] ∧
      ∃ rules, RulesOf taggedDeclaration rules ∧
        ReadAlike Catalog.standard taggedDeclaration rules :=
  have h : Schema.violations Catalog.standard taggedDeclaration = [] := rfl
  ⟨h, readAlike_of_accepted h⟩

/-! ### What a declaration declares -/

/-- The document has an entry for the rule `name` that writes the status `s`. -/
def Declares (doc : Value) (name : String) (s : Status) : Prop :=
  ∃ rules, RulesOf doc rules ∧ ∃ e ∈ rules, e.1.untag = .string name ∧ Writes s e.2

/-- The document has an entry for the rule `name` that is exempt and says why. -/
def Excuses (doc : Value) (name : String) : Prop :=
  ∃ rules, RulesOf doc rules ∧ ∃ e ∈ rules, e.1.untag = .string name ∧
    ∃ fields text, e.2 = .mapping fields ∧ Gives "status" (.string "exempt") fields ∧
      Gives "comment" (.string text) fields

theorem EntryForm.writes_exempt_iff {e : Value} (h : EntryForm e) :
    Writes .exempt e ↔ ∃ fields text, e = .mapping fields ∧
      Gives "status" (.string "exempt") fields ∧ Gives "comment" (.string text) fields := by
  constructor
  · intro hw
    cases hw with
    | bare => exact absurd rfl h.not_bare_exempt
    | field hstatus =>
      cases h with
      | detailed s _ status comment reason =>
        obtain rfl : s = .exempt := Writes.unique (.field status) (.field hstatus)
        obtain ⟨v, hv⟩ := reason rfl
        obtain ⟨text, rfl⟩ := comment v hv
        exact ⟨_, text, rfl, hstatus, hv⟩
  · rintro ⟨fields, text, rfl, hstatus, -⟩
    exact .field hstatus

variable {c : Catalog} {doc : Value} {name : String}

theorem Conforms.mem_done_iff (h : Conforms c doc) :
    name ∈ (ofDocument doc).done ↔ Declares doc name .done := by
  obtain ⟨rules, hrules, -⟩ := h.rules
  rw [(h.readAlike hrules).done]
  constructor
  · exact fun he => ⟨rules, hrules, he⟩
  · rintro ⟨rules', hrules', he⟩
    obtain rfl := hrules'.unique hrules
    exact he

theorem Conforms.mem_met_iff (h : Conforms c doc) :
    name ∈ (ofDocument doc).met ↔ Declares doc name .done ∨ Excuses doc name := by
  obtain ⟨rules, hrules, hentries⟩ := h.rules
  rw [(h.readAlike hrules).met]
  constructor
  · rintro ⟨e, he, hname, hw | hw⟩
    · exact .inl ⟨rules, hrules, e, he, hname, hw⟩
    · exact .inr ⟨rules, hrules, e, he, hname, (hentries e he).2.writes_exempt_iff.mp hw⟩
  · rintro (⟨rules', hrules', e, he, hname, hw⟩ | ⟨rules', hrules', e, he, hname, hw⟩)
    · obtain rfl := hrules'.unique hrules
      exact ⟨e, he, hname, .inl hw⟩
    · obtain rfl := hrules'.unique hrules
      exact ⟨e, he, hname, .inr ((hentries e he).2.writes_exempt_iff.mpr hw)⟩

end QualityScale.Grammar
