import QualityScale.Proofs.Declaration.Locality

/-!
# Entries that are read whole

An entry of a rule can be read whole (`RuleEntry.ofValue?`), or only its status is looked for
(`Status.ofEntry?`).  The first reading asks for more: no tags, no fields that are no text, a comment
that is a text.  But it also knows other ways to give a status: as the only key of a mapping, by its
place among the statuses, and under the place of its field instead of the name.

* `Keyed s v`: the value `v` is a mapping of the status `s` to nothing.
* `WritesIndirectly s v`: the entry `v` gives the status `s` in a way that only the first reading
  knows.
* `status_of_whole_entry`: of an entry that is read whole, the status is found or not, by the way it
  is given; no other status is ever found.
* `whole_entry_of_accepted`: an entry that the schema accepts is read whole, if it has no tags.
-/

namespace QualityScale.Grammar

open Yaml (Value KeysDiffer lookupText)
open RuleEntry (Field strictStatus? statusOfKey? valuesOf ofFields? hasTag entriesHaveTag)

/-! ### Ways to give a status -/

/-- A mapping of a status, by its name or by its place, to nothing. -/
inductive Keyed (s : Status) : Value → Prop
  | name : Keyed s (.mapping [(.string s.name, .null)])
  | place {n : Nat} : Status.all[n]? = some s → Keyed s (.mapping [(.number (.whole n), .null)])

/-- **The entry gives the status in a way that only the reading of the whole knows**: as the only key
of a mapping, which is the entry or stands in its field, or in a field that is named by its place. -/
inductive WritesIndirectly (s : Status) : Value → Prop
  | entry {v} : Keyed s v → WritesIndirectly s v
  | field {fields v} : Gives "status" v fields → Keyed s v → WritesIndirectly s (.mapping fields)
  | place {fields v} : (∀ f ∈ fields, f.1 ≠ .string "status") →
      (.number (.whole 0), v) ∈ fields → v = .string s.name ∨ Keyed s v →
      WritesIndirectly s (.mapping fields)

theorem statusOfKey?_eq_some_iff {key : Value} {s : Status} :
    statusOfKey? key = some s ↔ Keyed s (.mapping [(key, .null)]) := by
  constructor
  · intro h
    cases key with
    | string text =>
      obtain rfl := Status.ofName?_eq_some_iff.mp h
      exact .name
    | number n =>
      cases n with
      | whole n =>
        rw [statusOfKey?] at h
        by_cases hn : n < 0
        · rw [if_pos hn] at h
          cases h
        · rw [if_neg hn] at h
          obtain ⟨m, rfl⟩ := Int.eq_ofNat_of_zero_le (Int.not_lt.mp hn)
          exact .place h
      | real x => cases h
    | _ => cases h
  · intro h
    cases h with
    | name => exact Status.ofName?_eq_some_iff.mpr rfl
    | @place n h =>
      rw [statusOfKey?, if_neg (Int.not_lt.mpr (Int.natCast_nonneg n)), Int.toNat_natCast]
      exact h

theorem strictStatus?_eq_some_iff {v : Value} {s : Status} :
    strictStatus? v = some s ↔ v = .string s.name ∨ Keyed s v := by
  constructor
  · intro h
    unfold strictStatus? at h
    split at h
    · exact .inl (congrArg _ (Status.ofName?_eq_some_iff.mp h).symm)
    · exact .inr (statusOfKey?_eq_some_iff.mp h)
    · cases h
  · rintro (rfl | h)
    · exact Status.ofName?_eq_some_iff.mpr rfl
    · cases h with
      | name => exact statusOfKey?_eq_some_iff.mpr .name
      | place h => exact statusOfKey?_eq_some_iff.mpr (.place h)

theorem Keyed.ofValue?_eq_none {s : Status} {v : Value} (h : Keyed s v) :
    Status.ofValue? v = none := by
  cases h <;> rfl

theorem WritesIndirectly.ofEntry?_eq_none {s : Status} {v : Value} (h : WritesIndirectly s v) :
    Status.ofEntry? v = none := by
  cases h with
  | entry h =>
    -- No status has the name of the key that is looked up.
    cases h with
    | name => cases s <;> rfl
    | place h => rfl
  | field hstatus hkeyed =>
    rw [hstatus.ofEntry?_eq]
    exact hkeyed.ofValue?_eq_none
  | place hnone _ _ =>
    have hlookup : lookupText Status.key _ = none := lookupText_eq_none_iff.mpr hnone
    rw [Status.ofEntry?, hlookup, Option.bind_none]

/-! ### The fields of an entry -/

/-- The entries of a mapping as fields, if every key names one. -/
def fieldsOf? (entries : List (Value × Value)) : Option (List (Field × Value)) :=
  entries.mapM fun e => (Field.ofKey? e.1).map (·, e.2)

/-- The values of the fields of one kind, in the entries of a mapping. -/
def valuesUnder (field : Field) (entries : List (Value × Value)) : List Value :=
  (entries.filter fun e => Field.ofKey? e.1 = some field).map Prod.snd

theorem fieldsOf?_cons (e : Value × Value) (entries : List (Value × Value)) :
    fieldsOf? (e :: entries) = (Field.ofKey? e.1).bind fun field =>
      (fieldsOf? entries).map ((field, e.2) :: ·) := by
  rw [fieldsOf?, fieldsOf?, List.mapM_cons]
  cases Field.ofKey? e.1 with
  | none => rfl
  | some field => cases entries.mapM fun e => (Field.ofKey? e.1).map (·, e.2) <;> rfl

theorem exists_fieldsOf? {entries : List (Value × Value)}
    (h : ∀ e ∈ entries, ∃ field, Field.ofKey? e.1 = some field) :
    ∃ fields, fieldsOf? entries = some fields := by
  induction entries with
  | nil => exact ⟨[], rfl⟩
  | cons e entries ih =>
    obtain ⟨⟨field, he⟩, hentries⟩ := List.forall_mem_cons.mp h
    obtain ⟨fields, hfields⟩ := ih hentries
    exact ⟨(field, e.2) :: fields, by rw [fieldsOf?_cons, he, hfields]; rfl⟩

theorem valuesOf_of_fieldsOf? {entries : List (Value × Value)} {fields : List (Field × Value)}
    (h : fieldsOf? entries = some fields) (field : Field) :
    valuesOf field fields = valuesUnder field entries := by
  induction entries generalizing fields with
  | nil =>
    obtain rfl := Option.some.inj h
    rfl
  | cons e entries ih =>
    rw [fieldsOf?_cons] at h
    obtain ⟨field', he, h⟩ := Option.bind_eq_some_iff.mp h
    obtain ⟨fields', hfields, rfl⟩ := Option.map_eq_some_iff.mp h
    have ih := ih hfields
    rw [valuesOf, valuesUnder] at ih ⊢
    by_cases hfield : field' = field
    · simp [he, hfield, ih]
    · simp [he, hfield, ih]

theorem ofKey?_eq_status_iff {key : Value} :
    Field.ofKey? key = some .status ↔ key = .string "status" ∨ key = .number (.whole 0) := by
  cases key with
  | string text =>
    by_cases hstatus : text = "status"
    · simp [Field.ofKey?, hstatus, Status.key]
    · by_cases hcomment : text = "comment" <;>
        simp [Field.ofKey?, hstatus, hcomment, Status.key, Status.commentKey]
  | number n =>
    cases n with
    | whole n =>
      rw [Field.ofKey?]
      split
      next hn =>
        have hne : n ≠ 0 := by omega
        simp [hne]
      next hn =>
        by_cases hzero : n = 0
        · simp [hzero]
        · by_cases hone : n = 1 <;> simp [hzero, hone]
    | real x => simp [Field.ofKey?]
  | _ => simp [Field.ofKey?]

theorem ofFields?_eq_some {fields : List (Field × Value)} {e : RuleEntry}
    (h : ofFields? fields = some e) :
    ∃ v, valuesOf .status fields = [v] ∧ strictStatus? v = some e.status := by
  unfold ofFields? at h
  split at h
  · next v hstatus _ =>
    obtain ⟨s, hs, rfl⟩ := Option.map_eq_some_iff.mp h
    exact ⟨v, hstatus, hs⟩
  · next v w hstatus _ =>
    obtain ⟨s, hs, h⟩ := Option.bind_eq_some_iff.mp h
    obtain ⟨comment, -, h⟩ := Option.bind_eq_some_iff.mp h
    obtain rfl := Option.some.inj h
    exact ⟨v, hstatus, hs⟩
  · cases h

/-- The only value of a status stands under the plain key, or under the place of the field. -/
theorem gives_or_place {entries : List (Value × Value)} {v : Value}
    (h : valuesUnder .status entries = [v]) :
    Gives "status" v entries ∨
      (∀ e ∈ entries, e.1 ≠ .string "status") ∧ (.number (.whole 0), v) ∈ entries := by
  -- There is one value only, so what stands under the plain key is that one.
  have hmem : ∀ key w, (key, w) ∈ entries → Field.ofKey? key = some .status → w = v := by
    intro key w hw hkey
    have hin : w ∈ valuesUnder .status entries :=
      List.mem_map.mpr ⟨(key, w), List.mem_filter.mpr ⟨hw, by simpa using hkey⟩, rfl⟩
    rw [h] at hin
    exact List.mem_singleton.mp hin
  cases hlookup : lookupText "status" entries with
  | some w =>
    have hgives := lookupText_eq_some_iff.mp hlookup
    exact .inl (hmem _ w hgives.mem (ofKey?_eq_status_iff.mpr (.inl rfl)) ▸ hgives)
  | none =>
    have hnone := lookupText_eq_none_iff.mp hlookup
    have hin : v ∈ valuesUnder .status entries := h ▸ List.mem_singleton_self v
    obtain ⟨e, he, rfl⟩ := List.mem_map.mp hin
    obtain ⟨he, hkey⟩ := List.mem_filter.mp he
    rcases ofKey?_eq_status_iff.mp (of_decide_eq_true hkey) with hplain | hplace
    · exact absurd hplain (hnone e he)
    · exact .inr ⟨hnone, hplace ▸ he⟩

/-! ### The status of an entry that is read whole -/

/-- **An entry that is read whole gives its status** in the one way or the other. -/
theorem writes_or_writesIndirectly {v : Value} {e : RuleEntry}
    (h : RuleEntry.ofValue? v = some e) : Writes e.status v ∨ WritesIndirectly e.status v := by
  unfold RuleEntry.ofValue? at h
  split at h
  · cases h
  · split at h
    · next s hs =>
      obtain rfl := Option.some.inj h
      rcases strictStatus?_eq_some_iff.mp hs with rfl | hkeyed
      · exact .inl .bare
      · exact .inr (.entry hkeyed)
    · next entries _ =>
      obtain ⟨fields, hfields, hread⟩ := Option.bind_eq_some_iff.mp h
      obtain ⟨w, hw, hs⟩ := ofFields?_eq_some hread
      rw [valuesOf_of_fieldsOf? hfields] at hw
      have hgiven := strictStatus?_eq_some_iff.mp hs
      rcases gives_or_place hw with hgives | ⟨hnone, hplace⟩
      · rcases hgiven with rfl | hkeyed
        · exact .inl (.field hgives)
        · exact .inr (.field hgives hkeyed)
      · exact .inr (.place hnone hplace hgiven)
    · cases h

/-- **The two readings of an entry never give different statuses.**  Of an entry that is read whole,
the status is found exactly if it is written by its name, as the entry or under the plain key for it;
it is not found exactly if it is given in a way that only the reading of the whole knows; and there
is no third. -/
theorem status_of_whole_entry {v : Value} {e : RuleEntry} (h : RuleEntry.ofValue? v = some e) :
    (Status.ofEntry? v = some e.status ↔ Writes e.status v) ∧
      (Status.ofEntry? v = none ↔ WritesIndirectly e.status v) ∧
      (Status.ofEntry? v = some e.status ∨ Status.ofEntry? v = none) := by
  rcases writes_or_writesIndirectly h with hwrites | hindirect
  · have hsome := hwrites.ofEntry?_eq_some
    refine ⟨iff_of_true hsome hwrites, iff_of_false ?_ ?_, .inl hsome⟩
    · simp [hsome]
    · intro hindirect
      simp [hindirect.ofEntry?_eq_none] at hsome
  · have hnone := hindirect.ofEntry?_eq_none
    refine ⟨iff_of_false ?_ ?_, iff_of_true hnone hindirect, .inr hnone⟩
    · simp [hnone]
    · intro hwrites
      simp [hwrites.ofEntry?_eq_some] at hnone

/-- An entry with its status under the plain key. -/
def doneWithComment : Value :=
  .mapping [(.string "comment", .string "It has one."), (.string "status", .string "done")]

/-- An entry with its status as the only key of a mapping, under the place of the field. -/
def exemptByPlaces : Value :=
  .mapping [(.number (.whole 1), .string "It has none."),
    (.number (.whole 0), .mapping [(.number (.whole 2), .null)])]

theorem status_of_whole_entry_byPlaces :
    (RuleEntry.ofValue? doneWithComment = some (.detailed .done (some "It has one.")) ∧
      RuleEntry.ofValue? exemptByPlaces = some (.detailed .exempt (some "It has none."))) ∧
    (Status.ofEntry? doneWithComment = some .done ↔ Writes .done doneWithComment) ∧
    (Status.ofEntry? exemptByPlaces = none ↔ WritesIndirectly .exempt exemptByPlaces) ∧
    (Status.ofEntry? exemptByPlaces = some .exempt ∨ Status.ofEntry? exemptByPlaces = none) ∧
    Status.ofEntry? doneWithComment = some .done ∧ Status.ofEntry? exemptByPlaces = none := by
  have hdone : RuleEntry.ofValue? doneWithComment =
      some (.detailed .done (some "It has one.")) := rfl
  have hexempt : RuleEntry.ofValue? exemptByPlaces =
      some (.detailed .exempt (some "It has none.")) := rfl
  exact ⟨⟨hdone, hexempt⟩, (status_of_whole_entry hdone).1, (status_of_whole_entry hexempt).2.1,
    (status_of_whole_entry hexempt).2.2, rfl, rfl⟩

/-- An entry that is the name of a status as the only key of a mapping. -/
def doneAsKey : Value :=
  .mapping [(.string "done", .null)]

/-- **An entry can be read whole although no status is found**, where the status is the only key of a
mapping. -/
theorem whole_entry_without_status :
    Value.read? "done:\n" = .ok doneAsKey ∧
      RuleEntry.ofValue? doneAsKey = some (.bare .done) ∧ Status.ofEntry? doneAsKey = none ∧
      ¬ ∀ v e, RuleEntry.ofValue? v = some e → Status.ofEntry? v = some e.status := by
  refine ⟨by decide +kernel, rfl, rfl, ?_⟩
  intro h
  exact absurd (h doneAsKey (.bare .done) rfl) (by decide)

/-! ### Accepted entries -/

/-- Where keys differ, the fields of a kind that one text names have the value under that text. -/
theorem valuesUnder_eq_toList {field : Field} (text : String) {entries : List (Value × Value)}
    (hdiffer : (entries.map Prod.fst).Nodup)
    (hkeys : ∀ e ∈ entries, Field.ofKey? e.1 = some field ↔ e.1 = .string text) :
    valuesUnder field entries = (lookupText text entries).toList := by
  induction entries with
  | nil => rfl
  | cons e entries ih =>
    rw [List.map_cons, List.nodup_cons] at hdiffer
    obtain ⟨hnew, hdiffer⟩ := hdiffer
    obtain ⟨he, hentries⟩ := List.forall_mem_cons.mp hkeys
    have ih := ih hdiffer hentries
    obtain ⟨k, v⟩ := e
    by_cases hk : k = .string text
    · subst hk
      have hnone : lookupText text entries = none := by
        apply lookupText_eq_none_iff.mpr
        intro f hf hkey
        have hmem : f.1 ∈ entries.map Prod.fst := List.mem_map_of_mem hf
        exact hnew (hkey ▸ hmem)
      rw [hnone] at ih
      rw [valuesUnder, List.filter_cons_of_pos (by simpa using he.mpr rfl), List.map_cons,
        ← valuesUnder, ih, lookupText_cons_self]
      rfl
    · rw [valuesUnder, List.filter_cons_of_neg (by simpa using mt he.mp hk), ← valuesUnder, ih,
        lookupText_cons_of_ne hk]

theorem hasTag_key {entries : List (Value × Value)} (h : entriesHaveTag entries = false)
    {e : Value × Value} (he : e ∈ entries) : hasTag e.1 = false := by
  induction entries with
  | nil => exact absurd he List.not_mem_nil
  | cons f entries ih =>
    obtain ⟨k, v⟩ := f
    rw [entriesHaveTag, Bool.or_eq_false_iff, Bool.or_eq_false_iff] at h
    obtain ⟨⟨hk, -⟩, hentries⟩ := h
    rcases List.mem_cons.mp he with rfl | he
    · exact hk
    · exact ih hentries he

/-- A text without a tag is that text. -/
theorem eq_string_of_untag {key : Value} {text : String} (h : key.untag = .string text)
    (htag : hasTag key = false) : key = .string text := by
  rcases Value.eq_string_or_isTagged h with h | ⟨tag, w, rfl⟩
  · exact h
  · cases htag

/-- A comment in order is a text, or there is none. -/
theorem exists_comment {fields : List (Value × Value)}
    (h : ∀ v, Gives "comment" v fields → ∃ text, v = .string text) :
    ∃ comment : Option String, lookupText "comment" fields = comment.map .string := by
  cases hlookup : lookupText "comment" fields with
  | none => exact ⟨none, rfl⟩
  | some v =>
    obtain ⟨text, rfl⟩ := h v (lookupText_eq_some_iff.mp hlookup)
    exact ⟨some text, rfl⟩

/-- Fields that give a status and at most a comment are read as these. -/
theorem ofFields?_eq {fields : List (Field × Value)} {s : Status} {comment : Option String}
    (hstatus : valuesOf .status fields = [.string s.name])
    (hcomment : valuesOf .comment fields = (comment.map Value.string).toList) :
    ofFields? fields = some (.detailed s comment) := by
  have hname : strictStatus? (.string s.name) = some s := strictStatus?_eq_some_iff.mpr (.inl rfl)
  cases comment with
  | none => simp [ofFields?, hstatus, hcomment, hname]
  | some text => simp [ofFields?, hstatus, hcomment, hname, RuleEntry.comment?]

theorem strictStatus?_eq_none {s : Status} {fields : List (Value × Value)}
    (h : Gives "status" (.string s.name) fields) : strictStatus? (.mapping fields) = none := by
  cases hs : strictStatus? (.mapping fields) with
  | none => rfl
  | some t =>
    -- A mapping of one status to nothing gives no text.
    rcases strictStatus?_eq_some_iff.mp hs with hs | hkeyed
    · cases hs
    · have hmem := h.mem
      cases hkeyed <;> simp at hmem

theorem ofValue?_mapping {fields : List (Value × Value)} (htag : hasTag (.mapping fields) = false)
    (hnone : strictStatus? (.mapping fields) = none) :
    RuleEntry.ofValue? (.mapping fields) = (fieldsOf? fields).bind ofFields? := by
  simp only [RuleEntry.ofValue?, htag, hnone, Bool.false_eq_true, if_false]
  rfl

/-- **A detailed entry in order is read whole**, with the comment that stands in it. -/
theorem ofValue?_of_entryForm {fields : List (Value × Value)}
    (hform : EntryForm (.mapping fields)) (htag : hasTag (.mapping fields) = false)
    (hdiffer : (fields.map Prod.fst).Nodup) :
    ∃ s comment, RuleEntry.ofValue? (.mapping fields) = some (.detailed s comment) ∧
      lookupText "comment" fields = comment.map .string ∧ Writes s (.mapping fields) ∧
      (s = .exempt → comment.isSome = true) := by
  cases hform with
  | detailed s known status comment reason =>
    obtain ⟨given, hcomment⟩ := exists_comment comment
    have hkeys : ∀ f ∈ fields, f.1 = .string "status" ∨ f.1 = .string "comment" := by
      intro f hf
      have hplain := hasTag_key htag hf
      exact (known f hf).imp (eq_string_of_untag · hplain) (eq_string_of_untag · hplain)
    obtain ⟨read, hread⟩ : ∃ read, fieldsOf? fields = some read := by
      apply exists_fieldsOf?
      intro f hf
      rcases hkeys f hf with hkey | hkey
      · exact ⟨.status, hkey ▸ rfl⟩
      · exact ⟨.comment, hkey ▸ rfl⟩
    have hstatus : valuesOf .status read = [.string s.name] := by
      rw [valuesOf_of_fieldsOf? hread, valuesUnder_eq_toList "status" hdiffer,
        lookupText_eq_some_iff.mpr status]
      · rfl
      · intro f hf
        rcases hkeys f hf with hkey | hkey <;> rw [hkey] <;> decide
    have htext : valuesOf .comment read = (given.map Value.string).toList := by
      rw [valuesOf_of_fieldsOf? hread, valuesUnder_eq_toList "comment" hdiffer, hcomment]
      intro f hf
      rcases hkeys f hf with hkey | hkey <;> rw [hkey] <;> decide
    refine ⟨s, given, ?_, hcomment, .field status, ?_⟩
    · rw [ofValue?_mapping htag (strictStatus?_eq_none status), hread, Option.bind_some,
        ofFields?_eq hstatus htext]
    · intro hexempt
      obtain ⟨v, hv⟩ := reason hexempt
      rw [lookupText_eq_some_iff.mpr hv] at hcomment
      cases given with
      | none => cases hcomment
      | some text => rfl

/-- **An entry that the schema accepts is read whole**, if it has no tags.  (That no key is there
twice goes for every value that was read.)  Its status is the one that is found; it is bare exactly
if it is a text; its comment is the text in the field for it; and an exemption has one. -/
theorem whole_entry_of_accepted {c : Catalog} {rule : String} {v : Value}
    (htag : hasTag v = false) (hkeys : KeysDiffer v)
    (haccepted : Schema.violations c (oneRule (.string rule, v)) = []) :
    ∃ e, RuleEntry.ofValue? v = some e ∧
      Status.ofEntry? v = some e.status ∧
      ((∃ s, e = .bare s) ↔ ∃ text, v = .string text) ∧
      v.get? "comment" = e.comment.map .string ∧
      (e.status = .exempt → e.comment.isSome = true) := by
  rw [violations_oneRule] at haccepted
  have hform : EntryForm v := (ruleViolations_eq_nil_iff.mp haccepted).2
  have hbare : ∀ s : Status, (∃ t, RuleEntry.bare s = .bare t) ↔
      ∃ text, Value.string s.name = .string text := fun s => iff_of_true ⟨s, rfl⟩ ⟨s.name, rfl⟩
  cases hform with
  | todo => exact ⟨.bare .todo, rfl, rfl, hbare .todo, rfl, fun h => by cases h⟩
  | done => exact ⟨.bare .done, rfl, rfl, hbare .done, rfl, fun h => by cases h⟩
  | @detailed fields s known status comment reason =>
    obtain ⟨t, given, hread, hcomment, hwrites, hreason⟩ :=
      ofValue?_of_entryForm (.detailed s known status comment reason) htag hkeys.nodup_keys
    refine ⟨.detailed t given, hread, hwrites.ofEntry?_eq_some, ?_, hcomment, hreason⟩
    constructor
    · rintro ⟨u, h⟩
      cases h
    · rintro ⟨text, h⟩
      cases h

/-- The entry of an exemption. -/
def exemptWithComment : Value :=
  .mapping [(.string "comment", .string "It has none."), (.string "status", .string "exempt")]

theorem whole_entry_of_accepted_exempt :
    (hasTag exemptWithComment = false ∧ KeysDiffer exemptWithComment ∧
      Schema.violations Catalog.standard (oneRule (.string "docs-actions", exemptWithComment)) =
        []) ∧
    ∃ e, RuleEntry.ofValue? exemptWithComment = some e ∧
      Status.ofEntry? exemptWithComment = some e.status ∧
      ((∃ s, e = .bare s) ↔ ∃ text, exemptWithComment = .string text) ∧
      exemptWithComment.get? "comment" = e.comment.map .string ∧
      (e.status = .exempt → e.comment.isSome = true) := by
  have htag : hasTag exemptWithComment = false := rfl
  have hread : Value.read? "comment: It has none.\nstatus: exempt\n" = .ok exemptWithComment := by
    decide +kernel
  have hkeys : KeysDiffer exemptWithComment := Yaml.keysDiffer_of_read? hread
  have haccepted : Schema.violations Catalog.standard
      (oneRule (.string "docs-actions", exemptWithComment)) = [] := rfl
  exact ⟨⟨htag, hkeys, haccepted⟩, whole_entry_of_accepted htag hkeys haccepted⟩

end QualityScale.Grammar
