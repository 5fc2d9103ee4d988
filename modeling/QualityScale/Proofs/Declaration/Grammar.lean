import QualityScale.Declaration.Schema

/-!
# The grammar of declarations

What a declaration looks like, said without the checks that look for violations.

* `Gives key v es`: among the entries `es`, the value `v` stands under the key `key`, and that key
  has no tag.
* `Writes s e`: the entry `e` of a rule writes the status `s`, as a bare name or in its field.
* `EntryForm e`: the entry `e` of a rule is well formed.
* `RulesOf doc rules`: `rules` are the entries of the rules in the document `doc`.
* `Conforms c doc`: `doc` is a declaration over the rules of the catalog `c`.

`violations_eq_nil_iff_conforms` says that the schema accepts exactly these documents.  Its proof
has one lemma for each function that collects violations: none is collected exactly if the part
that the function looks at has the form that the grammar gives it.
-/

namespace QualityScale.Grammar

open Yaml (Value lookupText)

/-! ### Plain keys -/

/-- `Gives key v es`: the first entry of `es` whose key is `key`, without a tag, has the
value `v`. -/
inductive Gives (key : String) (v : Value) : List (Value × Value) → Prop
  | here {es} : Gives key v ((.string key, v) :: es)
  | later {e es} : e.1 ≠ .string key → Gives key v es → Gives key v (e :: es)

theorem Gives.mem {key : String} {v : Value} {es : List (Value × Value)} (h : Gives key v es) :
    (.string key, v) ∈ es := by
  induction h with
  | here => exact List.mem_cons_self
  | later _ _ ih => exact List.mem_cons_of_mem _ ih

theorem lookupText_cons_self (key : String) (v : Value) (es : List (Value × Value)) :
    lookupText key ((.string key, v) :: es) = some v := by
  rw [lookupText, if_pos (Value.isText_iff.mpr rfl)]

theorem lookupText_cons_of_ne {key : String} {e : Value × Value} (hne : e.1 ≠ .string key)
    (es : List (Value × Value)) : lookupText key (e :: es) = lookupText key es := by
  rw [lookupText, if_neg (fun h => hne (Value.isText_iff.mp h))]

/-- **Looking a key up finds what the entries give it.** -/
theorem lookupText_eq_some_iff {key : String} {v : Value} {es : List (Value × Value)} :
    lookupText key es = some v ↔ Gives key v es := by
  induction es with
  | nil => exact ⟨fun h => by simp [lookupText] at h, fun h => by cases h⟩
  | cons e es ih =>
    obtain ⟨k, w⟩ := e
    by_cases hk : k = .string key
    · subst hk
      rw [lookupText_cons_self]
      constructor
      · intro h
        cases h
        exact .here
      · intro h
        cases h with
        | here => rfl
        | later hne _ => exact absurd rfl hne
    · rw [lookupText_cons_of_ne hk, ih]
      constructor
      · exact .later hk
      · intro h
        cases h with
        | here => exact absurd rfl hk
        | later _ h => exact h

theorem lookupText_eq_none_iff {key : String} {es : List (Value × Value)} :
    lookupText key es = none ↔ ∀ e ∈ es, e.1 ≠ .string key := by
  induction es with
  | nil => exact ⟨fun _ _ h => absurd h List.not_mem_nil, fun _ => rfl⟩
  | cons e es ih =>
    rw [lookupText, List.forall_mem_cons, ← ih]
    split
    next hk => simp [Value.isText_iff.mp hk]
    next hk => exact ⟨fun h => ⟨fun hk' => hk (Value.isText_iff.mpr hk'), h⟩, And.right⟩

theorem Gives.unique {key : String} {v w : Value} {es : List (Value × Value)}
    (hv : Gives key v es) (hw : Gives key w es) : v = w := by
  rw [← lookupText_eq_some_iff] at hv hw
  exact Option.some.inj (hv.symm.trans hw)

/-! ### Entries -/

/-- The entry of a rule writes the status `s`: it is the name of `s`, or a mapping whose plain key
for the status has that name. -/
inductive Writes (s : Status) : Value → Prop
  | bare : Writes s (.string s.name)
  | field {fields} : Gives "status" (.string s.name) fields → Writes s (.mapping fields)

/-- **The form of an entry.**  It is a bare `todo` or `done`, or a mapping of a status and a
comment.  Only an exemption has to have a comment.  Tags on the keys of the mapping do not make
other keys of them, but only the keys without a tag count as the status and the comment. -/
inductive EntryForm : Value → Prop
  | todo : EntryForm (.string "todo")
  | done : EntryForm (.string "done")
  | detailed {fields : List (Value × Value)} (s : Status)
      (known : ∀ f ∈ fields, f.1.untag = .string "status" ∨ f.1.untag = .string "comment")
      (status : Gives "status" (.string s.name) fields)
      (comment : ∀ v, Gives "comment" v fields → ∃ text, v = .string text)
      (reason : s = .exempt → ∃ v, Gives "comment" v fields) :
      EntryForm (.mapping fields)

/-! ### Documents -/

/-- The entries of the rules: those of the mapping without a tag that stands under the plain key
`rules` of the document, tags on the document aside. -/
def RulesOf (doc : Value) (rules : List (Value × Value)) : Prop :=
  ∃ top, doc.untag = .mapping top ∧ Gives "rules" (.mapping rules) top

/-- A key that names a rule of the catalog, tags aside. -/
def NamesRule (c : Catalog) (key : Value) : Prop :=
  ∃ r ∈ c.rules, key.untag = .string r.name

/-- **A declaration over the rules of a catalog.** -/
structure Conforms (c : Catalog) (doc : Value) : Prop where
  /-- The document is a mapping with no other keys than `rules`, tags aside. -/
  onlyRules : ∃ top, doc.untag = .mapping top ∧ ∀ e ∈ top, e.1.untag = .string "rules"
  /-- It has rules, all from the catalog and with entries in order. -/
  rules : ∃ rules, RulesOf doc rules ∧ ∀ e ∈ rules, NamesRule c e.1 ∧ EntryForm e.2

theorem RulesOf.unique {doc : Value} {rules rules' : List (Value × Value)}
    (h : RulesOf doc rules) (h' : RulesOf doc rules') : rules = rules' := by
  obtain ⟨top, htop, hrules⟩ := h
  obtain ⟨top', htop', hrules'⟩ := h'
  have he : top = top' := Value.mapping.inj (htop.symm.trans htop')
  subst he
  exact Value.mapping.inj (hrules.unique hrules')

/-! ### The parts of the schema -/

open Schema

variable {c : Catalog} {path : List Value}

theorem isExtra_iff {known : List String} {key : Value} :
    (!key.asString?.any known.contains) = true ↔ ∀ text ∈ known, key.untag ≠ .string text := by
  rw [Bool.not_eq_true', Option.any_eq_false]
  constructor
  · intro h text hknown hkey
    have hnot := h text (Value.asString?_eq_some_iff.mpr hkey)
    exact Bool.eq_false_iff.mp hnot (List.contains_iff_mem.mpr hknown)
  · intro h text hkey
    apply Bool.eq_false_iff.mpr
    intro hknown
    exact h text (List.contains_iff_mem.mp hknown) (Value.asString?_eq_some_iff.mp hkey)

theorem extraKeys_eq_nil_iff {known : List String} {es : List (Value × Value)} :
    extraKeys path known es = [] ↔ ∀ e ∈ es, ∃ key ∈ known, e.1.untag = .string key := by
  rw [extraKeys, List.map_eq_nil_iff, List.filter_eq_nil_iff]
  refine forall₂_congr fun e _ => ?_
  rw [isExtra_iff]
  simp

theorem ofName?_isSome_iff {text : String} :
    (Status.ofName? text).isSome = true ↔ ∃ s : Status, text = s.name := by
  rw [Option.isSome_iff_exists]
  refine exists_congr fun s => ?_
  rw [Status.ofName?_eq_some_iff, eq_comm]

theorem statusViolations_eq_nil_iff {status : Option Value} :
    statusViolations path status = [] ↔ ∃ s : Status, status = some (.string s.name) := by
  rcases status with _ | v
  · simp [statusViolations]
  · cases v with
    | string text =>
      rw [statusViolations]
      split
      next h =>
        obtain ⟨s, rfl⟩ := ofName?_isSome_iff.mp h
        exact ⟨fun _ => ⟨s, rfl⟩, fun _ => rfl⟩
      next h =>
        refine ⟨fun h' => by simp at h', fun ⟨s, hs⟩ => ?_⟩
        obtain rfl := Value.string.inj (Option.some.inj hs)
        exact absurd (ofName?_isSome_iff.mpr ⟨s, rfl⟩) h
    | _ => simp [statusViolations]

theorem commentViolations_eq_nil_iff {isExempt : Bool} {comment : Option Value} :
    commentViolations path isExempt comment = [] ↔
      (∀ v, comment = some v → ∃ text, v = .string text) ∧
        (isExempt = true → ∃ v, comment = some v) := by
  rcases comment with _ | v
  · cases isExempt <;> simp [commentViolations]
  · cases v <;> simp [commentViolations]

/-- **A detailed entry passes exactly if it has the form of one.** -/
theorem detailViolations_eq_nil_iff {fields : List (Value × Value)} :
    detailViolations path fields = [] ↔ EntryForm (.mapping fields) := by
  rw [detailViolations, List.append_eq_nil_iff, List.append_eq_nil_iff, extraKeys_eq_nil_iff,
    statusViolations_eq_nil_iff, commentViolations_eq_nil_iff]
  simp only [lookupText_eq_some_iff]
  constructor
  · rintro ⟨⟨hknown, s, hs⟩, htext, hreason⟩
    refine .detailed s (fun f hf => ?_) hs htext (fun he => hreason ?_)
    · obtain ⟨key, hkey, hf⟩ := hknown f hf
      rcases List.mem_cons.mp hkey with rfl | hkey
      · exact .inl hf
      · exact .inr (by rw [hf, List.mem_singleton.mp hkey]; rfl)
    · subst he
      rw [lookupText_eq_some_iff.mpr hs]
      rfl
  · intro h
    cases h with
    | detailed s known status comment reason =>
      refine ⟨⟨fun f hf => ?_, s, status⟩, comment, fun hx => reason ?_⟩
      · rcases known f hf with h | h
        · exact ⟨_, List.mem_cons_self, h⟩
        · exact ⟨_, List.mem_cons_of_mem _ List.mem_cons_self, h⟩
      · rw [show lookupText Status.key fields = some (.string s.name) from
          lookupText_eq_some_iff.mpr status] at hx
        cases s with
        | exempt => rfl
        | todo => exact absurd hx (by decide)
        | done => exact absurd hx (by decide)

theorem entryForm_string_iff {text : String} :
    EntryForm (.string text) ↔ text = "todo" ∨ text = "done" := by
  constructor
  · intro h
    cases h with
    | todo => exact .inl rfl
    | done => exact .inr rfl
  · rintro (rfl | rfl)
    · exact .todo
    · exact .done

/-- A bare status passes exactly if it is `todo` or `done`. -/
theorem bareViolations_eq_nil_iff {text : String} :
    bareViolations path text = [] ↔ EntryForm (.string text) := by
  rw [entryForm_string_iff, bareViolations]
  rcases hs : Status.ofName? text with _ | s
  · refine ⟨fun h => by simp at h, fun h => ?_⟩
    rcases h with rfl | rfl
    · exact absurd hs (by decide)
    · exact absurd hs (by decide)
  · obtain rfl := Status.ofName?_eq_some_iff.mp hs
    cases s with
    | todo => exact ⟨fun _ => .inl rfl, fun _ => rfl⟩
    | done => exact ⟨fun _ => .inr rfl, fun _ => rfl⟩
    | exempt => simp [Status.name]

/-- **An entry passes exactly if it is well formed.** -/
theorem entryViolations_eq_nil_iff {e : Value} : entryViolations path e = [] ↔ EntryForm e := by
  cases e with
  | string text => exact bareViolations_eq_nil_iff
  | mapping fields => exact detailViolations_eq_nil_iff
  | _ => exact ⟨fun h => by simp [entryViolations] at h, fun h => by cases h⟩

theorem namesRule_iff {key : Value} :
    NamesRule c key ↔ key.asString?.any c.contains = true := by
  rw [Option.any_eq_true]
  constructor
  · rintro ⟨r, hr, hkey⟩
    exact ⟨r.name, Value.asString?_eq_some_iff.mpr hkey, Catalog.contains_iff.mpr ⟨r, hr, rfl⟩⟩
  · rintro ⟨name, hkey, hname⟩
    obtain ⟨r, hr, rfl⟩ := Catalog.contains_iff.mp hname
    exact ⟨r, hr, Value.asString?_eq_some_iff.mp hkey⟩

/-- One key of the rules passes exactly if it names a rule and its entry is well formed. -/
theorem ruleViolations_eq_nil_iff {e : Value × Value} :
    ruleViolations c e = [] ↔ NamesRule c e.1 ∧ EntryForm e.2 := by
  rw [ruleViolations, namesRule_iff]
  split
  next h => rw [entryViolations_eq_nil_iff, and_iff_right h]
  next h => exact ⟨fun h' => by simp at h', fun h' => absurd h'.1 h⟩

theorem rulesViolations_eq_nil_iff {value : Option Value} :
    rulesViolations c value = [] ↔
      ∃ rules, value = some (.mapping rules) ∧ ∀ e ∈ rules, NamesRule c e.1 ∧ EntryForm e.2 := by
  rcases value with _ | v
  · simp [rulesViolations]
  · cases v with
    | mapping rules =>
      simp only [rulesViolations, List.flatMap_eq_nil_iff, ruleViolations_eq_nil_iff]
      constructor
      · exact fun h => ⟨rules, rfl, h⟩
      · rintro ⟨rules', he, h⟩
        obtain rfl := Value.mapping.inj (Option.some.inj he)
        exact h
    | _ => simp [rulesViolations]

/-! ### The schema -/

/-- A document without violations is a declaration. -/
theorem conforms_of_violations_eq_nil {doc : Value} (h : violations c doc = []) :
    Conforms c doc := by
  unfold violations at h
  split at h
  next => simp at h
  next top htop =>
    have htop := Value.asMapping?_eq_some_iff.mp htop
    obtain ⟨hextra, hrules⟩ := List.append_eq_nil_iff.mp h
    obtain ⟨rules, hgives, hentries⟩ := rulesViolations_eq_nil_iff.mp hrules
    refine ⟨⟨top, htop, fun e he => ?_⟩, rules, ⟨top, htop, ?_⟩, hentries⟩
    · obtain ⟨key, hkey, hek⟩ := extraKeys_eq_nil_iff.mp hextra e he
      rw [hek, List.mem_singleton.mp hkey]
      rfl
    · exact lookupText_eq_some_iff.mp hgives

/-- A declaration has no violations. -/
theorem Conforms.violations_eq_nil {doc : Value} (h : Conforms c doc) : violations c doc = [] := by
  obtain ⟨⟨top, htop, honly⟩, rules, ⟨top', htop', hgives⟩, hentries⟩ := h
  obtain rfl : top' = top := Value.mapping.inj (htop'.symm.trans htop)
  rw [violations, Value.asMapping?_eq_some_iff.mpr htop]
  refine List.append_eq_nil_iff.mpr ⟨?_, ?_⟩
  · exact extraKeys_eq_nil_iff.mpr fun e he => ⟨_, List.mem_singleton_self _, honly e he⟩
  · refine rulesViolations_eq_nil_iff.mpr ⟨rules, ?_, hentries⟩
    exact lookupText_eq_some_iff.mpr hgives

/-- **The schema accepts exactly the declarations.** -/
theorem violations_eq_nil_iff_conforms (c : Catalog) (doc : Value) :
    violations c doc = [] ↔ Conforms c doc :=
  ⟨conforms_of_violations_eq_nil, Conforms.violations_eq_nil⟩

end QualityScale.Grammar
