import Mathlib.Control.Monad.Basic
import QualityScale.Proofs.Declaration.Agreement
import QualityScale.Proofs.Yaml.DistinctKeys

/-!
# Ambiguous declarations

The reader refuses a key that is there twice, but to the reader a key with a tag is another key than
the same text without one.  The schema looks through the tag when it asks whether a key is known,
and does not when it looks a key up.  So an accepted document may say a thing twice, once under a
tag, or hide under a tag what would have been refused.

* `named text es`: the entries whose key has this text, tags aside.
* `Unambiguous c top rules`: nothing is said twice in a document with these entries.
* `Disguised top rules`: a key with a tag says a thing again or hides it.
* `unambiguous_iff_not_disguised`: an accepted document is unambiguous exactly if nothing in it is
  disguised.
* `accepted_and_ambiguous`: an accepted document in which everything is.
-/

namespace QualityScale.Grammar

open Yaml (Value KeysDiffer distinctKeys)

/-! ### Entries by the text of their keys -/

/-- The entries whose key has this text, tags aside. -/
def named (text : String) (es : List (Value × Value)) : List (Value × Value) :=
  es.filter fun e => e.1.asString? == some text

section Named

variable {text : String} {es : List (Value × Value)} {e : Value × Value}

theorem mem_named_iff : e ∈ named text es ↔ e ∈ es ∧ e.1.untag = .string text := by
  rw [named, List.mem_filter, beq_iff_eq, Value.asString?_eq_some_iff]

/-- Two entries have keys with the text, and one of the keys has a tag. -/
def Twins (text : String) (es : List (Value × Value)) : Prop :=
  ∃ e f, [e, f].Sublist es ∧ (e.1.IsTagged ∨ f.1.IsTagged) ∧
    e.1.untag = .string text ∧ f.1.untag = .string text

/-- **A text is there twice only with the help of a tag.** -/
theorem length_named_le_one_iff (hd : distinctKeys es = true) :
    (named text es).length ≤ 1 ↔ ¬ Twins text es := by
  constructor
  · rintro hl ⟨e, f, hs, -, he, hf⟩
    have hfilter : named text [e, f] = [e, f] := by
      refine List.filter_eq_self.mpr fun x hx => beq_iff_eq.mpr ?_
      rw [Value.asString?_eq_some_iff]
      rcases List.mem_cons.mp hx with rfl | hx
      · exact he
      · rwa [List.mem_singleton.mp hx]
    have hle : (named text [e, f]).length ≤ (named text es).length :=
      (hs.filter _).length_le
    rw [hfilter] at hle
    exact Nat.not_succ_le_self 1 (Nat.le_trans hle hl)
  · intro ht
    rcases hn : named text es with _ | ⟨e, _ | ⟨f, rest⟩⟩
    · exact Nat.zero_le 1
    · exact Nat.le_refl 1
    · have he := (mem_named_iff.mp (hn ▸ List.mem_cons_self : e ∈ named text es)).2
      have hf := (mem_named_iff.mp
        (hn ▸ List.mem_cons_of_mem _ List.mem_cons_self : f ∈ named text es)).2
      have hs : [e, f].Sublist es := by
        have hpair : [e, f].Sublist (named text es) := by
          rw [hn]
          exact ((List.nil_sublist rest).cons_cons f).cons_cons e
        exact hpair.trans List.filter_sublist
      exact absurd ⟨e, f, hs, Yaml.isTagged_or_isTagged_of_same_text hd hs he hf, he, hf⟩ ht

/-- Where a plain key is there, it is alone with its text exactly if no key with a tag has it. -/
theorem length_named_eq_one_iff (hd : distinctKeys es = true) {v : Value}
    (hg : Gives text v es) :
    (named text es).length = 1 ↔ ∀ e ∈ named text es, ¬ e.1.IsTagged := by
  have hplain : (.string text, v) ∈ named text es := mem_named_iff.mpr ⟨hg.mem, rfl⟩
  constructor
  · intro hl e he
    obtain ⟨x, hx⟩ := List.length_eq_one_iff.mp hl
    rw [hx, List.mem_singleton] at hplain he
    rw [he, ← hplain]
    rintro ⟨tag, w, h⟩
    cases h
  · intro h
    refine Nat.le_antisymm ((length_named_le_one_iff hd).mpr ?_) (List.length_pos_of_mem hplain)
    rintro ⟨e, f, hs, ht, he, hf⟩
    rcases ht with ht | ht
    · exact h e (mem_named_iff.mpr ⟨hs.subset List.mem_cons_self, he⟩) ht
    · exact h f (mem_named_iff.mpr ⟨hs.subset (List.mem_cons_of_mem _ List.mem_cons_self), hf⟩) ht

/-- Where keys differ, a plain key gives the value that stands under it. -/
theorem gives_of_mem (hd : distinctKeys es = true) {v : Value} (h : (.string text, v) ∈ es) :
    Gives text v es := by
  induction es with
  | nil => exact absurd h List.not_mem_nil
  | cons e es ih =>
    obtain ⟨he, hes⟩ := List.pairwise_cons.mp (Yaml.distinctKeys_iff_pairwise.mp hd)
    rcases List.mem_cons.mp h with rfl | h
    · exact .here
    · refine .later (fun hk => ?_) (ih (Yaml.distinctKeys_iff_pairwise.mpr hes) h)
      have hne := he _ h
      rw [hk, Value.same, beq_self_eq_true] at hne
      exact absurd hne (by decide)

end Named

/-! ### What may be ambiguous -/

/-- The fields of a detailed entry are each there once, and the comment is a text. -/
structure FieldsOnce (fields : List (Value × Value)) : Prop where
  status : (named "status" fields).length = 1
  comment : (named "comment" fields).length ≤ 1
  text : ∀ f ∈ named "comment" fields, ∃ text, f.2 = .string text

/-- **Nothing is said twice.**  The document has the entries `top`, those of the rules are
`rules`. -/
structure Unambiguous (c : Catalog) (top rules : List (Value × Value)) : Prop where
  /-- The document has one key. -/
  oneKey : top.length = 1
  /-- A rule has at most one entry. -/
  oneEntry : ∀ r ∈ c.rules, (named r.name rules).length ≤ 1
  /-- The fields of an entry are there once. -/
  fields : ∀ e ∈ rules, ∀ fields, e.2 = .mapping fields → FieldsOnce fields
  /-- No rule is both `todo` and `done`. -/
  oneStatus : ∀ name, ∀ e ∈ named name rules, ∀ f ∈ named name rules,
    ¬ (Status.ofEntry? e.2 = some .todo ∧ Status.ofEntry? f.2 = some .done)

/-- A key with a tag says a field of an entry again, or hides a comment that is no text. -/
inductive FieldDisguised (fields : List (Value × Value)) : Prop
  | status {f} : f ∈ named "status" fields → f.1.IsTagged → FieldDisguised fields
  | comment : Twins "comment" fields → FieldDisguised fields
  | text {f} : f ∈ named "comment" fields → f.1.IsTagged → (∀ text, f.2 ≠ .string text) →
      FieldDisguised fields

/-- **A key with a tag says a thing again, or hides it.** -/
inductive Disguised (top rules : List (Value × Value)) : Prop
  | top {e} : e ∈ top → e.1.IsTagged → Disguised top rules
  | rule {name} : Twins name rules → Disguised top rules
  | field {e fields} : e ∈ rules → e.2 = .mapping fields → FieldDisguised fields →
      Disguised top rules

/-! ### Ambiguity is disguise -/

theorem fieldsOnce_iff {fields : List (Value × Value)} (hd : distinctKeys fields = true)
    (h : EntryForm (.mapping fields)) : FieldsOnce fields ↔ ¬ FieldDisguised fields := by
  cases h with
  | detailed s known status comment reason =>
    constructor
    · intro ho hf
      cases hf with
      | status hf ht => exact (length_named_eq_one_iff hd status).mp ho.status _ hf ht
      | comment ht => exact (length_named_le_one_iff hd).mp ho.comment ht
      | text hf ht hn =>
        obtain ⟨text, htext⟩ := ho.text _ hf
        exact hn text htext
    · intro hn
      refine ⟨?_, ?_, fun f hf => ?_⟩
      · exact (length_named_eq_one_iff hd status).mpr fun f hf ht => hn (.status hf ht)
      · exact (length_named_le_one_iff hd).mpr fun ht => hn (.comment ht)
      · obtain ⟨hmem, hkey⟩ := mem_named_iff.mp hf
        rcases Yaml.Value.eq_string_or_isTagged hkey with hk | ht
        · obtain ⟨k, v⟩ := f
          exact comment v (gives_of_mem hd (hk ▸ hmem))
        · by_contra hne
          exact hn (.text hf ht fun text htext => hne ⟨text, htext⟩)

/-- With one entry for a rule there is one status for it. -/
theorem oneStatus_of_oneEntry {rules : List (Value × Value)} {name : String}
    (h : (named name rules).length ≤ 1) {e f : Value × Value} (he : e ∈ named name rules)
    (hf : f ∈ named name rules) :
    ¬ (Status.ofEntry? e.2 = some .todo ∧ Status.ofEntry? f.2 = some .done) := by
  rintro ⟨htodo, hdone⟩
  obtain ⟨x, hx⟩ := List.length_eq_one_iff.mp (Nat.le_antisymm h (List.length_pos_of_mem he))
  rw [hx, List.mem_singleton] at he hf
  rw [he] at htodo
  rw [hf, htodo] at hdone
  exact absurd hdone (by decide)

/-- Where all keys have one text, a plain key is alone exactly if no key has a tag. -/
theorem length_eq_one_iff {top : List (Value × Value)} {v : Value} (hd : distinctKeys top = true)
    (honly : ∀ e ∈ top, e.1.untag = .string "rules") (hg : Gives "rules" v top) :
    top.length = 1 ↔ ∀ e ∈ top, ¬ e.1.IsTagged := by
  have hall : named "rules" top = top :=
    List.filter_eq_self.mpr fun e he =>
      beq_iff_eq.mpr (Value.asString?_eq_some_iff.mpr (honly e he))
  have h := length_named_eq_one_iff hd hg
  rwa [hall] at h

/-- Where all keys name rules, each rule has at most one entry exactly if no key has a twin. -/
theorem oneEntry_iff {c : Catalog} {rules : List (Value × Value)} (hd : distinctKeys rules = true)
    (hnames : ∀ e ∈ rules, NamesRule c e.1) :
    (∀ r ∈ c.rules, (named r.name rules).length ≤ 1) ↔ ∀ name, ¬ Twins name rules := by
  constructor
  · intro h name ht
    obtain ⟨e, f, hs, -, hname, -⟩ := id ht
    obtain ⟨r, hr, hkey⟩ := hnames e (hs.subset List.mem_cons_self)
    obtain rfl : r.name = name := Value.string.inj (hkey.symm.trans hname)
    exact (length_named_le_one_iff hd).mp (h r hr) ht
  · exact fun h r _ => (length_named_le_one_iff hd).mpr (h r.name)

theorem Conforms.unambiguous_iff {c : Catalog} {doc : Value} (h : Conforms c doc)
    (hk : KeysDiffer doc) {top rules : List (Value × Value)} (htop : doc.untag = .mapping top)
    (hrules : Gives "rules" (.mapping rules) top) :
    Unambiguous c top rules ↔ ¬ Disguised top rules := by
  obtain ⟨⟨top', htop', honly⟩, rules', hr', hentries⟩ := h
  obtain rfl : top' = top := Value.mapping.inj (htop'.symm.trans htop)
  obtain rfl : rules' = rules := hr'.unique ⟨top', htop', hrules⟩
  have hktop : KeysDiffer (.mapping top') := htop ▸ hk.untag
  have hkrules : KeysDiffer (.mapping rules') := hktop.value hrules.mem
  -- One equivalence for each level of the document.
  have hone := length_eq_one_iff hktop.distinctKeys honly hrules
  have hentry := oneEntry_iff hkrules.distinctKeys fun e he => (hentries e he).1
  have hfields : ∀ e ∈ rules', ∀ fields, e.2 = .mapping fields →
      (FieldsOnce fields ↔ ¬ FieldDisguised fields) := by
    intro e he fields hf
    exact fieldsOnce_iff (hf ▸ hkrules.value he).distinctKeys (hf ▸ (hentries e he).2)
  constructor
  · intro hu hdis
    cases hdis with
    | top he ht => exact hone.mp hu.oneKey _ he ht
    | rule ht => exact hentry.mp hu.oneEntry _ ht
    | field he hf hdis => exact (hfields _ he _ hf).mp (hu.fields _ he _ hf) hdis
  · intro hn
    have htwins : ∀ name, ¬ Twins name rules' := fun name ht => hn (.rule ht)
    refine ⟨?_, hentry.mpr htwins, fun e he fields hf => ?_, fun name e he f hf => ?_⟩
    · exact hone.mpr fun e he ht => hn (.top he ht)
    · exact (hfields e he fields hf).mpr fun hdis => hn (.field he hf hdis)
    · have hle := (length_named_le_one_iff hkrules.distinctKeys).mpr (htwins name)
      exact oneStatus_of_oneEntry hle he hf

/-- **An accepted document is unambiguous exactly if nothing in it is disguised.** -/
theorem unambiguous_iff_not_disguised {c : Catalog} {text : String} {doc : Value}
    (hread : Value.read? text = .ok doc) (haccepted : Schema.violations c doc = []) :
    ∃ top rules, doc.untag = .mapping top ∧ Gives "rules" (.mapping rules) top ∧
      (Unambiguous c top rules ↔ ¬ Disguised top rules) := by
  have hc := conforms_of_violations_eq_nil haccepted
  obtain ⟨rules, ⟨top, htop, hrules⟩, -⟩ := hc.rules
  exact ⟨top, rules, htop, hrules,
    hc.unambiguous_iff (Yaml.keysDiffer_of_read? hread) htop hrules⟩

/-- A text with tags on keys that are there once. -/
def plainlyTagged : String :=
  "rules:\n  !x brands: todo\n  config-flow: \x7bstatus: done, !y comment: It has one.\x7d\n"

/-- The document of `plainlyTagged`. -/
def plainlyTaggedDoc : Value :=
  .mapping [(.string "rules", .mapping [
    (.tagged "x" (.string "brands"), .string "todo"),
    (.string "config-flow", .mapping [
      (.string "status", .string "done"),
      (.tagged "y" (.string "comment"), .string "It has one.")])])]

theorem unambiguous_iff_not_disguised_plainlyTagged :
    (Value.read? plainlyTagged = .ok plainlyTaggedDoc ∧
      Schema.violations Catalog.standard plainlyTaggedDoc = []) ∧
    ∃ top rules, plainlyTaggedDoc.untag = .mapping top ∧ Gives "rules" (.mapping rules) top ∧
      (Unambiguous Catalog.standard top rules ↔ ¬ Disguised top rules) :=
  have hread : Value.read? plainlyTagged = .ok plainlyTaggedDoc := by decide +kernel
  have haccepted : Schema.violations Catalog.standard plainlyTaggedDoc = [] := rfl
  ⟨⟨hread, haccepted⟩, unambiguous_iff_not_disguised hread haccepted⟩

/-- A text that says everything twice. -/
def saidTwice : String :=
  "rules:\n  config-flow: done\n  !x config-flow: todo\n  brands:\n    status: done\n" ++
    "    !x status: todo\n    comment: one\n    !x comment: 2\n!x rules: 3\n"

/-- The fields of the entry for `brands` in `saidTwice`. -/
def saidTwiceFields : List (Value × Value) :=
  [(.string "status", .string "done"), (.tagged "x" (.string "status"), .string "todo"),
    (.string "comment", .string "one"), (.tagged "x" (.string "comment"), .number (.whole 2))]

/-- The entries of the rules in `saidTwice`. -/
def saidTwiceRules : List (Value × Value) :=
  [(.string "config-flow", .string "done"), (.tagged "x" (.string "config-flow"), .string "todo"),
    (.string "brands", .mapping saidTwiceFields)]

/-- The entries of the document of `saidTwice`. -/
def saidTwiceTop : List (Value × Value) :=
  [(.string "rules", .mapping saidTwiceRules), (.tagged "x" (.string "rules"), .number (.whole 3))]

/-- **An accepted document can be ambiguous.**  It can have two keys, two entries for a rule that
say `todo` and `done`, and two statuses and comments in an entry, one of them no text. -/
theorem accepted_and_ambiguous :
    Value.read? saidTwice = .ok (.mapping saidTwiceTop) ∧
      Schema.violations Catalog.standard (.mapping saidTwiceTop) = [] ∧
      Gives "rules" (.mapping saidTwiceRules) saidTwiceTop ∧
      ¬ Unambiguous Catalog.standard saidTwiceTop saidTwiceRules ∧
      saidTwiceTop.length = 2 ∧
      (named "config-flow" saidTwiceRules).map (fun e => Status.ofEntry? e.2) =
        [some .done, some .todo] ∧
      (named "status" saidTwiceFields).length = 2 ∧
      (named "comment" saidTwiceFields).length = 2 ∧
      ¬ ∀ f ∈ named "comment" saidTwiceFields, ∃ text, f.2 = .string text := by
  refine ⟨by decide +kernel, rfl, .here, fun h => ?_, rfl, rfl, rfl, rfl, fun h => ?_⟩
  · exact absurd h.oneKey (by decide)
  · obtain ⟨text, htext⟩ := h (.tagged "x" (.string "comment"), .number (.whole 2)) (by decide)
    cases htext

end QualityScale.Grammar
