import Mathlib.Logic.Relation
import QualityScale.Catalog.Standard
import QualityScale.Checker
import QualityScale.Proofs.Declaration.Agreement

/-!
# Edits that the classification does not see

A document can be edited in many ways that leave alone which rules are met and which are done,
although the schema may have something to say about them.

* `EditBeside key es es'`: an entry is added, removed or changed, but not one with the plain key
  `key`.
* `RulesEdit rules rules'`: the rules stand in another order, or one of them has other fields beside
  its status.
* `TopEdit top top'`: an edit beside the plain key `rules`, or of the rules under it.
* `Edit doc doc'`: such an edit of a document, tags on the document aside.

`Edit.statuses_perm` says that one edit leaves the statuses of the document as they were, in some
order.  So any number of them leaves the classification as it was, and with it the failures of
validators and the tiers that fall short (`classification_eq_of_edits`).
-/

namespace QualityScale.Grammar

open Yaml (Value lookupText)
open Classification (ruleEntries namedStatus? statuses ofDocument)

/-! ### One edit -/

/-- **An edit of entries beside a key**: one entry is added, removed or changed.  Neither it nor what
it becomes has the plain key. -/
inductive EditBeside (key : String) : List (Value × Value) → List (Value × Value) → Prop
  | add {e} (before after : List (Value × Value)) : e.1 ≠ .string key →
      EditBeside key (before ++ after) (before ++ e :: after)
  | remove {e} (before after : List (Value × Value)) : e.1 ≠ .string key →
      EditBeside key (before ++ e :: after) (before ++ after)
  | change {e e'} (before after : List (Value × Value)) : e.1 ≠ .string key → e'.1 ≠ .string key →
      EditBeside key (before ++ e :: after) (before ++ e' :: after)

/-- **An edit of the rules**: they are put in another order, or the fields of one that is a mapping
without a tag are edited beside its status. -/
inductive RulesEdit : List (Value × Value) → List (Value × Value) → Prop
  | reorder {rules rules'} : rules.Perm rules' → RulesEdit rules rules'
  | field {key fields fields'} (before after : List (Value × Value)) :
      EditBeside "status" fields fields' →
      RulesEdit (before ++ (key, .mapping fields) :: after)
        (before ++ (key, .mapping fields') :: after)

/-- An edit of the entries of a mapping, tags on the mapping aside. -/
inductive UnderTags (edit : List (Value × Value) → List (Value × Value) → Prop) :
    Value → Value → Prop
  | here {es es'} : edit es es' → UnderTags edit (.mapping es) (.mapping es')
  | tagged {v v'} (tag : String) : UnderTags edit v v' →
      UnderTags edit (.tagged tag v) (.tagged tag v')

/-- **An edit of the entries of a document**: beside the rules, or of the rules. -/
inductive TopEdit : List (Value × Value) → List (Value × Value) → Prop
  | beside {top top'} : EditBeside "rules" top top' → TopEdit top top'
  | rules {v v'} (before after : List (Value × Value)) : UnderTags RulesEdit v v' →
      TopEdit (before ++ (.string "rules", v) :: after)
        (before ++ (.string "rules", v') :: after)

/-- **An edit of a document that touches no status.** -/
def Edit : Value → Value → Prop :=
  UnderTags TopEdit

/-! ### What an edit leaves alone -/

theorem lookupText_append (key : String) (es fs : List (Value × Value)) :
    lookupText key (es ++ fs) = (lookupText key es).or (lookupText key fs) := by
  induction es with
  | nil => rfl
  | cons e es ih =>
    obtain ⟨k, v⟩ := e
    rw [List.cons_append]
    by_cases hk : k = .string key
    · subst hk
      rw [lookupText_cons_self, lookupText_cons_self, Option.some_or]
    · rw [lookupText_cons_of_ne hk, lookupText_cons_of_ne hk, ih]

/-- An edit beside a key leaves what stands under it alone. -/
theorem EditBeside.lookupText_eq {key : String} {es es' : List (Value × Value)}
    (h : EditBeside key es es') : lookupText key es = lookupText key es' := by
  cases h with
  | add before after he =>
    rw [lookupText_append, lookupText_append, lookupText_cons_of_ne he]
  | remove before after he =>
    rw [lookupText_append, lookupText_append, lookupText_cons_of_ne he]
  | change before after he he' =>
    rw [lookupText_append, lookupText_append, lookupText_cons_of_ne he, lookupText_cons_of_ne he']

/-- An edit of the fields beside the status leaves the status of the entry alone. -/
theorem EditBeside.namedStatus?_eq {key : Value} {fields fields' : List (Value × Value)}
    (h : EditBeside "status" fields fields') :
    namedStatus? (key, .mapping fields) = namedStatus? (key, .mapping fields') := by
  have hstatus : lookupText Status.key fields = lookupText Status.key fields' := h.lookupText_eq
  rw [namedStatus?, namedStatus?, Status.ofEntry?, Status.ofEntry?, hstatus]

theorem RulesEdit.statuses_perm {rules rules' : List (Value × Value)} (h : RulesEdit rules rules') :
    (rules.filterMap namedStatus?).Perm (rules'.filterMap namedStatus?) := by
  cases h with
  | reorder hperm => exact hperm.filterMap _
  | field before after hfields =>
    rw [List.filterMap_append, List.filterMap_append, List.filterMap_cons, List.filterMap_cons,
      hfields.namedStatus?_eq]

/-- What is edited under tags are the entries that are found when the tags are looked through. -/
theorem UnderTags.exists_untag {edit : List (Value × Value) → List (Value × Value) → Prop}
    {v v' : Value} (h : UnderTags edit v v') :
    ∃ es es', v.untag = .mapping es ∧ v'.untag = .mapping es' ∧ edit es es' := by
  induction h with
  | here hedit => exact ⟨_, _, rfl, rfl, hedit⟩
  | tagged tag _ ih => exact ih

/-- The entries of the rules among the entries of a document. -/
def entriesOfRules (top : List (Value × Value)) : List (Value × Value) :=
  ((lookupText "rules" top).bind (·.asMapping?)).getD []

theorem ruleEntries_of_untag {doc : Value} {top : List (Value × Value)}
    (htop : doc.untag = .mapping top) : ruleEntries doc = entriesOfRules top := by
  rw [ruleEntries, Value.get?, Value.asMapping?_eq_some_iff.mpr htop]
  rfl

theorem TopEdit.statuses_perm {top top' : List (Value × Value)} (h : TopEdit top top') :
    ((entriesOfRules top).filterMap namedStatus?).Perm
      ((entriesOfRules top').filterMap namedStatus?) := by
  cases h with
  | beside hbeside => rw [entriesOfRules, entriesOfRules, hbeside.lookupText_eq]
  | rules before after hrules =>
    obtain ⟨rules, rules', hv, hv', hedit⟩ := hrules.exists_untag
    rw [entriesOfRules, entriesOfRules, lookupText_append, lookupText_append]
    -- An earlier entry with the plain key would hide the one that is edited.
    cases lookupText "rules" before with
    | some w => exact .refl _
    | none =>
      rw [Option.none_or, Option.none_or, lookupText_cons_self, lookupText_cons_self,
        Option.bind_some, Option.bind_some, Value.asMapping?_eq_some_iff.mpr hv,
        Value.asMapping?_eq_some_iff.mpr hv']
      exact hedit.statuses_perm

/-- **One edit leaves the statuses of a document as they are, in some order.** -/
theorem Edit.statuses_perm {doc doc' : Value} (h : Edit doc doc') :
    (statuses doc).Perm (statuses doc') := by
  obtain ⟨top, top', htop, htop', hedit⟩ := h.exists_untag
  rw [statuses, statuses, ruleEntries_of_untag htop, ruleEntries_of_untag htop']
  exact hedit.statuses_perm

/-! ### Any number of edits -/

theorem statuses_perm_of_edits {doc doc' : Value} (h : Relation.ReflTransGen Edit doc doc') :
    (statuses doc).Perm (statuses doc') := by
  induction h with
  | refl => exact .refl _
  | tail _ hedit ih => exact ih.trans hedit.statuses_perm

theorem namesWith_eq_of_perm (p : Status → Bool) {ss ts : List (String × Status)}
    (h : ss.Perm ts) : Classification.namesWith p ss = Classification.namesWith p ts := by
  apply NameSet.ext
  intro name
  simp only [Classification.mem_namesWith, h.mem_iff]

/-- **A checker reports the same about two documents**, after what it says about their violations of
the schema. -/
def ReportAlike (c : Checker) (config : Config) (files : FileTree) (i : Integration)
    (doc doc' : Value) : Prop :=
  ∃ found : List String,
    (c.judge config files i doc).messages i =
        Verdict.schemaMessages i (Schema.violations c.catalog doc) ++ found ∧
      (c.judge config files i doc').messages i =
        Verdict.schemaMessages i (Schema.violations c.catalog doc') ++ found

theorem reportAlike_of_classification_eq {doc doc' : Value} (h : ofDocument doc' = ofDocument doc)
    (c : Checker) (config : Config) (files : FileTree) (i : Integration) :
    ReportAlike c config files i doc doc' := by
  refine ⟨_, List.append_assoc .., ?_⟩
  simp only [Checker.judge, Verdict.messages, h, List.append_assoc]

/-- **Edits that touch no status are not seen.**  They leave the rules that are met and those that
are done as they were, and so, for every checker and integration, the failures of validators and the
tiers that fall short.  What a checker reports differs at most in what it says about the schema, and
whether the schema accepts the documents makes no difference. -/
theorem classification_eq_of_edits {doc doc' : Value} (h : Relation.ReflTransGen Edit doc doc') :
    ofDocument doc' = ofDocument doc ∧
      ∀ (c : Checker) (config : Config) (files : FileTree) (i : Integration),
        failures c.catalog config files i (ofDocument doc').done =
            failures c.catalog config files i (ofDocument doc).done ∧
          shortfalls c.catalog (ofDocument doc').met i.declaredTier =
            shortfalls c.catalog (ofDocument doc).met i.declaredTier ∧
          ReportAlike c config files i doc doc' := by
  have hsame : ofDocument doc' = ofDocument doc := by
    have hperm := statuses_perm_of_edits h
    rw [ofDocument, ofDocument, namesWith_eq_of_perm _ hperm, namesWith_eq_of_perm _ hperm]
  refine ⟨hsame, ?_⟩
  intro c config files i
  refine ⟨?_, ?_, reportAlike_of_classification_eq hsame c config files i⟩
  · rw [hsame]
  · rw [hsame]

/-- The fields of a rule that is done, with a comment. -/
def flowFields : List (Value × Value) :=
  [(.string "status", .string "done"), (.string "comment", .string "It has one.")]

/-- The same fields with a comment that is no text, and another status under a tag. -/
def tamperedFields : List (Value × Value) :=
  [(.string "status", .string "done"), (.string "comment", .number (.whole 42)),
    (.tagged "x" (.string "status"), .string "todo")]

/-- The entries of two rules, the first of which has these fields. -/
def twoRules (fields : List (Value × Value)) : List (Value × Value) :=
  [(.string "config-flow", .mapping fields), (.string "brands", .string "todo")]

/-- The entries of a document with a version and these rules. -/
def versioned (rules : List (Value × Value)) : List (Value × Value) :=
  [(.string "version", .number (.whole 2)), (.string "rules", .mapping rules)]

/-- A declaration. -/
def untouched : Value :=
  .tagged "scale" (.mapping [(.string "rules", .mapping (twoRules flowFields))])

/-- The same declaration after one edit of each kind. -/
def tampered : Value :=
  .tagged "scale" (.mapping (versioned (twoRules tamperedFields).reverse))

theorem edits_tampered : Relation.ReflTransGen Edit untouched tampered := by
  have hversion : TopEdit [(.string "rules", .mapping (twoRules flowFields))]
      (versioned (twoRules flowFields)) :=
    .beside (.add [] _ (by decide))
  have hcomment : TopEdit (versioned (twoRules flowFields))
      (versioned (twoRules (tamperedFields.take 2))) :=
    .rules [_] [] (.here (.field [] _ (.change [_] [] (by decide) (by decide))))
  have hstatus : TopEdit (versioned (twoRules (tamperedFields.take 2)))
      (versioned (twoRules tamperedFields)) :=
    .rules [_] [] (.here (.field [] _ (.add [_, _] [] (by decide))))
  have horder : TopEdit (versioned (twoRules tamperedFields))
      (versioned (twoRules tamperedFields).reverse) :=
    .rules [_] [] (.here (.reorder (List.reverse_perm _).symm))
  exact .tail (.tail (.tail (.single (.tagged _ (.here hversion))) (.tagged _ (.here hcomment)))
    (.tagged _ (.here hstatus))) (.tagged _ (.here horder))

theorem classification_eq_of_edits_tampered :
    Relation.ReflTransGen Edit untouched tampered ∧
    (ofDocument tampered = ofDocument untouched ∧
      ∀ (c : Checker) (config : Config) (files : FileTree) (i : Integration),
        failures c.catalog config files i (ofDocument tampered).done =
            failures c.catalog config files i (ofDocument untouched).done ∧
          shortfalls c.catalog (ofDocument tampered).met i.declaredTier =
            shortfalls c.catalog (ofDocument untouched).met i.declaredTier ∧
          ReportAlike c config files i untouched tampered) ∧
    Schema.violations Catalog.standard untouched = [] ∧
    (Schema.violations Catalog.standard tampered).map (·.location) =
      [["version"], ["rules", "config-flow", "comment"]] ∧
    "config-flow" ∈ (ofDocument tampered).done :=
  ⟨edits_tampered, classification_eq_of_edits edits_tampered, rfl, rfl, by decide⟩

end QualityScale.Grammar
