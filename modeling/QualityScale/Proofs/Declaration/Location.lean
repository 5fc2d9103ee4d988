import QualityScale.Catalog.Standard
import QualityScale.Proofs.Declaration.Grammar

/-!
# Where violations are

A violation names a place by the texts of the keys that lead there, and shows what it found.

* `Leads v path w`: keys with the texts `path` lead from the value `v` to the value `w`.
* `Shows cs text`: the text shows the characters `cs`, cut short if there are too many.
* `Located root v`: the violation `v` tells truly where in `root` it is and what is there.
* `located_of_mem_violations`: every violation does.

The walk over a document hands the path down by hand.  So each function that collects violations
has a lemma of its own: if the path that it is given leads to the value that it is given, then all
that it collects is located.
-/

namespace QualityScale.Grammar

open Yaml (Value lookupText)
open Schema

/-! ### Following keys -/

/-- `Leads v path w`: from `v`, keys with the texts `path` lead to `w`.  Tags are not looked
through. -/
inductive Leads : Value → List String → Value → Prop
  | here {v} : Leads v [] v
  | under {entries key v path w} : (key, v) ∈ entries → Leads v path w →
      Leads (.mapping entries) (key.keyText :: path) w

/-- One key more leads to what stands under it. -/
theorem Leads.snoc {root : Value} {path : List String} {entries : List (Value × Value)}
    (h : Leads root path (.mapping entries)) {e : Value × Value} (he : e ∈ entries) :
    Leads root (path ++ [e.1.keyText]) e.2 := by
  generalize hm : Value.mapping entries = m at h
  induction h with
  | here => exact hm ▸ .under he .here
  | under hmem _ ih => exact .under hmem (ih hm)

/-! ### Showing values -/

/-- The text shows the characters: all of them if they are at most 500, and otherwise the first 497
and three dots. -/
inductive Shows (cs : List Char) : String → Prop
  | whole : cs.length ≤ 500 → Shows cs (String.ofList cs)
  | cut : 500 < cs.length → Shows cs (String.ofList (cs.take 497 ++ ['.', '.', '.']))

theorem Shows.length_le {cs : List Char} {text : String} (h : Shows cs text) :
    text.length ≤ 500 := by
  cases h with
  | whole hle => rwa [String.length_ofList]
  | cut hlt =>
    rw [String.length_ofList, List.length_append, List.length_take]
    exact Nat.add_le_add_right (Nat.min_le_left _ _) 3

theorem shows_shown (v : Value) : Shows v.literal v.shown := by
  rw [Value.shown, Yaml.abridge]
  split
  next h => exact .whole h
  next h => exact .cut (Nat.lt_of_not_le h)

theorem literal_untag : ∀ v : Value, v.untag.literal = v.literal
  | .tagged _ v => literal_untag v
  | .null | .bool _ | .number _ | .string _ | .sequence _ | .mapping _ => rfl

/-! ### Located violations -/

/-- **A violation is located in `root`.**  Its path leads to a value, which it shows.  Or it says
that a key is missing: then the path without that key leads to a mapping that does not have it. -/
inductive Located (root : Value) (v : Violation) : Prop
  | found {w} : Leads root v.location w → Shows w.literal v.gotText → Located root v
  | missing {above key entries} : v.problem.message = "required key not provided" →
      v.location = above ++ [key] → Leads root above (.mapping entries) →
      (∀ e ∈ entries, e.1 ≠ .string key) → v.gotText = "None" → Located root v

section Located

variable {root : Value} {path : List Value}

theorem Leads.located {w : Value} (h : Leads root (path.map (·.keyText)) w) (problem : Problem) :
    Located root ⟨path, problem, some w⟩ :=
  .found h (shows_shown w)

section Mapping

variable {entries : List (Value × Value)}

theorem Leads.located_under (h : Leads root (path.map (·.keyText)) (.mapping entries))
    {e : Value × Value} (he : e ∈ entries) (problem : Problem) :
    Located root ⟨path ++ [e.1], problem, some e.2⟩ := by
  refine Leads.located ?_ problem
  rw [List.map_append]
  exact h.snoc he

theorem Leads.located_given (h : Leads root (path.map (·.keyText)) (.mapping entries))
    {key : String} {w : Value} (hw : lookupText key entries = some w) (problem : Problem) :
    Located root ⟨path ++ [.string key], problem, some w⟩ :=
  h.located_under (lookupText_eq_some_iff.mp hw).mem problem

theorem Leads.located_missing (h : Leads root (path.map (·.keyText)) (.mapping entries))
    {key : String} (hnone : lookupText key entries = none) :
    Located root ⟨path ++ [.string key], .missingKey, none⟩ := by
  have hplace : (path ++ [Value.string key]).map (·.keyText) = path.map (·.keyText) ++ [key] :=
    List.map_append
  exact .missing rfl hplace h (lookupText_eq_none_iff.mp hnone) rfl

theorem Leads.located_extraKeys (h : Leads root (path.map (·.keyText)) (.mapping entries))
    {known : List String} {v : Violation} (hv : v ∈ extraKeys path known entries) :
    Located root v := by
  obtain ⟨e, he, rfl⟩ := List.mem_map.mp hv
  exact h.located_under (List.mem_filter.mp he).1 .extraKey

theorem Leads.located_statusViolations (h : Leads root (path.map (·.keyText)) (.mapping entries))
    {v : Violation} (hv : v ∈ statusViolations path (lookupText Status.key entries)) :
    Located root v := by
  generalize hstatus : lookupText Status.key entries = status at hv
  unfold statusViolations at hv
  split at hv
  · obtain rfl := List.mem_singleton.mp hv
    exact h.located_missing hstatus
  · split at hv
    · cases hv
    · obtain rfl := List.mem_singleton.mp hv
      exact h.located_given hstatus .unknownStatus
  · obtain rfl := List.mem_singleton.mp hv
    exact h.located_given hstatus .unknownStatus

theorem Leads.located_commentViolations (h : Leads root (path.map (·.keyText)) (.mapping entries))
    {isExempt : Bool} {v : Violation}
    (hv : v ∈ commentViolations path isExempt (lookupText Status.commentKey entries)) :
    Located root v := by
  generalize hcomment : lookupText Status.commentKey entries = comment at hv
  unfold commentViolations at hv
  split at hv
  · split at hv
    · obtain rfl := List.mem_singleton.mp hv
      exact h.located_missing hcomment
    · cases hv
  · cases hv
  · obtain rfl := List.mem_singleton.mp hv
    exact h.located_given hcomment .commentNotText

theorem Leads.located_detailViolations (h : Leads root (path.map (·.keyText)) (.mapping entries))
    {v : Violation} (hv : v ∈ detailViolations path entries) : Located root v := by
  rw [detailViolations, List.mem_append, List.mem_append] at hv
  rcases hv with (hv | hv) | hv
  · exact h.located_extraKeys hv
  · exact h.located_statusViolations hv
  · exact h.located_commentViolations hv

end Mapping

theorem Leads.located_bareViolations {text : String}
    (h : Leads root (path.map (·.keyText)) (.string text)) {v : Violation}
    (hv : v ∈ bareViolations path text) : Located root v := by
  unfold bareViolations at hv
  split at hv
  · cases hv
  · cases hv
  · obtain rfl := List.mem_singleton.mp hv
    exact h.located .bareExempt
  · obtain rfl := List.mem_singleton.mp hv
    exact h.located .unknownBareStatus

theorem Leads.located_entryViolations {entry : Value}
    (h : Leads root (path.map (·.keyText)) entry) {v : Violation}
    (hv : v ∈ entryViolations path entry) : Located root v := by
  unfold entryViolations at hv
  split at hv
  · exact h.located_bareViolations hv
  · exact h.located_detailViolations hv
  · obtain rfl := List.mem_singleton.mp hv
    exact h.located .noEntry

theorem Leads.located_ruleViolations {rules : List (Value × Value)}
    (h : Leads root [rulesKey] (.mapping rules)) {c : Catalog} {e : Value × Value} (he : e ∈ rules)
    {v : Violation} (hv : v ∈ ruleViolations c e) : Located root v := by
  have hentry : Leads root ([Value.string rulesKey, e.1].map (·.keyText)) e.2 := h.snoc he
  rw [ruleViolations] at hv
  split at hv
  · exact hentry.located_entryViolations hv
  · obtain rfl := List.mem_singleton.mp hv
    exact hentry.located .extraKey

theorem located_rulesViolations {c : Catalog} {top : List (Value × Value)} {v : Violation}
    (hv : v ∈ rulesViolations c (lookupText rulesKey top)) : Located (.mapping top) v := by
  have htop : Leads (.mapping top) (([] : List Value).map (·.keyText)) (.mapping top) := .here
  generalize hrules : lookupText rulesKey top = rules at hv
  unfold rulesViolations at hv
  split at hv
  · obtain rfl := List.mem_singleton.mp hv
    exact htop.located_missing hrules
  · obtain ⟨e, he, hv⟩ := List.mem_flatMap.mp hv
    have hlead := htop.snoc (lookupText_eq_some_iff.mp hrules).mem
    exact hlead.located_ruleViolations he hv
  · obtain rfl := List.mem_singleton.mp hv
    exact htop.located_given hrules .rulesNotADictionary

end Located

theorem Located.length_gotText_le {root : Value} {v : Violation} (h : Located root v) :
    v.gotText.length ≤ 500 := by
  cases h with
  | found _ hshows => exact hshows.length_le
  | missing _ _ _ _ hgot => exact hgot ▸ by decide

/-- **Every violation is truly located**, starting under the tags of the document, and what it shows
has at most 500 characters. -/
theorem located_of_mem_violations {c : Catalog} {doc : Value} {v : Violation}
    (hv : v ∈ violations c doc) : Located doc.untag v ∧ v.gotText.length ≤ 500 := by
  have hlocated : Located doc.untag v := by
    unfold violations at hv
    split at hv
    · obtain rfl := List.mem_singleton.mp hv
      exact .found .here (literal_untag doc ▸ shows_shown doc)
    · next top htop =>
      rw [Value.asMapping?_eq_some_iff.mp htop]
      rcases List.mem_append.mp hv with hv | hv
      · have htop : Leads (.mapping top) (([] : List Value).map (·.keyText)) _ := .here
        exact htop.located_extraKeys hv
      · exact located_rulesViolations hv
  exact ⟨hlocated, hlocated.length_gotText_le⟩

/-- A document with a tag, a key that is a list, and an entry without a status. -/
def listKeyed : Value :=
  .tagged "scale" (.mapping [(.sequence [.string "a", .tagged "b" .null], .string "x"),
    (.string "rules", .mapping [(.string "brands", .mapping [])])])

/-- The violations in `listKeyed`. -/
def listKeyedViolations : List Violation := [
  ⟨[.sequence [.string "a", .tagged "b" .null]], .extraKey, some (.string "x")⟩,
  ⟨[.string "rules", .string "brands", .string "status"], .missingKey, none⟩]

theorem located_of_mem_violations_listKeyed :
    violations Catalog.standard listKeyed = listKeyedViolations ∧
      listKeyedViolations.map (·.location) = [["['a', None]"], ["rules", "brands", "status"]] ∧
      (Located listKeyed.untag listKeyedViolations[0] ∧
        listKeyedViolations[0].gotText.length ≤ 500) ∧
      (Located listKeyed.untag listKeyedViolations[1] ∧
        listKeyedViolations[1].gotText.length ≤ 500) := by
  have hlist : violations Catalog.standard listKeyed = listKeyedViolations := rfl
  have hmem : ∀ v ∈ listKeyedViolations, v ∈ violations Catalog.standard listKeyed :=
    fun v hv => hlist ▸ hv
  refine ⟨hlist, by decide +kernel, ?_, ?_⟩
  · exact located_of_mem_violations (hmem _ (List.getElem_mem _))
  · exact located_of_mem_violations (hmem _ (List.getElem_mem _))

end QualityScale.Grammar
