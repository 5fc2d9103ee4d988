import QualityScale.Catalog.Standard
import QualityScale.Proofs.Declaration.Grammar
import QualityScale.Proofs.Yaml.KeyPaths

/-!
# The order of violations

The schema goes over the entries of a mapping in several passes.  At the top it looks for other keys
first and at the rules then; in an entry of a rule it looks for other keys, at the status, and at
the comment.  What one pass finds comes in the order of the keys, but it all comes before what the
next pass finds.

* `InOrder paths vs`: no violation comes after one about a later key.
* `Ascends fault entries`: entries in which later passes find faults come later.
* `Finds above entries n pass fault`: the passes over a mapping find just these faults.
* `Finds.inOrder_iff`: what they find is in order exactly if the faults ascend, and each pass is in
  order by itself.
* `FieldFault`, `EntryFault`, `TopFault`: the faults of a field, of an entry and at the top.
* `violations_inOrder_iff`: so the violations in a document are in its order exactly if the faults
  ascend in every mapping.  They need not (`violations_not_inOrder`).
-/

namespace QualityScale.Grammar

open Yaml (Value KeysDiffer StandsAt lookupText keyPaths entryPaths blockPaths)
open Schema

/-! ### Passes over a mapping -/

/-- **The violations come in the order of the keys**: none comes after one about a later key.  A
violation about a key that is not there may come anywhere. -/
def InOrder (paths : List (List Value)) (vs : List Violation) : Prop :=
  vs.Pairwise fun v w => ¬ [w.path, v.path].Sublist paths

instance (paths : List (List Value)) (vs : List Violation) : Decidable (InOrder paths vs) :=
  inferInstanceAs (Decidable (List.Pairwise _ vs))

/-- **The faults of the entries ascend**: no entry comes after one with a fault of a later pass. -/
def Ascends (fault : Nat → Value × Value → Prop) (entries : List (Value × Value)) : Prop :=
  entries.Pairwise fun e f => ∀ i j, fault i e → fault j f → i ≤ j

/-- **The passes over a mapping find these faults.**  The mapping stands at the path `above`, there
are `n` passes, and each finds violations about some of the entries or what is under them. -/
structure Finds (above : List Value) (entries : List (Value × Value)) (n : Nat)
    (pass : Nat → List Violation) (fault : Nat → Value × Value → Prop) : Prop where
  path : ∀ i, ∀ v ∈ pass i, ∃ key rest, v.path = above ++ key :: rest
  fault_iff : ∀ i, ∀ e ∈ entries,
    fault i e ↔ i < n ∧ ∃ v ∈ pass i, v.path ∈ blockPaths above e
  /-- An entry has a fault of one pass only. -/
  one : ∀ e i j, fault i e → fault j e → i = j

section Passes

variable {paths : List (List Value)} {above : List Value} {entries : List (Value × Value)}

theorem pairwise_range_iff {n : Nat} {R : Nat → Nat → Prop} :
    (List.range n).Pairwise R ↔ ∀ i j, i < j → j < n → R i j := by
  rw [List.pairwise_iff_getElem]
  simp only [List.length_range, List.getElem_range]
  exact ⟨fun h i j hij hj => h i j (Nat.lt_trans hij hj) hj hij, fun h i j _ hj hij => h i j hij hj⟩

/-- Violations that are all about one key are in order. -/
theorem inOrder_of_same_path (hnodup : paths.Nodup) {vs : List Violation} {path : List Value}
    (h : ∀ v ∈ vs, v.path = path) : InOrder paths vs := by
  apply List.pairwise_iff_forall_sublist.mpr
  intro v w hvw hpaths
  obtain ⟨hv, hw⟩ := Yaml.mem_of_pair_sublist hvw
  rw [h v hv, h w hw] at hpaths
  exact absurd (hnodup.sublist hpaths) (by simp)

namespace Finds

variable {n : Nat} {pass : Nat → List Violation} {fault : Nat → Value × Value → Prop}

theorem exists_block (h : Finds above entries n pass fault) (hs : StandsAt paths above entries)
    {i : Nat} {v : Violation} (hv : v ∈ pass i) (hmem : v.path ∈ paths) :
    ∃ e ∈ entries, v.path ∈ blockPaths above e := by
  obtain ⟨key, rest, hpath⟩ := h.path i v hv
  rw [hpath] at hmem ⊢
  exact hs.exists_block hmem

/-- **What the passes find is in order exactly if each pass is and the faults ascend.** -/
theorem inOrder_iff (h : Finds above entries n pass fault) (hs : StandsAt paths above entries) :
    InOrder paths ((List.range n).flatMap pass) ↔
      (∀ i, i < n → InOrder paths (pass i)) ∧ Ascends fault entries := by
  rw [InOrder, List.pairwise_flatMap, pairwise_range_iff]
  simp only [List.mem_range]
  refine and_congr_right fun _ => ?_
  constructor
  · intro hcross
    apply List.pairwise_iff_forall_sublist.mpr
    intro e f hef i j hi hj
    obtain ⟨he, hf⟩ := Yaml.mem_of_pair_sublist hef
    -- Otherwise what is found at `e` would be listed after what is found at `f`.
    by_contra hlt
    obtain ⟨hin, v, hv, hve⟩ := (h.fault_iff i e he).mp hi
    obtain ⟨-, w, hw, hwf⟩ := (h.fault_iff j f hf).mp hj
    exact hcross j i (Nat.lt_of_not_le hlt) hin w hw v hv (hs.before hef hve hwf)
  · intro hasc i j hij hjn w hw v hv hbefore
    obtain ⟨hvpaths, hwpaths⟩ := Yaml.mem_of_pair_sublist hbefore
    obtain ⟨e, he, hve⟩ := h.exists_block hs hv hvpaths
    obtain ⟨f, hf, hwf⟩ := h.exists_block hs hw hwpaths
    have hj : fault j e := (h.fault_iff j e he).mpr ⟨hjn, v, hv, hve⟩
    have hi : fault i f := (h.fault_iff i f hf).mpr ⟨Nat.lt_trans hij hjn, w, hw, hwf⟩
    rcases hs.eq_or_before he hf hve hwf hbefore with rfl | hef
    · exact absurd (h.one e i j hi hj) (Nat.ne_of_lt hij)
    · have hle : j ≤ i := List.pairwise_iff_forall_sublist.mp hasc hef j i hj hi
      omega

/-- Something is found about a key that is there exactly if an entry has a fault. -/
theorem exists_iff (h : Finds above entries n pass fault) :
    (∃ v ∈ (List.range n).flatMap pass, v.path ∈ entryPaths above entries) ↔
      ∃ i, ∃ e ∈ entries, fault i e := by
  simp only [List.mem_flatMap, List.mem_range, Yaml.mem_entryPaths]
  constructor
  · rintro ⟨v, ⟨i, hi, hv⟩, e, he, hve⟩
    exact ⟨i, e, he, (h.fault_iff i e he).mpr ⟨hi, v, hv, hve⟩⟩
  · rintro ⟨i, e, he, hfault⟩
    obtain ⟨hi, v, hv, hve⟩ := (h.fault_iff i e he).mp hfault
    exact ⟨v, ⟨i, hi, hv⟩, e, he, hve⟩

end Finds

/-- One pass that looks at each entry by itself is in order exactly if it is at each. -/
theorem inOrder_flatMap_iff (hs : StandsAt paths above entries)
    {found : Value × Value → List Violation}
    (hpath : ∀ e ∈ entries, ∀ v ∈ found e, ∃ rest, v.path = above ++ e.1 :: rest) :
    InOrder paths (entries.flatMap found) ↔ ∀ e ∈ entries, InOrder paths (found e) := by
  have hblock : ∀ e ∈ entries, ∀ v ∈ found e, v.path ∈ paths → v.path ∈ blockPaths above e := by
    intro e he v hv hmem
    obtain ⟨rest, hrest⟩ := hpath e he v hv
    rw [hrest] at hmem ⊢
    exact hs.mem_block he hmem
  rw [InOrder, List.pairwise_flatMap]
  apply and_iff_left
  apply List.pairwise_iff_forall_sublist.mpr
  intro e f hef v hv w hw hbefore
  obtain ⟨he, hf⟩ := Yaml.mem_of_pair_sublist hef
  obtain ⟨hwpaths, hvpaths⟩ := Yaml.mem_of_pair_sublist hbefore
  have hve : v.path ∈ blockPaths above e := hblock e he v hv hvpaths
  have hwf : w.path ∈ blockPaths above f := hblock f hf w hw hwpaths
  exact Yaml.not_pair_sublist_swap hs.nodup (hs.before hef hve hwf) hbefore

theorem exists_mem_blockPaths_iff {key : Value} {vs : List Violation}
    (h : ∀ v ∈ vs, v.path = above ++ [key]) {e : Value × Value} :
    (∃ v ∈ vs, v.path ∈ blockPaths above e) ↔ e.1 = key ∧ vs ≠ [] := by
  constructor
  · rintro ⟨v, hv, hmem⟩
    rw [h v hv, Yaml.mem_blockPaths_iff] at hmem
    exact ⟨hmem, List.ne_nil_of_mem hv⟩
  · rintro ⟨hkey, hne⟩
    obtain ⟨v, hv⟩ := List.exists_mem_of_ne_nil vs hne
    exact ⟨v, hv, by rwa [h v hv, Yaml.mem_blockPaths_iff]⟩

theorem lookupText_eq_of_mem (hs : StandsAt paths above entries) {e : Value × Value}
    (he : e ∈ entries) {key : String} (hkey : e.1 = .string key) :
    lookupText key entries = some e.2 := by
  rcases hlookup : lookupText key entries with _ | w
  · exact absurd hkey (lookupText_eq_none_iff.mp hlookup e he)
  · rw [hs.eq_of_key_eq he (lookupText_eq_some_iff.mp hlookup).mem hkey]

/-! ### Other keys -/

theorem mem_extraKeys_iff {known : List String} {v : Violation} :
    v ∈ extraKeys above known entries ↔
      ∃ e ∈ entries, (∀ key ∈ known, e.1.untag ≠ .string key) ∧
        v = ⟨above ++ [e.1], .extraKey, some e.2⟩ := by
  rw [extraKeys, List.mem_map]
  constructor
  · rintro ⟨e, he, rfl⟩
    obtain ⟨he, hextra⟩ := List.mem_filter.mp he
    exact ⟨e, he, isExtra_iff.mp hextra, rfl⟩
  · rintro ⟨e, he, hextra, rfl⟩
    exact ⟨e, List.mem_filter.mpr ⟨he, isExtra_iff.mpr hextra⟩, rfl⟩

theorem exists_extraKey_iff {known : List String} {e : Value × Value} (he : e ∈ entries) :
    (∃ v ∈ extraKeys above known entries, v.path ∈ blockPaths above e) ↔
      ∀ key ∈ known, e.1.untag ≠ .string key := by
  constructor
  · rintro ⟨v, hv, hmem⟩
    obtain ⟨f, -, hextra, rfl⟩ := mem_extraKeys_iff.mp hv
    rwa [Yaml.mem_blockPaths_iff.mp hmem]
  · intro hextra
    exact ⟨_, mem_extraKeys_iff.mpr ⟨e, he, hextra, rfl⟩, Yaml.mem_blockPaths_iff.mpr rfl⟩

theorem inOrder_extraKeys (hs : StandsAt paths above entries) {known : List String} :
    InOrder paths (extraKeys above known entries) := by
  apply List.pairwise_map.mpr
  apply List.Pairwise.filter
  apply List.pairwise_iff_forall_sublist.mpr
  intro e f hef
  have hbefore : [above ++ [e.1], above ++ [f.1]].Sublist paths :=
    hs.before hef (Yaml.mem_blockPaths_iff.mpr rfl) (Yaml.mem_blockPaths_iff.mpr rfl)
  exact Yaml.not_pair_sublist_swap hs.nodup hbefore

end Passes

/-! ### Fields -/

/-- **The fault of a field of an entry**, and the pass that finds it: another key, a status that is
none, or a comment that is no text. -/
inductive FieldFault : Nat → Value × Value → Prop
  | extra {f} : f.1.untag ≠ .string "status" → f.1.untag ≠ .string "comment" → FieldFault 0 f
  | status {f} : f.1 = .string "status" → (∀ s : Status, f.2 ≠ .string s.name) → FieldFault 1 f
  | comment {f} : f.1 = .string "comment" → (∀ text, f.2 ≠ .string text) → FieldFault 2 f

/-- What the passes over the fields of an entry find. -/
def fieldPass (path : List Value) (fields : List (Value × Value)) : Nat → List Violation
  | 0 => extraKeys path [Status.key, Status.commentKey] fields
  | 1 => statusViolations path (lookupText Status.key fields)
  | 2 => commentViolations path
      ((lookupText Status.key fields).any (·.isText Status.exempt.name))
      (lookupText Status.commentKey fields)
  | _ => []

section Fields

variable {paths : List (List Value)} {path : List Value} {fields : List (Value × Value)}

theorem detailViolations_eq :
    detailViolations path fields = (List.range 3).flatMap (fieldPass path fields) := by
  simp [List.range_succ, detailViolations, fieldPass]

theorem path_of_mem_statusViolations {status : Option Value} {v : Violation}
    (hv : v ∈ statusViolations path status) : v.path = path ++ [.string "status"] := by
  unfold statusViolations at hv
  split at hv
  · rw [List.mem_singleton.mp hv]; rfl
  · split at hv
    · cases hv
    · rw [List.mem_singleton.mp hv]; rfl
  · rw [List.mem_singleton.mp hv]; rfl

theorem path_of_mem_commentViolations {isExempt : Bool} {comment : Option Value} {v : Violation}
    (hv : v ∈ commentViolations path isExempt comment) : v.path = path ++ [.string "comment"] := by
  unfold commentViolations at hv
  split at hv
  · split at hv
    · rw [List.mem_singleton.mp hv]; rfl
    · cases hv
  · cases hv
  · rw [List.mem_singleton.mp hv]; rfl

theorem exists_path_of_mem_fieldPass (i : Nat) {v : Violation} (hv : v ∈ fieldPass path fields i) :
    ∃ key rest, v.path = path ++ key :: rest := by
  match i with
  | 0 =>
    obtain ⟨f, -, -, rfl⟩ := mem_extraKeys_iff.mp hv
    exact ⟨f.1, [], rfl⟩
  | 1 => exact ⟨_, [], path_of_mem_statusViolations hv⟩
  | 2 => exact ⟨_, [], path_of_mem_commentViolations hv⟩
  | i + 3 => cases hv

theorem exists_path_of_mem_detailViolations {v : Violation}
    (hv : v ∈ detailViolations path fields) : ∃ key rest, v.path = path ++ key :: rest := by
  rw [detailViolations_eq] at hv
  obtain ⟨i, -, hv⟩ := List.mem_flatMap.mp hv
  exact exists_path_of_mem_fieldPass i hv

theorem fieldFault_zero_iff {f : Value × Value} :
    FieldFault 0 f ↔ ∀ key ∈ [Status.key, Status.commentKey], f.1.untag ≠ .string key := by
  rw [List.forall_mem_cons, List.forall_mem_singleton]
  constructor
  · rintro ⟨hstatus, hcomment⟩
    exact ⟨hstatus, hcomment⟩
  · exact fun h => .extra h.1 h.2

theorem fieldFault_one_iff (path : List Value) {f : Value × Value} :
    FieldFault 1 f ↔ f.1 = .string "status" ∧ statusViolations path (some f.2) ≠ [] := by
  rw [Ne, statusViolations_eq_nil_iff]
  constructor
  · rintro (_ | ⟨hkey, hstatus⟩)
    exact ⟨hkey, fun ⟨s, hs⟩ => hstatus s (Option.some.inj hs)⟩
  · rintro ⟨hkey, hstatus⟩
    exact .status hkey fun s hs => hstatus ⟨s, congrArg some hs⟩

theorem fieldFault_two_iff (path : List Value) (isExempt : Bool) {f : Value × Value} :
    FieldFault 2 f ↔
      f.1 = .string "comment" ∧ commentViolations path isExempt (some f.2) ≠ [] := by
  have hnil : commentViolations path isExempt (some f.2) = [] ↔ ∃ text, f.2 = .string text := by
    rw [commentViolations_eq_nil_iff]
    exact ⟨fun h => h.1 f.2 rfl,
      fun h => ⟨fun v hv => Option.some.inj hv ▸ h, fun _ => ⟨f.2, rfl⟩⟩⟩
  rw [Ne, hnil]
  constructor
  · rintro (_ | _ | ⟨hkey, htext⟩)
    exact ⟨hkey, fun ⟨text, h⟩ => htext text h⟩
  · rintro ⟨hkey, htext⟩
    exact .comment hkey fun text h => htext ⟨text, h⟩

theorem FieldFault.lt {i : Nat} {f : Value × Value} (h : FieldFault i f) : i < 3 := by
  cases h <;> decide

/-- **The passes over the fields find the faults of fields.** -/
theorem finds_fields (hs : StandsAt paths path fields) :
    Finds path fields 3 (fieldPass path fields) FieldFault where
  path := fun i v hv => exists_path_of_mem_fieldPass i hv
  fault_iff := by
    intro i f hf
    match i with
    | 0 =>
      rw [fieldPass, exists_extraKey_iff hf, fieldFault_zero_iff,
        and_iff_right (show 0 < 3 by decide)]
    | 1 =>
      rw [fieldPass, exists_mem_blockPaths_iff fun v => path_of_mem_statusViolations,
        fieldFault_one_iff path, and_iff_right (show 1 < 3 by decide)]
      apply and_congr_right
      intro hkey
      have hlookup : lookupText Status.key fields = some f.2 := lookupText_eq_of_mem hs hf hkey
      rw [hlookup]
    | 2 =>
      rw [fieldPass, exists_mem_blockPaths_iff fun v => path_of_mem_commentViolations,
        fieldFault_two_iff path _, and_iff_right (show 2 < 3 by decide)]
      apply and_congr_right
      intro hkey
      have hlookup : lookupText Status.commentKey fields = some f.2 :=
        lookupText_eq_of_mem hs hf hkey
      rw [hlookup]
    | i + 3 =>
      apply iff_of_false
      · intro hfault
        have hlt : i + 3 < 3 := hfault.lt
        omega
      · rintro ⟨hlt, -⟩
        omega
  one := by
    intro f i j hi hj
    cases hi with
    | extra hstatus hcomment =>
      cases hj with
      | extra => rfl
      | status hkey => exact absurd (congrArg Value.untag hkey) hstatus
      | comment hkey => exact absurd (congrArg Value.untag hkey) hcomment
    | status hkey =>
      cases hj with
      | extra hstatus => exact absurd (congrArg Value.untag hkey) hstatus
      | status => rfl
      | comment hkey' => exact absurd (Value.string.inj (hkey.symm.trans hkey')) (by decide)
    | comment hkey =>
      cases hj with
      | extra _ hcomment => exact absurd (congrArg Value.untag hkey) hcomment
      | status hkey' => exact absurd (Value.string.inj (hkey.symm.trans hkey')) (by decide)
      | comment => rfl

/-- **What is found in an entry is in order exactly if the faults of its fields ascend.** -/
theorem inOrder_detailViolations_iff (hs : StandsAt paths path fields) :
    InOrder paths (detailViolations path fields) ↔ Ascends FieldFault fields := by
  rw [detailViolations_eq, (finds_fields hs).inOrder_iff hs]
  refine and_iff_right fun i hi => ?_
  match i with
  | 0 => exact inOrder_extraKeys hs
  | 1 => exact inOrder_of_same_path hs.nodup fun v => path_of_mem_statusViolations
  | 2 => exact inOrder_of_same_path hs.nodup fun v => path_of_mem_commentViolations

end Fields

/-! ### Entries of rules -/

/-- **The fault of an entry of a rule**, in a key that is there: that of the entry, which names no
rule or is neither a status nor a mapping, or that of a field of the mapping. -/
inductive EntryFault (c : Catalog) (e : Value × Value) : Prop
  | unknown : ¬ NamesRule c e.1 → EntryFault c e
  | bare : NamesRule c e.1 → (∀ fields, e.2 ≠ .mapping fields) → ¬ EntryForm e.2 → EntryFault c e
  | field {fields i f} : NamesRule c e.1 → e.2 = .mapping fields → f ∈ fields → FieldFault i f →
      EntryFault c e

section Entries

variable {c : Catalog} {paths : List (List Value)} {rules fields : List (Value × Value)}
  {e : Value × Value} {v : Violation}

theorem ruleViolations_of_mapping (hnames : NamesRule c e.1) (he : e.2 = .mapping fields) :
    ruleViolations c e = detailViolations ([.string rulesKey] ++ [e.1]) fields := by
  rw [ruleViolations, if_pos (namesRule_iff.mp hnames), he]
  rfl

theorem path_of_mem_bareViolations {path : List Value} {text : String}
    (hv : v ∈ bareViolations path text) : v.path = path := by
  unfold bareViolations at hv
  split at hv
  · cases hv
  · cases hv
  · rw [List.mem_singleton.mp hv]
  · rw [List.mem_singleton.mp hv]

/-- Unless there are fields to look at, what is found in an entry is about its key. -/
theorem path_of_mem_ruleViolations
    (h : ∀ fields, ¬ (NamesRule c e.1 ∧ e.2 = .mapping fields)) (hv : v ∈ ruleViolations c e) :
    v.path = [.string rulesKey] ++ [e.1] := by
  rw [ruleViolations] at hv
  split at hv
  next hnames =>
    unfold entryViolations at hv
    split at hv
    · exact path_of_mem_bareViolations hv
    next hfields => exact absurd ⟨namesRule_iff.mpr hnames, hfields⟩ (h _)
    · rw [List.mem_singleton.mp hv]
      rfl
  next =>
    rw [List.mem_singleton.mp hv]
    rfl

theorem exists_path_of_mem_ruleViolations (hv : v ∈ ruleViolations c e) :
    ∃ rest, v.path = [.string rulesKey] ++ e.1 :: rest := by
  by_cases h : ∃ fields, NamesRule c e.1 ∧ e.2 = .mapping fields
  · obtain ⟨fields, hnames, hfields⟩ := h
    rw [ruleViolations_of_mapping hnames hfields] at hv
    obtain ⟨key, rest, hpath⟩ := exists_path_of_mem_detailViolations hv
    exact ⟨key :: rest, hpath⟩
  · exact ⟨[], path_of_mem_ruleViolations (not_exists.mp h) hv⟩

theorem entryFault_of_mapping_iff (hnames : NamesRule c e.1) (hfields : e.2 = .mapping fields) :
    EntryFault c e ↔ ∃ i, ∃ f ∈ fields, FieldFault i f := by
  constructor
  · intro hfault
    cases hfault with
    | unknown hunknown => exact absurd hnames hunknown
    | bare _ hbare => exact absurd hfields (hbare fields)
    | field _ hfields' hf hfault =>
      obtain rfl := Value.mapping.inj (hfields.symm.trans hfields')
      exact ⟨_, _, hf, hfault⟩
  · rintro ⟨i, f, hf, hfault⟩
    exact .field hnames hfields hf hfault

theorem entryFault_of_not_mapping_iff (h : ∀ fields, ¬ (NamesRule c e.1 ∧ e.2 = .mapping fields)) :
    EntryFault c e ↔ ¬ (NamesRule c e.1 ∧ EntryForm e.2) := by
  constructor
  · rintro hfault ⟨hnames, hform⟩
    cases hfault with
    | unknown hunknown => exact hunknown hnames
    | bare _ _ hbare => exact hbare hform
    | field _ hfields => exact h _ ⟨hnames, hfields⟩
  · intro hnot
    by_cases hnames : NamesRule c e.1
    · apply EntryFault.bare hnames
      · intro fields hfields
        exact h fields ⟨hnames, hfields⟩
      · intro hform
        exact hnot ⟨hnames, hform⟩
    · exact .unknown hnames

/-- **Something is found about a key in an entry exactly if the entry has a fault.** -/
theorem exists_entryFault_iff (hs : StandsAt paths [.string rulesKey] rules) (he : e ∈ rules) :
    (∃ v ∈ ruleViolations c e, v.path ∈ blockPaths [.string rulesKey] e) ↔ EntryFault c e := by
  by_cases h : ∃ fields, NamesRule c e.1 ∧ e.2 = .mapping fields
  · obtain ⟨fields, hnames, hfields⟩ := h
    have hunder : StandsAt paths ([.string rulesKey] ++ [e.1]) fields := hs.under (hfields ▸ he)
    have hblock : ∀ v ∈ detailViolations ([.string rulesKey] ++ [e.1]) fields,
        (v.path ∈ blockPaths [.string rulesKey] e ↔
          v.path ∈ entryPaths ([.string rulesKey] ++ [e.1]) fields) := by
      intro v hv
      obtain ⟨key, rest, hpath⟩ := exists_path_of_mem_detailViolations hv
      rw [hpath, Yaml.mem_blockPaths_under_iff, hfields, keyPaths]
    rw [entryFault_of_mapping_iff hnames hfields, ← (finds_fields hunder).exists_iff,
      ← detailViolations_eq, ruleViolations_of_mapping hnames hfields]
    exact exists_congr fun v => and_congr_right (hblock v)
  · have hnot := not_exists.mp h
    rw [exists_mem_blockPaths_iff fun v => path_of_mem_ruleViolations hnot, and_iff_right rfl, Ne,
      ruleViolations_eq_nil_iff, entryFault_of_not_mapping_iff hnot]

/-- **What is found in the entries is in order exactly if it is in each mapping of fields.** -/
theorem inOrder_ruleViolations_iff (hs : StandsAt paths [.string rulesKey] rules) :
    InOrder paths (rules.flatMap (ruleViolations c)) ↔
      ∀ e ∈ rules, NamesRule c e.1 → ∀ fields, e.2 = .mapping fields →
        Ascends FieldFault fields := by
  rw [inOrder_flatMap_iff hs fun e _ v hv => exists_path_of_mem_ruleViolations hv]
  refine forall₂_congr fun e he => ?_
  by_cases h : ∃ fields, NamesRule c e.1 ∧ e.2 = .mapping fields
  · obtain ⟨fields, hnames, hfields⟩ := h
    have hunder : StandsAt paths ([.string rulesKey] ++ [e.1]) fields := hs.under (hfields ▸ he)
    rw [ruleViolations_of_mapping hnames hfields, inOrder_detailViolations_iff hunder]
    constructor
    · intro hasc _ fields' hfields'
      exact Value.mapping.inj (hfields.symm.trans hfields') ▸ hasc
    · exact fun hasc => hasc hnames fields hfields
  · refine iff_of_true ?_ fun hnames fields hfields => absurd ⟨fields, hnames, hfields⟩ h
    exact inOrder_of_same_path hs.nodup fun v => path_of_mem_ruleViolations (not_exists.mp h)

end Entries

/-! ### The top of a document -/

/-- **The fault of an entry at the top**, in a key that is there, and the pass that finds it: a key
that is not the one of the rules, or rules that are no mapping or have an entry with a fault. -/
inductive TopFault (c : Catalog) : Nat → Value × Value → Prop
  | extra {e} : e.1.untag ≠ .string "rules" → TopFault c 0 e
  | rules {e} : e.1 = .string "rules" → (∀ rules, e.2 ≠ .mapping rules) → TopFault c 1 e
  | entry {e rules r} : e.1 = .string "rules" → e.2 = .mapping rules → r ∈ rules →
      EntryFault c r → TopFault c 1 e

/-- What the passes over the top of a document find. -/
def topPass (c : Catalog) (top : List (Value × Value)) : Nat → List Violation
  | 0 => extraKeys [] [rulesKey] top
  | 1 => rulesViolations c (lookupText rulesKey top)
  | _ => []

section Top

variable {c : Catalog} {paths : List (List Value)} {top : List (Value × Value)}
  {e : Value × Value} {v : Violation}

theorem violations_eq {doc : Value} (htop : doc.untag = .mapping top) :
    violations c doc = (List.range 2).flatMap (topPass c top) := by
  rw [violations, Value.asMapping?_eq_some_iff.mpr htop]
  simp [List.range_succ, topPass]

theorem rulesViolations_of_not_mapping {w : Value} (h : ∀ rules, w ≠ .mapping rules) :
    rulesViolations c (some w) = [⟨[.string rulesKey], .rulesNotADictionary, some w⟩] := by
  cases w with
  | mapping rules => exact absurd rfl (h rules)
  | _ => rfl

theorem exists_path_of_mem_rulesViolations {value : Option Value}
    (hv : v ∈ rulesViolations c value) : ∃ rest, v.path = [] ++ .string rulesKey :: rest := by
  unfold rulesViolations at hv
  split at hv
  · exact ⟨[], by rw [List.mem_singleton.mp hv]; rfl⟩
  · obtain ⟨r, -, hv⟩ := List.mem_flatMap.mp hv
    obtain ⟨rest, hpath⟩ := exists_path_of_mem_ruleViolations hv
    exact ⟨r.1 :: rest, hpath⟩
  · exact ⟨[], by rw [List.mem_singleton.mp hv]; rfl⟩

theorem exists_path_of_mem_topPass (i : Nat) (hv : v ∈ topPass c top i) :
    ∃ key rest, v.path = [] ++ key :: rest := by
  match i with
  | 0 =>
    obtain ⟨e, -, -, rfl⟩ := mem_extraKeys_iff.mp hv
    exact ⟨e.1, [], rfl⟩
  | 1 => exact ⟨_, exists_path_of_mem_rulesViolations hv⟩
  | i + 2 => cases hv

theorem topFault_zero_iff : TopFault c 0 e ↔ ∀ key ∈ [rulesKey], e.1.untag ≠ .string key := by
  rw [List.forall_mem_singleton]
  constructor
  · rintro ⟨hkey⟩
    exact hkey
  · exact .extra

theorem TopFault.key_eq (h : TopFault c 1 e) : e.1 = .string rulesKey := by
  cases h with
  | rules hkey => exact hkey
  | entry hkey => exact hkey

/-- **Something is found about a key in the rules exactly if they have a fault.** -/
theorem exists_topFault_iff (hs : StandsAt paths [] top) (he : e ∈ top)
    (hkey : e.1 = .string rulesKey) :
    (∃ v ∈ rulesViolations c (some e.2), v.path ∈ blockPaths [] e) ↔ TopFault c 1 e := by
  obtain ⟨_, value⟩ := e
  obtain rfl : _ = Value.string rulesKey := hkey
  by_cases h : ∃ rules, value = .mapping rules
  · obtain ⟨rules, rfl⟩ := h
    have hunder : StandsAt paths [.string rulesKey] rules := hs.under he
    have hblock : ∀ r ∈ rules, ∀ v ∈ ruleViolations c r,
        (v.path ∈ blockPaths [] (.string rulesKey, .mapping rules) ↔
          v.path ∈ blockPaths [.string rulesKey] r) := by
      intro r hr v hv
      obtain ⟨rest, hpath⟩ := exists_path_of_mem_ruleViolations hv
      rw [hpath]
      refine Yaml.mem_blockPaths_under_iff.trans ⟨fun hmem => ?_, fun hmem => ?_⟩
      · exact hunder.mem_block hr (hunder.sublist.subset hmem)
      · exact Yaml.mem_entryPaths.mpr ⟨r, hr, hmem⟩
    constructor
    · rintro ⟨v, hv, hmem⟩
      obtain ⟨r, hr, hv⟩ := List.mem_flatMap.mp hv
      have hfault := (exists_entryFault_iff hunder hr).mp ⟨v, hv, (hblock r hr v hv).mp hmem⟩
      exact .entry rfl rfl hr hfault
    · intro hfault
      cases hfault with
      | rules _ hnot => exact absurd rfl (hnot rules)
      | entry _ hrules hr hfault =>
        obtain rfl := Value.mapping.inj hrules
        obtain ⟨v, hv, hmem⟩ := (exists_entryFault_iff hunder hr).mpr hfault
        exact ⟨v, List.mem_flatMap.mpr ⟨_, hr, hv⟩, (hblock _ hr v hv).mpr hmem⟩
  · have hnot : ∀ rules, value ≠ .mapping rules := fun rules hrules => h ⟨rules, hrules⟩
    rw [rulesViolations_of_not_mapping hnot]
    refine iff_of_true ⟨_, List.mem_singleton_self _, ?_⟩ (.rules rfl hnot)
    exact Yaml.mem_blockPaths_iff.mpr rfl

/-- **The passes over the top find the faults at the top.** -/
theorem finds_top (hs : StandsAt paths [] top) : Finds [] top 2 (topPass c top) (TopFault c) where
  path := fun i v hv => exists_path_of_mem_topPass i hv
  fault_iff := by
    intro i e he
    match i with
    | 0 => rw [topPass, exists_extraKey_iff he, topFault_zero_iff, and_iff_right Nat.two_pos]
    | 1 =>
      rw [topPass, and_iff_right Nat.one_lt_two]
      by_cases hkey : e.1 = .string rulesKey
      · have hlookup : lookupText rulesKey top = some e.2 := lookupText_eq_of_mem hs he hkey
        rw [hlookup, exists_topFault_iff hs he hkey]
      · refine iff_of_false (fun hfault => hkey hfault.key_eq) ?_
        rintro ⟨v, hv, hmem⟩
        obtain ⟨rest, hpath⟩ := exists_path_of_mem_rulesViolations hv
        rw [hpath] at hmem
        exact hkey (Yaml.key_eq_of_mem_blockPaths hmem)
    | i + 2 =>
      refine iff_of_false (fun hfault => ?_) fun h => absurd h.1 (by omega)
      cases hfault
  one := by
    intro e i j hi hj
    cases hi with
    | extra hextra =>
      cases hj with
      | extra => rfl
      | rules hkey | entry hkey => exact absurd (congrArg Value.untag hkey) hextra
    | rules hkey | entry hkey =>
      cases hj with
      | extra hextra => exact absurd (congrArg Value.untag hkey) hextra
      | rules | entry => rfl

theorem inOrder_rulesViolations_iff (hs : StandsAt paths [] top) :
    InOrder paths (rulesViolations c (lookupText rulesKey top)) ↔
      ∀ rules, Gives "rules" (.mapping rules) top → ∀ e ∈ rules, NamesRule c e.1 →
        ∀ fields, e.2 = .mapping fields → Ascends FieldFault fields := by
  rcases hlookup : lookupText rulesKey top with _ | w
  · refine iff_of_true (List.pairwise_singleton _ _) fun rules hrules => ?_
    have hsome : lookupText rulesKey top = _ := lookupText_eq_some_iff.mpr hrules
    rw [hlookup] at hsome
    cases hsome
  · have hgives : Gives "rules" w top := lookupText_eq_some_iff.mp hlookup
    by_cases h : ∃ rules, w = .mapping rules
    · obtain ⟨rules, rfl⟩ := h
      refine (inOrder_ruleViolations_iff (hs.under hgives.mem)).trans ⟨?_, ?_⟩
      · intro hasc rules' hrules'
        exact Value.mapping.inj (hgives.unique hrules') ▸ hasc
      · exact fun hasc => hasc rules hgives
    · rw [rulesViolations_of_not_mapping fun rules hrules => h ⟨rules, hrules⟩]
      refine iff_of_true (List.pairwise_singleton _ _) fun rules hrules => ?_
      exact absurd ⟨rules, hgives.unique hrules⟩ h

/-- Other keys are found in order, so the passes over the top are if the one over the rules is. -/
theorem inOrder_topPass_iff (hs : StandsAt paths [] top) :
    (∀ i, i < 2 → InOrder paths (topPass c top i)) ↔
      ∀ rules, Gives "rules" (.mapping rules) top → ∀ e ∈ rules, NamesRule c e.1 →
        ∀ fields, e.2 = .mapping fields → Ascends FieldFault fields := by
  rw [← inOrder_rulesViolations_iff hs]
  constructor
  · exact fun hpass => hpass 1 Nat.one_lt_two
  · intro hrules i hi
    rcases i with _ | _ | i
    · exact inOrder_extraKeys hs
    · exact hrules
    · omega

end Top

/-! ### The order of a document -/

/-- **The faults of a document ascend**: those at its top, and those in the fields of each rule. -/
structure FaultsAscend (c : Catalog) (doc : Value) : Prop where
  top : ∀ top, doc.untag = .mapping top → Ascends (TopFault c) top
  fields : ∀ rules, RulesOf doc rules → ∀ e ∈ rules, NamesRule c e.1 →
    ∀ fields, e.2 = .mapping fields → Ascends FieldFault fields

/-- **The violations are in the order of the document exactly if its faults ascend.** -/
theorem violations_inOrder_iff {c : Catalog} {doc : Value} (h : KeysDiffer doc) :
    InOrder (keyPaths [] doc) (violations c doc) ↔ FaultsAscend c doc := by
  rcases htop : doc.asMapping? with _ | top
  · have hnot : ∀ top, doc.untag ≠ .mapping top := by
      intro top hmapping
      rw [Value.asMapping?_eq_some_iff.mpr hmapping] at htop
      cases htop
    rw [violations, htop]
    refine iff_of_true (List.pairwise_singleton _ _) ⟨fun top htop => absurd htop (hnot top), ?_⟩
    rintro rules ⟨top, htop, -⟩
    exact absurd htop (hnot top)
  · rw [Value.asMapping?_eq_some_iff] at htop
    have hs : StandsAt (keyPaths [] doc) [] top := Yaml.standsAt_root h htop
    have hunique : ∀ {top'}, doc.untag = .mapping top' → top = top' :=
      fun htop' => Value.mapping.inj (htop.symm.trans htop')
    rw [violations_eq htop, (finds_top hs).inOrder_iff hs, inOrder_topPass_iff hs]
    constructor
    · rintro ⟨hfields, hasc⟩
      refine ⟨fun top' htop' => hunique htop' ▸ hasc, ?_⟩
      rintro rules ⟨top', htop', hrules⟩
      exact hfields rules (hunique htop' ▸ hrules)
    · rintro ⟨hasc, hfields⟩
      exact ⟨fun rules hrules => hfields rules ⟨top, htop, hrules⟩, hasc top htop⟩

/-- A text whose faults ascend. -/
def faultsAscending : String :=
  "version: 2\nrules:\n  config-flow:\n    note: x\n    status: perhaps\n    comment: 5\n" ++
    "  made-up-rule: done\n"

/-- The document of `faultsAscending`. -/
def faultsAscendingDoc : Value :=
  .mapping [(.string "version", .number (.whole 2)), (.string "rules", .mapping [
    (.string "config-flow", .mapping [(.string "note", .string "x"),
      (.string "status", .string "perhaps"), (.string "comment", .number (.whole 5))]),
    (.string "made-up-rule", .string "done")])]

theorem violations_inOrder_iff_faultsAscending :
    KeysDiffer faultsAscendingDoc ∧
      (violations Catalog.standard faultsAscendingDoc).length = 5 ∧
      InOrder (keyPaths [] faultsAscendingDoc) (violations Catalog.standard faultsAscendingDoc) ∧
      FaultsAscend Catalog.standard faultsAscendingDoc := by
  have hread : Value.read? faultsAscending = .ok faultsAscendingDoc := by decide +kernel
  have hkeys : KeysDiffer faultsAscendingDoc := Yaml.keysDiffer_of_read? hread
  have horder : InOrder (keyPaths [] faultsAscendingDoc)
      (violations Catalog.standard faultsAscendingDoc) := by decide +kernel
  exact ⟨hkeys, by decide +kernel, horder, (violations_inOrder_iff hkeys).mp horder⟩

/-- A text whose faults do not ascend. -/
def faultsScattered : String :=
  "rules:\n  made-up-rule: done\nversion: 2\n"

/-- The document of `faultsScattered`. -/
def faultsScatteredDoc : Value :=
  .mapping [(.string "rules", .mapping [(.string "made-up-rule", .string "done")]),
    (.string "version", .number (.whole 2))]

/-- **Violations can be out of order**: one about a later key is listed first. -/
theorem violations_not_inOrder :
    Value.read? faultsScattered = .ok faultsScatteredDoc ∧
      (violations Catalog.standard faultsScatteredDoc).map (·.path) =
        [[.string "version"], [.string "rules", .string "made-up-rule"]] ∧
      keyPaths [] faultsScatteredDoc =
        [[.string "rules"], [.string "rules", .string "made-up-rule"], [.string "version"]] ∧
      ¬ InOrder (keyPaths [] faultsScatteredDoc)
        (violations Catalog.standard faultsScatteredDoc) := by
  constructor
  · decide +kernel
  · decide +kernel

end QualityScale.Grammar
