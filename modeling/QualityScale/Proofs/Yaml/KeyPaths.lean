import Mathlib.Data.List.Flatten
import Mathlib.Data.List.Nodup
import QualityScale.Proofs.Yaml.DistinctKeys

/-!
# The order of the keys in a document

A document is read from its first key to its last.  A key comes before those that are nested under
it, and these come before the next key of the mapping.

* `keyPaths above v`: the paths of the keys in a value that stands at the path `above`, in this
  order.
* `KeysDiffer.nodup_keyPaths`: where keys differ, each path is there once.
* `StandsAt paths above entries`: the mapping of these entries stands at the path `above` in a
  document with these paths of keys.
* `StandsAt.before`, `StandsAt.eq_or_before`: so the order of the entries is that of the paths of
  their keys, and of the keys under them.
-/

namespace QualityScale

/-! ### Equality as values -/

theorem Decimal.Binary64.same_refl (x : Decimal.Binary64) : x.same x = true := by
  unfold Decimal.Binary64.same
  split
  · rfl
  · exact beq_self_eq_true x

theorem Number.same_refl (n : Number) : n.same n = true := by
  cases n with
  | whole n => exact beq_self_eq_true n
  | real x => exact x.same_refl

namespace Yaml

mutual

theorem Value.same_refl : ∀ v : Value, v.same v = true
  | .null => rfl
  | .bool b => by rw [Value.same, beq_self_eq_true]
  | .number n => by rw [Value.same, Number.same_refl]
  | .string s => by rw [Value.same, beq_self_eq_true]
  | .sequence items => by rw [Value.same, sameItems_refl items]
  | .mapping entries => by
    rw [Value.same, beq_self_eq_true, Bool.true_and]
    exact sameEntries_of_subset entries entries fun _ he => he
  | .tagged tag v => by rw [Value.same, beq_self_eq_true, Bool.true_and, Value.same_refl v]

theorem sameItems_refl : ∀ items : List Value, sameItems items items = true
  | [] => rfl
  | v :: vs => by rw [sameItems, Value.same_refl v, sameItems_refl vs, Bool.and_self]

theorem sameEntries_of_subset : ∀ es fs : List (Value × Value), (∀ e ∈ es, e ∈ fs) →
    sameEntries es fs = true
  | [], _, _ => rfl
  | (k, v) :: es, fs, h => by
    have hhead : fs.any (fun f => k.same f.1 && v.same f.2) = true :=
      List.any_eq_true.mpr ⟨(k, v), h _ List.mem_cons_self, by
        rw [Value.same_refl k, Value.same_refl v, Bool.and_self]⟩
    rw [sameEntries, hhead, Bool.true_and]
    exact sameEntries_of_subset es fs fun e he => h e (List.mem_cons_of_mem _ he)

end

/-- Keys that differ as values are different. -/
theorem KeysDiffer.nodup_keys {entries : List (Value × Value)} (h : KeysDiffer (.mapping entries)) :
    (entries.map Prod.fst).Nodup := by
  refine List.pairwise_map.mpr ((distinctKeys_iff_pairwise.mp h.distinctKeys).imp ?_)
  intro e f hne heq
  rw [heq, Value.same_refl] at hne
  exact absurd hne (by decide)

/-! ### Pairs in lists -/

section Pairs

variable {α β : Type} {xs : List α} {a b : α}

theorem mem_of_pair_sublist (h : [a, b].Sublist xs) : a ∈ xs ∧ b ∈ xs :=
  ⟨h.subset List.mem_cons_self, h.subset (List.mem_cons_of_mem _ List.mem_cons_self)⟩

/-- Where nothing is there twice, the order of two is settled. -/
theorem not_pair_sublist_swap (h : xs.Nodup) (hab : [a, b].Sublist xs) : ¬ [b, a].Sublist xs := by
  induction xs with
  | nil => cases hab
  | cons x xs ih =>
    obtain ⟨hx, hxs⟩ := List.nodup_cons.mp h
    intro hba
    cases hab with
    | cons _ hab =>
      cases hba with
      | cons _ hba => exact ih hxs hab hba
      | cons_cons _ ha => exact hx (mem_of_pair_sublist hab).2
    | cons_cons _ hb =>
      cases hba with
      | cons _ hba => exact hx (mem_of_pair_sublist hba).2
      | cons_cons _ ha => exact hx (hb.subset List.mem_cons_self)

theorem eq_or_pair_sublist (ha : a ∈ xs) (hb : b ∈ xs) :
    a = b ∨ [a, b].Sublist xs ∨ [b, a].Sublist xs := by
  induction xs with
  | nil => cases ha
  | cons x xs ih =>
    cases ha with
    | head =>
      cases hb with
      | head => exact .inl rfl
      | tail _ hb => exact .inr (.inl ((List.singleton_sublist.mpr hb).cons_cons a))
    | tail _ ha =>
      cases hb with
      | head => exact .inr (.inr ((List.singleton_sublist.mpr ha).cons_cons b))
      | tail _ hb => exact (ih ha hb).imp_right (Or.imp (·.cons x) (·.cons x))

theorem pair_sublist_flatMap {f : α → List β} {x y : β} (h : [a, b].Sublist xs) (hx : x ∈ f a)
    (hy : y ∈ f b) : [x, y].Sublist (xs.flatMap f) := by
  have hsub : ([a, b].flatMap f).Sublist (xs.flatMap f) := h.flatMap f
  rw [List.flatMap_cons, List.flatMap_singleton] at hsub
  exact ((List.singleton_sublist.mpr hx).append (List.singleton_sublist.mpr hy)).trans hsub

end Pairs

/-! ### The paths of keys -/

mutual

/-- The paths of the keys in a value that stands at the path `above`.  Tags are looked through. -/
def keyPaths (above : List Value) : Value → List (List Value)
  | .mapping entries => entryPaths above entries
  | .tagged _ v => keyPaths above v
  | _ => []

/-- The paths of the keys of entries, each with those of the keys under it. -/
def entryPaths (above : List Value) : List (Value × Value) → List (List Value)
  | [] => []
  | (key, v) :: es => (above ++ [key]) :: keyPaths (above ++ [key]) v ++ entryPaths above es

end

/-- The path of the key of an entry, and those of the keys under it. -/
def blockPaths (above : List Value) (e : Value × Value) : List (List Value) :=
  (above ++ [e.1]) :: keyPaths (above ++ [e.1]) e.2

section Paths

variable {above path : List Value} {entries : List (Value × Value)} {e : Value × Value}
  {key : Value}

theorem entryPaths_eq : entryPaths above entries = entries.flatMap (blockPaths above) := by
  induction entries with
  | nil => rw [entryPaths, List.flatMap_nil]
  | cons e es ih => rw [entryPaths, List.flatMap_cons, ih, blockPaths]

theorem mem_entryPaths :
    path ∈ entryPaths above entries ↔ ∃ e ∈ entries, path ∈ blockPaths above e := by
  rw [entryPaths_eq, List.mem_flatMap]

theorem keyPaths_untag : ∀ v : Value, keyPaths above v.untag = keyPaths above v
  | .tagged _ v => keyPaths_untag v
  | .null | .bool _ | .number _ | .string _ | .sequence _ | .mapping _ => rfl

mutual

theorem append_of_mem_keyPaths : ∀ (v : Value) {above path : List Value}, path ∈ keyPaths above v →
    ∃ key rest, path = above ++ key :: rest
  | .mapping entries, _, _, h => append_of_mem_entryPaths entries h
  | .tagged _ v, _, _, h => append_of_mem_keyPaths v h
  | .null, _, _, h | .bool _, _, _, h | .number _, _, _, h | .string _, _, _, h
  | .sequence _, _, _, h => absurd h List.not_mem_nil

theorem append_of_mem_entryPaths : ∀ (entries : List (Value × Value)) {above path : List Value},
    path ∈ entryPaths above entries → ∃ key rest, path = above ++ key :: rest
  | [], _, _, h => absurd h List.not_mem_nil
  | (key, v) :: es, above, path, h => by
    rw [entryPaths, List.mem_append, List.mem_cons] at h
    rcases h with (rfl | h) | h
    · exact ⟨key, [], rfl⟩
    · obtain ⟨key', rest, rfl⟩ := append_of_mem_keyPaths v h
      exact ⟨key, key' :: rest, (List.append_cons above key _).symm⟩
    · exact append_of_mem_entryPaths es h

end

theorem exists_of_mem_blockPaths (h : path ∈ blockPaths above e) :
    ∃ rest, path = above ++ e.1 :: rest := by
  rcases List.mem_cons.mp h with rfl | h
  · exact ⟨[], rfl⟩
  · obtain ⟨key, rest, rfl⟩ := append_of_mem_keyPaths e.2 h
    exact ⟨key :: rest, (List.append_cons above e.1 _).symm⟩

theorem key_eq_of_mem_blockPaths {rest : List Value}
    (h : above ++ key :: rest ∈ blockPaths above e) : e.1 = key := by
  obtain ⟨rest', hrest⟩ := exists_of_mem_blockPaths h
  exact (List.cons.inj (List.append_cancel_left hrest)).1.symm

theorem mem_blockPaths_iff : above ++ [key] ∈ blockPaths above e ↔ e.1 = key := by
  constructor
  · exact key_eq_of_mem_blockPaths
  · rintro rfl
    exact List.mem_cons_self

/-- A longer path in a block is one of those under the key. -/
theorem mem_blockPaths_under_iff {next : Value} {rest : List Value} :
    (above ++ [e.1]) ++ next :: rest ∈ blockPaths above e ↔
      (above ++ [e.1]) ++ next :: rest ∈ keyPaths (above ++ [e.1]) e.2 := by
  refine List.mem_cons.trans (or_iff_right fun h => ?_)
  simpa using congrArg List.length h

/-- **Where keys differ, every path is there once.** -/
theorem KeysDiffer.nodup_keyPaths {v : Value} (h : KeysDiffer v) (above : List Value) :
    (keyPaths above v).Nodup := by
  induction h generalizing above with
  | null | bool | number | string | sequence => exact List.nodup_nil
  | tagged tag _ ih => exact ih above
  | @mapping entries hd hk hv _ ih =>
    have hkeys : (entries.map Prod.fst).Nodup := KeysDiffer.nodup_keys (.mapping hd hk hv)
    rw [keyPaths, entryPaths_eq, List.nodup_flatMap]
    constructor
    · intro e he
      refine List.nodup_cons.mpr ⟨fun h => ?_, ih e he _⟩
      obtain ⟨key, rest, heq⟩ := append_of_mem_keyPaths e.2 h
      simpa using congrArg List.length heq
    · refine (List.pairwise_map.mp hkeys).imp fun hne => ?_
      -- The paths of two blocks differ at the key.
      intro path hpath hpath'
      obtain ⟨rest, rfl⟩ := exists_of_mem_blockPaths hpath
      exact hne (key_eq_of_mem_blockPaths hpath').symm

end Paths

/-! ### The mappings of a document -/

/-- **The mapping of these entries stands at the path `above`** in a document whose keys have the
paths `paths`: these hold the paths of its keys, in order, and no other paths that start alike. -/
structure StandsAt (paths : List (List Value)) (above : List Value)
    (entries : List (Value × Value)) : Prop where
  keysDiffer : KeysDiffer (.mapping entries)
  nodup : paths.Nodup
  sublist : (entryPaths above entries).Sublist paths
  complete : ∀ key rest, above ++ key :: rest ∈ paths →
    above ++ key :: rest ∈ entryPaths above entries

theorem standsAt_root {doc : Value} {top : List (Value × Value)} (h : KeysDiffer doc)
    (htop : doc.untag = .mapping top) : StandsAt (keyPaths [] doc) [] top := by
  have hpaths : keyPaths [] doc = entryPaths [] top := by rw [← keyPaths_untag, htop, keyPaths]
  exact ⟨htop ▸ h.untag, h.nodup_keyPaths [], hpaths ▸ List.Sublist.refl _,
    fun _ _ hmem => hpaths ▸ hmem⟩

namespace StandsAt

variable {paths : List (List Value)} {above path path' : List Value}
  {entries : List (Value × Value)} {e f : Value × Value}

theorem eq_of_key_eq (h : StandsAt paths above entries) (he : e ∈ entries) (hf : f ∈ entries)
    (hkey : e.1 = f.1) : e = f :=
  List.inj_on_of_nodup_map h.keysDiffer.nodup_keys he hf hkey

/-- A path that starts at the mapping is in the block of an entry. -/
theorem exists_block (h : StandsAt paths above entries) {key : Value} {rest : List Value}
    (hmem : above ++ key :: rest ∈ paths) :
    ∃ e ∈ entries, above ++ key :: rest ∈ blockPaths above e :=
  mem_entryPaths.mp (h.complete _ _ hmem)

/-- A path that starts with the key of an entry is in its block. -/
theorem mem_block (h : StandsAt paths above entries) (he : e ∈ entries) {rest : List Value}
    (hmem : above ++ e.1 :: rest ∈ paths) : above ++ e.1 :: rest ∈ blockPaths above e := by
  obtain ⟨f, hf, hblock⟩ := h.exists_block hmem
  exact h.eq_of_key_eq hf he (key_eq_of_mem_blockPaths hblock) ▸ hblock

/-- The mapping under a key stands at the path of that key. -/
theorem under (h : StandsAt paths above entries) {key : Value} {es : List (Value × Value)}
    (he : (key, .mapping es) ∈ entries) : StandsAt paths (above ++ [key]) es where
  keysDiffer := h.keysDiffer.value he
  nodup := h.nodup
  sublist := by
    have hblock : (entryPaths (above ++ [key]) es).Sublist (blockPaths above (key, .mapping es)) :=
      List.sublist_cons_self _ _
    have hentries : (blockPaths above (key, .mapping es)).Sublist (entryPaths above entries) := by
      rw [entryPaths_eq, ← List.flatMap_singleton (blockPaths above)]
      exact (List.singleton_sublist.mpr he).flatMap _
    exact (hblock.trans hentries).trans h.sublist
  complete := by
    intro next rest hmem
    rw [← List.append_cons] at hmem
    have hblock : above ++ key :: next :: rest ∈ blockPaths above (key, .mapping es) :=
      h.mem_block he hmem
    rw [List.append_cons] at hblock
    exact mem_blockPaths_under_iff.mp hblock

/-- The paths of an earlier entry come before those of a later one. -/
theorem before (h : StandsAt paths above entries) (hef : [e, f].Sublist entries)
    (hpath : path ∈ blockPaths above e) (hpath' : path' ∈ blockPaths above f) :
    [path, path'].Sublist paths := by
  refine List.Sublist.trans ?_ h.sublist
  rw [entryPaths_eq]
  exact pair_sublist_flatMap hef hpath hpath'

/-- Only the paths of the same entry and of earlier ones come before those of an entry. -/
theorem eq_or_before (h : StandsAt paths above entries) (he : e ∈ entries) (hf : f ∈ entries)
    (hpath : path ∈ blockPaths above e) (hpath' : path' ∈ blockPaths above f)
    (hbefore : [path, path'].Sublist paths) : e = f ∨ [e, f].Sublist entries := by
  rcases eq_or_pair_sublist he hf with rfl | hef | hfe
  · exact .inl rfl
  · exact .inr hef
  · exact absurd hbefore (not_pair_sublist_swap h.nodup (h.before hfe hpath' hpath))

end StandsAt

end Yaml

end QualityScale
