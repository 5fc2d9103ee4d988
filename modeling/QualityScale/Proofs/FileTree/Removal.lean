import Mathlib.Data.List.Basic
import QualityScale.FileTree

/-!
# Files that are removed

A checkout may lose files and directories from one run to the next.  Then all other files are still
there, with the same bytes.

* `FileNode.KeepsTo change`: a change of what some names lead to leaves all else as it is.  Taking it
  away is such a change, and so is emptying it.
* `FileTree.Avoids t p q`: the path `q` does not lead through the place of `p`.
* `FileTree.Avoids.bytes_remove_iff`: a file stays if its path avoids what is removed.
-/

namespace QualityScale

namespace FileNode

/-! ### Changes at one place -/

/-- **A change of what some names lead to leaves all else as it is.**  Files along the names stay, and
in a directory nothing but the entry of the first name can change. -/
structure KeepsTo (change : FileNode → List String → FileNode) : Prop where
  files : ∀ b names, change (file b) names = file b
  directories : ∀ entries name names, ∃ changed,
    change (directory entries) (name :: names) = directory changed ∧
      (∀ s, s ≠ name → changed.lookup s = entries.lookup s) ∧
      (names ≠ [] → changed.lookup name = (entries.lookup name).map (change · names))

theorem lookup_filter_ne {s name : String} (entries : FileEntries) (h : s ≠ name) :
    (entries.filter fun e => e.1 ≠ name).lookup s = entries.lookup s := by
  induction entries with
  | nil => rfl
  | cons e es ih =>
    by_cases he : e.1 = name
    · have hs : (s == e.1) = false := beq_eq_false_iff_ne.mpr (he ▸ h)
      rw [List.filter_cons_of_neg (by simp [he]), ih, List.lookup_cons, hs]
    · rw [List.filter_cons_of_pos (by simp [he]), List.lookup_cons, List.lookup_cons, ih]

theorem lookup_map_entry (f : FileNode → FileNode) (entries : FileEntries) (name s : String) :
    (entries.map fun e => if e.1 = name then (e.1, f e.2) else e).lookup s =
      if s = name then (entries.lookup s).map f else entries.lookup s := by
  induction entries with
  | nil => simp
  | cons e es ih =>
    obtain ⟨key, n⟩ := e
    have hentry : (if key = name then (key, f n) else (key, n)) =
        (key, if key = name then f n else n) := by
      split <;> rfl
    rw [List.map_cons, hentry, List.lookup_cons, List.lookup_cons, ih]
    cases hs : s == key with
    | true =>
      obtain rfl := eq_of_beq hs
      by_cases hname : s = name <;> simp [hname]
    | false => rfl

theorem keepsTo_without : KeepsTo without where
  files b names := by rw [without]
  directories entries name names := by
    cases names with
    | nil => exact ⟨_, by rw [without], fun s => lookup_filter_ne entries, fun hne => absurd rfl hne⟩
    | cons next names =>
      have hlookup := lookup_map_entry (·.without (next :: names)) entries name
      refine ⟨_, by rw [without]; exact nofun, fun s hs => ?_, fun _ => ?_⟩
      · rw [hlookup, if_neg hs]
      · rw [hlookup, if_pos rfl]

theorem keepsTo_emptied : KeepsTo emptied where
  files b names := by rw [emptied]
  directories entries name names := by
    have hlookup := lookup_map_entry (·.emptied names) entries name
    refine ⟨_, by rw [emptied], fun s hs => ?_, fun _ => ?_⟩
    · rw [hlookup, if_neg hs]
    · rw [hlookup, if_pos rfl]

/-! ### Names that lead elsewhere -/

section Follow

variable {names place : List String} {s : String}

/-- One step from a directory, when it does not go up. -/
theorem follow_cons (hs : s ≠ "..") (entries : FileEntries) (above : List FileNode) :
    (directory entries).follow above (s :: names) =
      if s = "" ∨ s = "." then (directory entries).follow above names
      else if s.utf8ByteSize > nameLimit then .error .nameTooLong
      else (entries.lookup s).elim (.error .notFound) fun node =>
        node.follow (directory entries :: above) names := by
  rw [follow.eq_def]
  simp only [if_neg hs]
  cases entries.lookup s <;> rfl

/-- The directories above are looked at only for `..`. -/
theorem follow_above (hup : ".." ∉ names) (n : FileNode) (above above' : List FileNode) :
    n.follow above names = n.follow above' names := by
  induction names generalizing n above above' with
  | nil => rw [follow, follow]
  | cons s names ih =>
    obtain ⟨hs, hup⟩ := not_or.mp (List.mem_cons.not.mp hup)
    cases n with
    | file bytes => rw [follow, follow]
    | directory entries =>
      have hbelow : ∀ node : FileNode, node.follow (directory entries :: above) names =
          node.follow (directory entries :: above') names := fun node => ih hup node _ _
      rw [follow_cons (Ne.symm hs), follow_cons (Ne.symm hs), ih hup _ above above', funext hbelow]

/-- **A change at one place leaves the files that names lead to elsewhere.** -/
theorem KeepsTo.follow_eq_file_iff {change : FileNode → List String → FileNode}
    (h : KeepsTo change) (hup : ".." ∉ names)
    (hbeside : ¬ place <+: names.filter fun s => s ≠ "" ∧ s ≠ ".") (n : FileNode)
    (above : List FileNode) (b : ByteArray) :
    (change n place).follow above names = .ok (file b) ↔
      n.follow above names = .ok (file b) := by
  induction names generalizing n place above with
  | nil =>
    cases n with
    | file bytes => rw [h.files]
    | directory entries =>
      cases place with
      | nil => exact absurd List.nil_prefix hbeside
      | cons name rest =>
        obtain ⟨changed, hchanged, -⟩ := h.directories entries name rest
        rw [hchanged, follow, follow]
        exact ⟨nofun, nofun⟩
  | cons s names ih =>
    obtain ⟨hs, hup⟩ := not_or.mp (List.mem_cons.not.mp hup)
    cases n with
    | file bytes => rw [h.files]
    | directory entries =>
      cases place with
      | nil => exact absurd List.nil_prefix hbeside
      | cons name rest =>
        obtain ⟨changed, hchanged, hother, hsame⟩ := h.directories entries name rest
        rw [hchanged, follow_cons (Ne.symm hs), follow_cons (Ne.symm hs)]
        by_cases hskip : s = "" ∨ s = "."
        · rw [if_pos hskip, if_pos hskip, ← hchanged]
          refine ih hup ?_ _ above
          rwa [List.filter_cons_of_neg (by simpa [or_iff_not_imp_left] using hskip)] at hbeside
        · rw [if_neg hskip, if_neg hskip]
          rw [List.filter_cons_of_pos (by simpa using hskip), List.cons_prefix_cons] at hbeside
          split
          · rfl
          · have hbelow : ∀ node : FileNode, node.follow (directory changed :: above) names =
                node.follow (directory entries :: above) names := fun node =>
              follow_above hup node _ _
            rw [funext hbelow]
            by_cases hname : s = name
            · subst hname
              have hrest : rest ≠ [] := fun hnil => hbeside ⟨rfl, hnil ▸ List.nil_prefix⟩
              rw [hsame hrest]
              cases entries.lookup s with
              | none => exact Iff.rfl
              | some node => exact ih hup (fun hprefix => hbeside ⟨rfl, hprefix⟩) node _
            · rw [hother s hname]

end Follow

end FileNode

namespace FileTree

variable {t : FileTree} {p q : Path} {b : ByteArray}

/-- The names that a path leads through, from the top directory. -/
def through (t : FileTree) (p : Path) : List String :=
  (t.steps p).filter fun s => s ≠ "" ∧ s ≠ "."

/-- The path `q` does not lead through the place of `p`, nor up again from anywhere. -/
def Avoids (t : FileTree) (p q : Path) : Prop :=
  ".." ∉ t.steps q ∧ ¬ t.route p <+: t.through q

instance (t : FileTree) (p q : Path) : Decidable (t.Avoids p q) :=
  inferInstanceAs (Decidable (_ ∧ _))

/-- A change of the tree at one place leaves the files of paths that avoid it. -/
theorem Avoids.bytes_change_iff (hq : t.Avoids p q) {change : FileNode → List String → FileNode}
    (h : FileNode.KeepsTo change) :
    ({ t with top := change t.top (t.route p) } : FileTree).bytes q = .ok b ↔ t.bytes q = .ok b := by
  rw [bytes_eq_ok_iff, bytes_eq_ok_iff, node, node]
  cases pathFault? q with
  | some e => exact ⟨nofun, nofun⟩
  | none => exact h.follow_eq_file_iff hq.1 hq.2 t.top [] b

/-- **A file stays if its path avoids what is removed.** -/
theorem Avoids.bytes_remove_iff (hq : t.Avoids p q) :
    (t.remove p).bytes q = .ok b ↔ t.bytes q = .ok b := by
  unfold remove
  split
  · exact Iff.rfl
  · exact hq.bytes_change_iff FileNode.keepsTo_without
  · split
    · exact hq.bytes_change_iff FileNode.keepsTo_emptied
    · exact hq.bytes_change_iff FileNode.keepsTo_without

end FileTree

end QualityScale
