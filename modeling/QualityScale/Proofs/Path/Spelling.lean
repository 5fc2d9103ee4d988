import Mathlib.Data.List.Basic
import QualityScale.Path

/-!
# Spellings of a path

A place can be written in many ways: slashes can be doubled, there may be one at the end, and a `.`
may stand anywhere.  `SamePlace` takes no notice of any of this.  The comparison of paths takes
notice of one thing, a `.` at the start of a relative path, and `sameAs_iff` says that there is
nothing else.

* `names`: the parts of a path that lead anywhere.
* `startsHere`: whether a relative path starts with a `.`.
* `names_join`, `isAbsolute_join`, `startsHere_join`: what becomes of these in a joined path.
-/

namespace QualityScale.Path

/-- The names in a path, and every `..`. -/
def names (p : Path) : List String :=
  p.pieces.filter fun s => s ≠ "" ∧ s ≠ "."

/-- **The same place on paper**: the paths agree when slashes that are doubled or last and every
`.` are left out. -/
def SamePlace (p q : Path) : Prop :=
  p.isAbsolute = q.isAbsolute ∧ p.names = q.names

instance (p q : Path) : Decidable (SamePlace p q) :=
  inferInstanceAs (Decidable (_ ∧ _))

/-- Whether the path is relative and starts with a `.`. -/
def startsHere (p : Path) : Bool :=
  !p.isAbsolute && p.pieces.head? == some "."

/-! ### Paths that are compared -/

/-- The part that a name stands for. -/
def Part.ofName (s : String) : Part :=
  if s = ".." then .up else .name s

theorem Part.ofName_injective {s t : String} (h : ofName s = ofName t) : s = t := by
  unfold ofName at h
  split at h <;> split at h <;> simp_all

/-- The part before the names, if there is one. -/
def lead (p : Path) : List Part :=
  if p.isAbsolute then [.root] else if p.startsHere then [.here] else []

theorem parts_eq (p : Path) : p.parts = p.lead ++ p.names.map Part.ofName := by
  rw [parts, lead, startsHere]
  cases p.isAbsolute with
  | true => rfl
  | false =>
    by_cases h : p.pieces.head? = some "."
    · simp only [h]
      rfl
    · simp only [if_neg h]
      have hhead : (p.pieces.head? == some ".") = false := by simpa using h
      rw [hhead]
      rfl

/-- The first part tells how a path starts. -/
theorem head?_parts (p : Path) :
    (p.parts.head? = some .root ↔ p.isAbsolute = true) ∧
      (p.parts.head? = some .here ↔ p.startsHere = true) := by
  -- Where nothing leads, the first part is a name or a `..`, and neither is taken for a start.
  have hnames (part : Part) (hpart : part = .root ∨ part = .here) :
      ¬ (p.names.map Part.ofName).head? = some part := by
    intro hhead
    obtain ⟨s, -, hs⟩ := List.mem_map.mp (List.mem_of_mem_head? hhead)
    rw [Part.ofName] at hs
    split at hs <;> rcases hpart with rfl | rfl <;> cases hs
  rw [parts_eq, lead]
  cases ha : p.isAbsolute with
  | true => simp [startsHere, ha]
  | false =>
    cases hh : p.startsHere with
    | true => simp
    | false =>
      exact ⟨iff_of_false (hnames .root (.inl rfl)) Bool.false_ne_true,
        iff_of_false (hnames .here (.inr rfl)) Bool.false_ne_true⟩

/-- **Paths compare as the same exactly if they are the same place and start alike.** -/
theorem sameAs_iff {p q : Path} :
    p.sameAs q = true ↔ p.SamePlace q ∧ p.startsHere = q.startsHere := by
  rw [sameAs, beq_iff_eq]
  constructor
  · intro h
    have habs : p.isAbsolute = q.isAbsolute := by
      rw [Bool.eq_iff_iff, ← p.head?_parts.1, ← q.head?_parts.1, h]
    have hhere : p.startsHere = q.startsHere := by
      rw [Bool.eq_iff_iff, ← p.head?_parts.2, ← q.head?_parts.2, h]
    have hlead : p.lead = q.lead := by rw [lead, lead, habs, hhere]
    rw [parts_eq, parts_eq, hlead] at h
    have hmap := List.append_cancel_left h
    exact ⟨⟨habs, (List.map_inj_right fun _ _ => Part.ofName_injective).mp hmap⟩, hhere⟩
  · rintro ⟨⟨habs, hnames⟩, hhere⟩
    rw [parts_eq, parts_eq, lead, lead, habs, hnames, hhere]

/-! ### Paths that are joined -/

theorem pieces_ne_nil (p : Path) : p.pieces ≠ [] := by
  rw [pieces, ne_eq, List.map_eq_nil_iff]
  exact Text.splitAt_ne_nil '/' _

theorem pieces_slash (s t : String) :
    (Path.mk (s ++ "/" ++ t)).pieces = (Path.mk s).pieces ++ (Path.mk t).pieces := by
  have htext : (s ++ "/" ++ t).toList = s.toList ++ '/' :: t.toList := by
    rw [String.toList_append, String.toList_append, List.append_assoc]
    rfl
  rw [pieces, htext, Text.splitAt_append_cons, List.map_append]
  rfl

theorem names_slash (s t : String) :
    (Path.mk (s ++ "/" ++ t)).names = (Path.mk s).names ++ (Path.mk t).names := by
  rw [names, pieces_slash, List.filter_append]
  rfl

theorem head?_pieces_slash (s t : String) :
    (Path.mk (s ++ "/" ++ t)).pieces.head? = (Path.mk s).pieces.head? := by
  rw [pieces_slash, List.head?_append_of_ne_nil _ (pieces_ne_nil _)]

theorem names_endSlash (s : String) : (Path.mk (s ++ "/")).names = (Path.mk s).names := by
  rw [← String.append_empty (s := s ++ "/"), names_slash]
  exact List.append_nil _

theorem head?_pieces_endSlash (s : String) :
    (Path.mk (s ++ "/")).pieces.head? = (Path.mk s).pieces.head? := by
  rw [← String.append_empty (s := s ++ "/"), head?_pieces_slash]

theorem isAbsolute_append {s : String} (hs : s ≠ "") (t : String) :
    (Path.mk (s ++ t)).isAbsolute = (Path.mk s).isAbsolute := by
  have hne : s.toList ≠ [] := by
    intro hnil
    exact hs (String.toList_inj.mp hnil)
  rw [isAbsolute, isAbsolute, String.toList_append, List.head?_append_of_ne_nil _ hne]

/-- A relative path is put behind a slash, which is there already if the path before it ends in
one; only behind the empty path there is none. -/
theorem join_cases (p : Path) {q : Path} (hq : q.isAbsolute = false) :
    p = ⟨""⟩ ∧ p.join q = q ∨
      ∃ stem, p.join q = ⟨stem ++ "/" ++ q.text⟩ ∧
        (p = ⟨stem ++ "/"⟩ ∨ p = ⟨stem⟩ ∧ stem ≠ "") := by
  obtain ⟨s⟩ := p
  rw [join, hq, if_neg Bool.false_ne_true]
  cases hlast : s.toList.getLast? with
  | none =>
    obtain rfl : s = "" := String.toList_inj.mp (List.getLast?_eq_none_iff.mp hlast)
    exact .inl ⟨rfl, congrArg Path.mk String.empty_append⟩
  | some c =>
    refine .inr ?_
    obtain ⟨front, hfront⟩ := List.getLast?_eq_some_iff.mp hlast
    by_cases hc : c = '/'
    · have htext : s = String.ofList front ++ "/" := by
        rw [← String.toList_inj, hfront, hc, String.toList_append, String.toList_ofList]
        rfl
      refine ⟨String.ofList front, ?_, .inl (congrArg Path.mk htext)⟩
      rw [← htext]
      exact if_pos (by simpa using hc)
    · have hne : s ≠ "" := by
        intro hempty
        rw [hempty] at hlast
        cases hlast
      exact ⟨s, if_neg (by simpa using hc), .inr ⟨rfl, hne⟩⟩

theorem names_join {p q : Path} (hq : q.isAbsolute = false) :
    (p.join q).names = p.names ++ q.names := by
  rcases p.join_cases hq with ⟨rfl, hjoin⟩ | ⟨stem, hjoin, rfl | ⟨rfl, -⟩⟩
  · rw [hjoin]
    rfl
  · rw [hjoin, names_slash, names_endSlash]
  · rw [hjoin, names_slash]

theorem isAbsolute_join {p q : Path} (hq : q.isAbsolute = false) :
    (p.join q).isAbsolute = p.isAbsolute := by
  rcases p.join_cases hq with ⟨rfl, hjoin⟩ | ⟨stem, hjoin, rfl | ⟨rfl, hne⟩⟩
  · rw [hjoin, hq]
    rfl
  · have hne : stem ++ "/" ≠ "" := by
      intro hempty
      have hlist := congrArg String.toList hempty
      rw [String.toList_append] at hlist
      exact absurd (List.append_eq_nil_iff.mp hlist).2 (by decide)
    rw [hjoin, isAbsolute_append hne]
  · rw [hjoin, String.append_assoc, isAbsolute_append hne]

theorem startsHere_join {p q : Path} (hq : q.isAbsolute = false) (hhere : q.startsHere = false) :
    (p.join q).startsHere = p.startsHere := by
  have habs : (p.join q).isAbsolute = p.isAbsolute := isAbsolute_join hq
  rcases p.join_cases hq with ⟨rfl, hjoin⟩ | ⟨stem, hjoin, rfl | ⟨rfl, -⟩⟩
  · rw [hjoin, hhere]
    rfl
  · rw [startsHere, habs, startsHere, hjoin, head?_pieces_slash, head?_pieces_endSlash]
  · rw [startsHere, habs, startsHere, hjoin, head?_pieces_slash]

/-! ### Slashes at the end -/

/-- The text of so many slashes. -/
def slashes (k : Nat) : String :=
  String.ofList (List.replicate k '/')

theorem append_slashes_succ (s : String) (k : Nat) :
    s ++ slashes (k + 1) = s ++ slashes k ++ "/" := by
  rw [slashes, slashes, List.replicate_succ', String.ofList_append, String.append_assoc]

theorem names_append_slashes (s : String) (k : Nat) :
    (Path.mk (s ++ slashes k)).names = (Path.mk s).names := by
  induction k with
  | zero => exact congrArg (fun t => (Path.mk t).names) String.append_empty
  | succ k ih => rw [append_slashes_succ, names_endSlash, ih]

theorem head?_pieces_append_slashes (s : String) (k : Nat) :
    (Path.mk (s ++ slashes k)).pieces.head? = (Path.mk s).pieces.head? := by
  induction k with
  | zero => exact congrArg (fun t => (Path.mk t).pieces.head?) String.append_empty
  | succ k ih => rw [append_slashes_succ, head?_pieces_endSlash, ih]

/-- A path with a name in it is the same without slashes at its end, and starts alike. -/
theorem samePlace_append_slashes {s : String} {k : Nat}
    (h : (Path.mk (s ++ slashes k)).names ≠ []) :
    SamePlace ⟨s⟩ ⟨s ++ slashes k⟩ ∧
      (Path.mk s).startsHere = (Path.mk (s ++ slashes k)).startsHere := by
  have hne : s ≠ "" := by
    rw [names_append_slashes] at h
    rintro rfl
    exact h rfl
  have habs : (Path.mk (s ++ slashes k)).isAbsolute = (Path.mk s).isAbsolute :=
    isAbsolute_append hne _
  refine ⟨⟨habs.symm, (names_append_slashes s k).symm⟩, ?_⟩
  rw [startsHere, startsHere, habs, head?_pieces_append_slashes]

/-! ### Names in a directory -/

/-- A name that something in a directory can have. -/
structure IsName (s : String) : Prop where
  nonempty : s ≠ ""
  notHere : s ≠ "."
  notUp : s ≠ ".."
  noSlash : '/' ∉ s.toList

section IsName

variable {s : String} (hs : IsName s)
include hs

theorem IsName.pieces_eq : (Path.mk s).pieces = [s] := by
  rw [pieces, Text.splitAt_of_not_mem hs.noSlash, List.map_singleton, String.ofList_toList]

theorem IsName.names_eq : (Path.mk s).names = [s] := by
  rw [names, hs.pieces_eq]
  exact List.filter_eq_self.mpr fun t ht => by
    rw [List.mem_singleton.mp ht]
    exact decide_eq_true ⟨hs.nonempty, hs.notHere⟩

theorem IsName.isAbsolute_eq : (Path.mk s).isAbsolute = false := by
  rw [isAbsolute, beq_eq_false_iff_ne]
  intro hhead
  exact hs.noSlash (List.mem_of_mem_head? hhead)

theorem IsName.startsHere_eq : (Path.mk s).startsHere = false := by
  rw [startsHere, hs.isAbsolute_eq, hs.pieces_eq, Bool.not_false, Bool.true_and,
    beq_eq_false_iff_ne]
  intro hhead
  exact hs.notHere (Option.some.inj hhead)

theorem names_child (p : Path) : (p.child s).names = p.names ++ [s] := by
  rw [child, names_join hs.isAbsolute_eq, hs.names_eq]

/-- The last part of a path in a directory is the name there. -/
theorem fileName_child (p : Path) : (p.child s).fileName = s := by
  have hlast : (p.child s).parts.getLast? = some (.name s) := by
    rw [parts_eq, names_child hs, List.map_append, List.map_singleton, ← List.append_assoc,
      List.getLast?_concat, Part.ofName, if_neg hs.notUp]
  rw [fileName, fileName?, hlast]
  rfl

end IsName

end QualityScale.Path
