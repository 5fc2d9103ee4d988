/-!
# Sets of names

A set of names is kept as its list of members in ascending order.  Names are compared character
by character, by code point.  The order is part of the type, so a set has one representation and
a listing of it is always sorted.
-/

namespace QualityScale

/-- A finite set of names: its members, strictly ascending. -/
structure NameSet where
  /-- The members in ascending order. -/
  toList : List String
  ascending : toList.Pairwise (· < ·)

namespace NameSet

instance : DecidableEq NameSet := fun a b =>
  decidable_of_iff (a.toList = b.toList) ⟨fun h => by cases a; cases b; simp_all, fun h => h ▸ rfl⟩

/-- `x` at its place in an ascending list, unless it is there already. -/
def place (x : String) : List String → List String
  | [] => [x]
  | y :: ys => if x < y then x :: y :: ys else if x = y then y :: ys else y :: place x ys

theorem mem_place {x y : String} {ys : List String} : y ∈ place x ys ↔ y = x ∨ y ∈ ys := by
  induction ys with
  | nil => simp [place]
  | cons z zs ih =>
    unfold place
    split
    · simp
    · split
      next h => subst h; simp
      next => simp only [List.mem_cons, ih]; grind

theorem place_ascending {x : String} {ys : List String} (h : ys.Pairwise (· < ·)) :
    (place x ys).Pairwise (· < ·) := by
  induction ys with
  | nil => simp [place]
  | cons z zs ih =>
    obtain ⟨hz, hzs⟩ := List.pairwise_cons.1 h
    unfold place
    split
    next hx => exact List.pairwise_cons.2 ⟨fun y hy => by
      rcases List.mem_cons.1 hy with rfl | hy
      · exact hx
      · exact String.lt_trans hx (hz y hy), h⟩
    next hx =>
      split
      next => exact h
      next hne =>
        refine List.pairwise_cons.2 ⟨fun y hy => ?_, ih hzs⟩
        rcases mem_place.1 hy with rfl | hy
        · exact (String.not_le.1 fun hle => hne (String.le_antisymm hle (String.not_lt.1 hx)))
        · exact hz y hy

theorem ascending_nil : ([] : List String).Pairwise (· < ·) := .nil

/-- The set without members. -/
def empty : NameSet := ⟨[], ascending_nil⟩

instance : EmptyCollection NameSet := ⟨empty⟩
instance : Inhabited NameSet := ⟨empty⟩

/-- The set with `x` added. -/
def insert (x : String) (s : NameSet) : NameSet :=
  ⟨place x s.toList, place_ascending s.ascending⟩

/-- The set of the names in a list. -/
def ofList (xs : List String) : NameSet :=
  xs.foldr insert empty

/-- The names in either set. -/
def union (s t : NameSet) : NameSet :=
  s.toList.foldr insert t

/-- The members that pass a test. -/
def filter (p : String → Bool) (s : NameSet) : NameSet :=
  ⟨s.toList.filter p, s.ascending.filter p⟩

/-- Whether `x` is a member. -/
def contains (s : NameSet) (x : String) : Bool :=
  s.toList.contains x

/-- The number of members. -/
def size (s : NameSet) : Nat :=
  s.toList.length

/-- The members in both sets, ascending. -/
def common (s t : NameSet) : List String :=
  s.toList.filter t.contains

instance : Membership String NameSet := ⟨fun s x => x ∈ s.toList⟩

theorem mem_def {x : String} {s : NameSet} : x ∈ s ↔ x ∈ s.toList := Iff.rfl

instance (x : String) (s : NameSet) : Decidable (x ∈ s) :=
  inferInstanceAs (Decidable (x ∈ s.toList))

@[simp] theorem not_mem_empty (x : String) : ¬ x ∈ empty := by simp [mem_def, empty]

@[simp] theorem mem_insert {x y : String} {s : NameSet} : y ∈ s.insert x ↔ y = x ∨ y ∈ s :=
  mem_place

@[simp] theorem mem_filter {p : String → Bool} {x : String} {s : NameSet} :
    x ∈ s.filter p ↔ x ∈ s ∧ p x = true :=
  List.mem_filter

@[simp] theorem contains_eq_true {x : String} {s : NameSet} : s.contains x = true ↔ x ∈ s := by
  simp [contains, mem_def]

@[simp] theorem contains_eq_false {x : String} {s : NameSet} : s.contains x = false ↔ x ∉ s := by
  rw [← contains_eq_true, Bool.not_eq_true]

theorem mem_foldr_insert {x : String} {xs : List String} {t : NameSet} :
    x ∈ xs.foldr insert t ↔ x ∈ xs ∨ x ∈ t := by
  induction xs with
  | nil => simp
  | cons y ys ih => simp only [List.foldr_cons, mem_insert, ih, List.mem_cons]; grind

@[simp] theorem mem_ofList {x : String} {xs : List String} : x ∈ ofList xs ↔ x ∈ xs := by
  simp [ofList, mem_foldr_insert]

theorem nodup (s : NameSet) : s.toList.Nodup := by
  refine s.ascending.imp fun hlt heq => ?_
  rw [heq] at hlt
  exact String.lt_irrefl _ hlt

/-- Sets with the same members are the same. -/
theorem ext {s t : NameSet} (h : ∀ x, x ∈ s ↔ x ∈ t) : s = t := by
  have hp : s.toList.Perm t.toList := (List.perm_ext_iff_of_nodup s.nodup t.nodup).mpr h
  have hl : s.toList = t.toList := hp.eq_of_pairwise
    (fun _ _ _ _ hab hba => absurd (String.lt_trans hab hba) (String.lt_irrefl _))
    s.ascending t.ascending
  obtain ⟨xs, hs⟩ := s
  obtain ⟨ys, ht⟩ := t
  subst hl
  rfl

/-- The members of a smaller set are listed among those of a larger one. -/
theorem toList_sublist {s t : NameSet} (h : ∀ x ∈ s, x ∈ t) : s.toList.Sublist t.toList := by
  have hs : s = t.filter s.contains := ext fun x => by
    rw [mem_filter, contains_eq_true]
    exact ⟨fun hx => ⟨h x hx, hx⟩, And.right⟩
  rw [hs]
  exact List.filter_sublist

@[simp] theorem mem_union {x : String} {s t : NameSet} : x ∈ s.union t ↔ x ∈ s ∨ x ∈ t := by
  rw [union, mem_foldr_insert, ← mem_def]

end NameSet

end QualityScale
