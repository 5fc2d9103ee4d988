/-!
# Maps keyed by name

A map from names to values is kept as its list of entries with strictly ascending keys, so its
entries come in the order of their keys and no key comes twice.
-/

namespace QualityScale

/-- A finite map from names: its entries, keys strictly ascending. -/
structure NameMap (α : Type) where
  /-- The entries in the order of their keys. -/
  entries : List (String × α)
  ascending : (entries.map Prod.fst).Pairwise (· < ·)

namespace NameMap

variable {α β : Type}

/-- The entry at its place in a list with ascending keys; an equal key loses its value. -/
def place (k : String) (v : α) : List (String × α) → List (String × α)
  | [] => [(k, v)]
  | e :: es =>
    if k < e.1 then (k, v) :: e :: es else if k = e.1 then (k, v) :: es else e :: place k v es

theorem mem_keys_place {k x : String} {v : α} {es : List (String × α)} :
    x ∈ (place k v es).map Prod.fst ↔ x = k ∨ x ∈ es.map Prod.fst := by
  induction es with
  | nil => simp [place]
  | cons e es ih =>
    unfold place
    split
    · simp
    · split
      next h => simp [h]
      next => simp only [List.map_cons, List.mem_cons, ih]; grind

theorem place_ascending {k : String} {v : α} {es : List (String × α)}
    (h : (es.map Prod.fst).Pairwise (· < ·)) :
    ((place k v es).map Prod.fst).Pairwise (· < ·) := by
  induction es with
  | nil => simp [place]
  | cons e es ih =>
    obtain ⟨he, hes⟩ := List.pairwise_cons.1 h
    unfold place
    split
    next hk =>
      refine List.pairwise_cons.2 ⟨fun y hy => ?_, h⟩
      rcases List.mem_cons.1 hy with rfl | hy
      · exact hk
      · exact String.lt_trans hk (he y hy)
    next hk =>
      split
      next heq => subst heq; exact List.pairwise_cons.2 ⟨he, hes⟩
      next hne =>
        refine List.pairwise_cons.2 ⟨fun y hy => ?_, ih hes⟩
        rcases mem_keys_place.1 hy with rfl | hy
        · exact (String.not_le.1 fun hle => hne (String.le_antisymm hle (String.not_lt.1 hk)))
        · exact he y hy

theorem mem_place {k x : String} {v w : α} {es : List (String × α)}
    (h : (es.map Prod.fst).Pairwise (· < ·)) :
    (x, w) ∈ place k v es ↔ (x, w) = (k, v) ∨ x ≠ k ∧ (x, w) ∈ es := by
  induction es with
  | nil => simp [place]
  | cons e es ih =>
    obtain ⟨he, hes⟩ := List.pairwise_cons.1 h
    have hkey : ∀ {x w}, (x, w) ∈ es → e.1 < x := fun hm => he _ (List.mem_map_of_mem hm)
    unfold place
    split
    next hk =>
      -- The keys are beyond `k` from here on.
      have hne : (x, w) ∈ e :: es → x ≠ k := by
        intro hm heq
        subst heq
        rcases List.mem_cons.1 hm with rfl | hm
        · exact String.lt_irrefl _ hk
        · exact String.lt_irrefl _ (String.lt_trans hk (hkey hm))
      rw [List.mem_cons]
      exact or_congr_right ⟨fun hm => ⟨hne hm, hm⟩, And.right⟩
    next =>
      split
      next heq =>
        subst heq
        have hne : (x, w) ∈ es → x ≠ e.1 := fun hm heq =>
          String.lt_irrefl _ (heq ▸ hkey hm)
        rw [List.mem_cons, List.mem_cons]
        grind
      next hne =>
        rw [List.mem_cons, List.mem_cons, ih hes]
        grind

/-- The map without entries. -/
def empty : NameMap α := ⟨[], .nil⟩

instance : EmptyCollection (NameMap α) := ⟨empty⟩

/-- The map with `k` sent to `v`; an earlier value of `k` is replaced. -/
def insert (k : String) (v : α) (m : NameMap α) : NameMap α :=
  ⟨place k v m.entries, place_ascending m.ascending⟩

/-- The value of `k`, if it has one. -/
def find? (m : NameMap α) (k : String) : Option α :=
  m.entries.lookup k

/-- The keys, ascending. -/
def keys (m : NameMap α) : List String :=
  m.entries.map Prod.fst

/-- The values in the order of their keys. -/
def values (m : NameMap α) : List α :=
  m.entries.map Prod.snd

/-- The number of entries. -/
def size (m : NameMap α) : Nat :=
  m.entries.length

/-- The map with every value changed and every key kept. -/
def map (f : α → β) (m : NameMap α) : NameMap β :=
  ⟨m.entries.map fun e => (e.1, f e.2), by
    have h : (m.entries.map fun e => (e.1, f e.2)).map Prod.fst = m.entries.map Prod.fst := by
      simp
    exact h ▸ m.ascending⟩

theorem nodup_keys (m : NameMap α) : m.keys.Nodup := by
  refine m.ascending.imp fun hlt heq => ?_
  rw [heq] at hlt
  exact String.lt_irrefl _ hlt

theorem mem_keys_of_mem {m : NameMap α} {k : String} {v : α} (h : (k, v) ∈ m.entries) :
    k ∈ m.keys :=
  List.mem_map_of_mem h

/-- A key has one value. -/
theorem value_unique {m : NameMap α} {k : String} {v w : α} (hv : (k, v) ∈ m.entries)
    (hw : (k, w) ∈ m.entries) : v = w := by
  have hkeys : m.entries.Pairwise fun a b => a.1 ≠ b.1 := List.pairwise_map.mp m.nodup_keys
  have hsame := List.Pairwise.forall_of_forall_of_flip (R := fun a b => a.1 = b.1 → a = b)
    (fun _ _ _ => rfl) (hkeys.imp fun hne h => absurd h hne)
    (hkeys.imp fun hne h => absurd h.symm hne)
  exact congrArg Prod.snd (hsame hv hw rfl)

@[simp] theorem length_keys (m : NameMap α) : m.keys.length = m.size := by
  simp [keys, size]

/-- Maps with the same entries are the same. -/
theorem ext {m n : NameMap α} (h : m.entries = n.entries) : m = n := by
  cases m
  cases n
  cases h
  rfl

@[simp] theorem entries_map (f : α → β) (m : NameMap α) :
    (m.map f).entries = m.entries.map fun e => (e.1, f e.2) := rfl

@[simp] theorem keys_map (f : α → β) (m : NameMap α) : (m.map f).keys = m.keys := by
  simp [keys, map]

@[simp] theorem values_map (f : α → β) (m : NameMap α) : (m.map f).values = m.values.map f := by
  simp [values, map]

@[simp] theorem size_map (f : α → β) (m : NameMap α) : (m.map f).size = m.size := by
  simp [size, map]

@[simp] theorem map_id (m : NameMap α) : m.map id = m :=
  ext (List.map_id _)

@[simp] theorem map_map {γ : Type} (g : β → γ) (f : α → β) (m : NameMap α) :
    (m.map f).map g = m.map (g ∘ f) :=
  ext List.map_map

theorem mem_keys_insert {k x : String} {v : α} {m : NameMap α} :
    x ∈ (m.insert k v).keys ↔ x = k ∨ x ∈ m.keys :=
  mem_keys_place

/-- The entries after `k` is sent to `v`: that one, and those of the other keys. -/
theorem mem_entries_insert {k x : String} {v w : α} {m : NameMap α} :
    (x, w) ∈ (m.insert k v).entries ↔ x = k ∧ w = v ∨ x ≠ k ∧ (x, w) ∈ m.entries := by
  rw [insert, mem_place m.ascending, Prod.mk.injEq]

end NameMap

end QualityScale
