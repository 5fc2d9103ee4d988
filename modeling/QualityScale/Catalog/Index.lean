import QualityScale.Catalog.Rule

/-!
# The index of a list of rules

Rules are looked up in an index of their names and tiers.  It is made rule by rule, while the names
are checked: `RuleIndex.build` stops at the first rule that is at fault.

`RuleIndex.Indexes` says what an index has to hold of the rules so far.  A rule that may follow
keeps it (`RuleIndex.Indexes.add`), and so does a list of them (`RuleIndex.Indexes.addAll`).
-/

namespace QualityScale

/-- Where the rules of a list are found. -/
structure RuleIndex where
  /-- The place of each name in the list. -/
  places : List (String × Nat)
  /-- The names of the rules of each tier, in the order of the list. -/
  tiers : List (Tier × List String)

namespace RuleIndex

/-- The index of the list without rules. -/
def empty : RuleIndex := ⟨[], Tier.all.map fun t => (t, [])⟩

/-- The place of a name. -/
def place? (ix : RuleIndex) (name : String) : Option Nat :=
  ix.places.lookup name

/-- The names of the rules of a tier. -/
def names (ix : RuleIndex) (t : Tier) : List String :=
  (ix.tiers.lookup t).getD []

/-- The index with one more rule, which has the given place. -/
def add (ix : RuleIndex) (r : Rule) (place : Nat) : RuleIndex where
  places := (r.name, place) :: ix.places
  tiers := ix.tiers.map fun e => if e.1 = r.tier then (e.1, e.2 ++ [r.name]) else e

/-- The index with more rules, the first of which has the given place. -/
def addAll (ix : RuleIndex) (place : Nat) : List Rule → RuleIndex
  | [] => ix
  | r :: rs => (ix.add r place).addAll (place + 1) rs

/-- The index of a list of rules. -/
def ofRules (rules : List Rule) : RuleIndex :=
  empty.addAll 0 rules

/-- The index with more rules, if their names are well formed and new; else what is wrong with the
first rule that is at fault. -/
def build (ix : RuleIndex) (place : Nat) : List Rule → Except CatalogError RuleIndex
  | [] => .ok ix
  | r :: rs =>
    if !isKebab r.name then .error (.invalidName r.name)
    else if (ix.place? r.name).isSome then .error (.duplicate r.name)
    else (ix.add r place).build (place + 1) rs

/-- **What an index holds**: the places of all names of the rules, and of each tier its names in the
order of the rules. -/
structure Indexes (ix : RuleIndex) (rules : List Rule) : Prop where
  places : ∀ name i, ix.place? name = some i ↔ ∃ r, rules[i]? = some r ∧ r.name = name
  tiers : ix.tiers = Tier.all.map fun t => (t, (rules.filter fun r => r.tier == t).map (·.name))

theorem indexes_empty : empty.Indexes [] where
  places := by simp [place?, empty]
  tiers := rfl

section Indexes

variable {ix : RuleIndex} {rules : List Rule}

theorem Indexes.isSome_place?_iff (h : ix.Indexes rules) {name : String} :
    (ix.place? name).isSome = true ↔ ∃ r ∈ rules, r.name = name := by
  simp only [Option.isSome_iff_exists, h.places, List.mem_iff_getElem?]
  constructor
  · rintro ⟨i, r, hr, hname⟩
    exact ⟨r, ⟨i, hr⟩, hname⟩
  · rintro ⟨r, ⟨i, hr⟩, hname⟩
    exact ⟨i, r, hr, hname⟩

theorem Indexes.names_eq (h : ix.Indexes rules) (t : Tier) :
    ix.names t = (rules.filter fun r => r.tier == t).map (·.name) := by
  rw [names, h.tiers]
  cases t <;> rfl

/-- What stands in a list with one more rule. -/
theorem getElem?_concat_eq_some_iff {r x : Rule} {i : Nat} :
    (rules ++ [r])[i]? = some x ↔ rules[i]? = some x ∨ i = rules.length ∧ x = r := by
  rw [List.getElem?_append, List.getElem?_singleton]
  split
  next hi => simp [Nat.ne_of_lt hi]
  next hi =>
    rw [List.getElem?_eq_none (Nat.not_lt.mp hi)]
    grind

/-- **One more rule.**  An index stays right if the rule may follow. -/
theorem Indexes.add (h : ix.Indexes rules) {r : Rule} (hr : WellNamed (rules ++ [r])) :
    (ix.add r rules.length).Indexes (rules ++ [r]) where
  places := by
    intro name i
    simp only [getElem?_concat_eq_some_iff, or_and_right, exists_or]
    rw [place?, RuleIndex.add, List.lookup_cons]
    by_cases hname : name = r.name
    · subst hname
      -- No rule before the new one has its name, so the place is the last.
      have hbefore : ¬ ∃ x, rules[i]? = some x ∧ x.name = r.name := by
        rintro ⟨x, hx, hxr⟩
        exact (wellNamed_concat_iff.mp hr).2.2 x (List.mem_of_getElem? hx) hxr
      simp only [beq_self_eq_true, Option.some.injEq, hbefore, false_or]
      exact ⟨fun hi => ⟨r, ⟨hi.symm, rfl⟩, rfl⟩, fun ⟨_, ⟨hi, _⟩, _⟩ => hi.symm⟩
    · have hlast : ¬ ∃ x, (i = rules.length ∧ x = r) ∧ x.name = name := by
        rintro ⟨x, ⟨-, rfl⟩, hx⟩
        exact hname hx.symm
      simp only [beq_false_of_ne hname, hlast, or_false]
      exact h.places name i
  tiers := by
    rw [RuleIndex.add, h.tiers, List.map_map]
    refine List.map_congr_left fun t _ => ?_
    rw [Function.comp_apply, List.filter_append, List.map_append]
    by_cases ht : t = r.tier
    · simp [ht]
    · simp [ht, Ne.symm ht]

/-- **More rules.**  An index stays right if the rules may follow. -/
theorem Indexes.addAll (h : ix.Indexes rules) {more : List Rule}
    (hmore : WellNamed (rules ++ more)) :
    (ix.addAll rules.length more).Indexes (rules ++ more) := by
  induction more generalizing ix rules with
  | nil => rwa [RuleIndex.addAll, List.append_nil]
  | cons r rs ih =>
    rw [List.append_cons] at hmore ⊢
    have hadded := ih (h.add hmore.left) hmore
    rwa [List.length_append] at hadded

theorem indexes_ofRules (h : WellNamed rules) : (ofRules rules).Indexes rules :=
  indexes_empty.addAll h

/-! ### Building -/

theorem Indexes.build_cons_of_wellNamed (h : ix.Indexes rules) {r : Rule}
    (hr : WellNamed (rules ++ [r])) (rs : List Rule) :
    ix.build rules.length (r :: rs) =
      (ix.add r rules.length).build (rules ++ [r]).length rs := by
  obtain ⟨-, hkebab, hnew⟩ := wellNamed_concat_iff.mp hr
  have hunseen : ¬ (ix.place? r.name).isSome = true := by
    rw [h.isSome_place?_iff]
    rintro ⟨x, hx, hname⟩
    exact hnew x hx hname
  rw [build, hkebab, Bool.not_true, if_neg Bool.false_ne_true, if_neg hunseen, List.length_append]
  rfl

theorem Indexes.build_cons_of_faultAfter (h : ix.Indexes rules) {r : Rule} {e : CatalogError}
    (he : FaultAfter rules r e) (rs : List Rule) :
    ix.build rules.length (r :: rs) = .error e := by
  cases he with
  | name malformed => rw [build, malformed, Bool.not_false, if_pos rfl]
  | duplicate hkebab hseen =>
    rw [build, hkebab, Bool.not_true, if_neg Bool.false_ne_true,
      if_pos (h.isSome_place?_iff.mpr hseen)]

/-- **Building succeeds** exactly if the names stay well formed and all different, and then the
index has all rules. -/
theorem Indexes.build_eq_ok_iff (h : ix.Indexes rules) (hw : WellNamed rules) {more : List Rule}
    {built : RuleIndex} :
    ix.build rules.length more = .ok built ↔
      WellNamed (rules ++ more) ∧ built = ix.addAll rules.length more := by
  induction more generalizing ix rules with
  | nil =>
    rw [build, RuleIndex.addAll, List.append_nil, Except.ok.injEq, and_iff_right hw, eq_comm]
  | cons r rs ih =>
    rw [RuleIndex.addAll, List.append_cons]
    by_cases hr : WellNamed (rules ++ [r])
    · rw [h.build_cons_of_wellNamed hr, ih (h.add hr) hr, List.length_append]
      rfl
    · obtain ⟨e, he⟩ := (exists_faultAfter_iff hw).mpr hr
      rw [h.build_cons_of_faultAfter he]
      exact ⟨nofun, fun h' => absurd h'.1.left hr⟩

end Indexes

end RuleIndex

end QualityScale
