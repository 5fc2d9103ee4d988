import QualityScale.Yaml.Document

/-!
# Keys that differ

The reader refuses a mapping with the same key twice.  So in a value that was read, the keys of
every mapping differ, however deep it lies and whatever aliases led there.

* `Yields m P`: every result of the reading `m` has the property `P`.  It passes through the
  combinators that readings are made of.
* `KeysDiffer v`: the keys of every mapping in `v` differ.
* `keysDiffer_of_read?`: it holds of every value that was read.
* `isTagged_or_isTagged_of_same_text`: of two keys of a mapping that have one text, tags aside, one
  has a tag.
-/

namespace QualityScale.Yaml

/-! ### Properties of results -/

section Yields

variable {α β : Type} {P : α → Prop} {Q : β → Prop}

/-- Every result of a reading has the property. -/
def Yields (m : Resolve α) (P : α → Prop) : Prop :=
  ∀ s a t, m s = .ok (a, t) → P a

theorem Yields.pure {a : α} (h : P a) : Yields (Pure.pure a) P := by
  intro s b t hb
  cases hb
  exact h

theorem yields_throw {e : ReadError} : Yields (throw e : Resolve α) P := by
  intro s a t h
  cases h

theorem Yields.bind {m : Resolve α} {f : α → Resolve β} (hm : Yields m P)
    (hf : ∀ a, P a → Yields (f a) Q) : Yields (m >>= f) Q := by
  intro s b t h
  rcases hx : m s with e | ⟨a, s'⟩
  · simp [Bind.bind, StateT.bind, Except.bind, hx] at h
  · simp only [Bind.bind, StateT.bind, Except.bind, hx] at h
    exact hf a (hm s a s' hx) s' b t h

theorem yields_lift {x : Except ReadError α} (h : ∀ a, x = .ok a → P a) :
    Yields (liftM x : Resolve α) P := by
  intro s a t ha
  rcases x with e | a'
  · cases ha
  · cases ha
    exact h a rfl

/-- Reading a list item by item gives a list of such results. -/
theorem Yields.mapM {f : β → Resolve α} {xs : List β} (hf : ∀ x, Yields (f x) P) :
    Yields (xs.mapM f) fun ys => ∀ y ∈ ys, P y := by
  induction xs with
  | nil => exact .pure fun y hy => absurd hy List.not_mem_nil
  | cons x xs ih =>
    rw [List.mapM_cons]
    refine (hf x).bind fun y hy => ih.bind fun ys hys => .pure fun z hz => ?_
    rcases List.mem_cons.mp hz with rfl | hz
    · exact hy
    · exact hys z hz

end Yields

/-! ### Values whose keys differ -/

/-- The keys of every mapping in a value differ. -/
inductive KeysDiffer : Value → Prop
  | null : KeysDiffer .null
  | bool (b : Bool) : KeysDiffer (.bool b)
  | number (n : Number) : KeysDiffer (.number n)
  | string (s : String) : KeysDiffer (.string s)
  | sequence {items : List Value} : (∀ v ∈ items, KeysDiffer v) → KeysDiffer (.sequence items)
  | mapping {entries : List (Value × Value)} : distinctKeys entries = true →
      (∀ e ∈ entries, KeysDiffer e.1) → (∀ e ∈ entries, KeysDiffer e.2) →
      KeysDiffer (.mapping entries)
  | tagged (tag : String) {v : Value} : KeysDiffer v → KeysDiffer (.tagged tag v)

theorem KeysDiffer.underTag {v : Value} (h : KeysDiffer v) (tag : Option Tag) :
    KeysDiffer (underTag tag v) := by
  unfold Yaml.underTag
  split
  · exact .tagged _ h
  · exact h

theorem KeysDiffer.untag {v : Value} (h : KeysDiffer v) : KeysDiffer v.untag := by
  induction h with
  | tagged tag _ ih => exact ih
  | null => exact .null
  | bool b => exact .bool b
  | number n => exact .number n
  | string s => exact .string s
  | sequence hi _ => exact .sequence hi
  | mapping hd hk hv _ _ => exact .mapping hd hk hv

theorem KeysDiffer.distinctKeys {es : List (Value × Value)} (h : KeysDiffer (.mapping es)) :
    distinctKeys es = true := by
  cases h with
  | mapping hd _ _ => exact hd

theorem KeysDiffer.value {es : List (Value × Value)} (h : KeysDiffer (.mapping es))
    {e : Value × Value} (he : e ∈ es) : KeysDiffer e.2 := by
  cases h with
  | mapping _ _ hv => exact hv e he

theorem keysDiffer_of_ofPlain {text : String} {v : Value} (h : Value.ofPlain text = .ok v) :
    KeysDiffer v := by
  unfold Value.ofPlain at h
  split at h
  · cases h
    exact .null
  · split at h
    · cases h
      exact .bool _
    · rcases hn : numberOf? text with e | _ | n
      · simp [hn, Bind.bind, Except.bind] at h
      · simp only [hn, Bind.bind, Except.bind] at h
        cases h
        exact .string _
      · simp only [hn, Bind.bind, Except.bind] at h
        cases h
        exact .number _

theorem keysDiffer_of_scalarValue {tag : Option Tag} {text : String} {plain : Bool} {v : Value}
    (h : scalarValue tag text plain = .ok v) : KeysDiffer v := by
  have hplain : (if plain then Value.ofPlain text else .ok (.string text)) = .ok v →
      KeysDiffer v := by
    split
    · exact keysDiffer_of_ofPlain
    · intro h
      cases h
      exact .string _
  unfold scalarValue at h
  split at h
  · exact hplain h
  · exact hplain h
  · cases h
    exact .string _
  · split at h
    · cases h
      exact .bool _
    · cases h
  · split at h
    · cases h
      exact .null
    · cases h
  · split at h
    · cases h
      exact .number _
    · cases h
    · cases h
  · split at h
    · cases h
      exact .number _
    · cases h

/-! ### The reader -/

theorem yields_ofLeaf {n : Node} : Yields (Value.ofLeaf n) KeysDiffer := by
  cases n with
  | scalar p text plain =>
    exact (yields_lift fun v => keysDiffer_of_scalarValue).bind fun v hv => .pure (hv.underTag _)
  | aliasOf _ | sequence _ _ | mapping _ _ => exact yields_throw

theorem yields_ofEntry {below : Node → Resolve Value} (hb : ∀ n, Yields (below n) KeysDiffer)
    {e : Node × Node} :
    Yields (Value.ofEntry below e) fun e => KeysDiffer e.1 ∧ KeysDiffer e.2 :=
  (hb e.1).bind fun _ hk => (hb e.2).bind fun _ hv => .pure ⟨hk, hv⟩

/-- **One level of the reader.**  If all that lies below is in order, so is the value of a node,
for a mapping with the same key twice is refused. -/
theorem yields_ofTarget {below : Node → Resolve Value} (hb : ∀ n, Yields (below n) KeysDiffer)
    {n : Node} : Yields (Value.ofTarget below n) KeysDiffer := by
  cases n with
  | sequence p items =>
    exact (Yields.mapM hb).bind fun vs hvs => .pure (KeysDiffer.underTag (.sequence hvs) _)
  | mapping p entries =>
    refine (Yields.mapM fun e => yields_ofEntry hb).bind fun es hes => ?_
    split
    next hd =>
      have hm : KeysDiffer (.mapping es) :=
        .mapping hd (fun e he => (hes e he).1) fun e he => (hes e he).2
      exact .pure (hm.underTag _)
    next => exact yields_throw
  | aliasOf target =>
    show Yields (Value.ofLeaf (.aliasOf target)) KeysDiffer
    exact yields_ofLeaf
  | scalar p text plain =>
    show Yields (Value.ofLeaf (.scalar p text plain)) KeysDiffer
    exact yields_ofLeaf

theorem yields_ofNode {aliases : Aliases} (depth : Nat) :
    ∀ n, Yields (Value.ofNode aliases depth n) KeysDiffer := by
  have hfollow : ∀ n, Yields (follow aliases n) fun _ => True := fun _ _ _ _ _ => trivial
  induction depth with
  | zero => exact fun n => (hfollow n).bind fun _ _ => yields_ofLeaf
  | succ depth ih => exact fun n => (hfollow n).bind fun _ _ => yields_ofTarget ih

/-- **In a value that was read, the keys of every mapping differ.** -/
theorem keysDiffer_of_read? {text : String} {doc : Value} (h : Value.read? text = .ok doc) :
    KeysDiffer doc := by
  unfold Value.read? at h
  rcases hn : Node.read? text with e | _ | n
  · simp [hn, Bind.bind, Except.bind] at h
  · simp only [hn, Bind.bind, Except.bind] at h
    cases h
    exact .null
  · simp only [hn, Bind.bind, Except.bind] at h
    unfold Value.ofDocument StateT.run' at h
    rcases hv : Value.ofNode (.ofNode n) nestingLimit n 0 with e | ⟨v, s⟩
    · simp [hv, Functor.map, Except.map] at h
    · simp only [hv, Functor.map, Except.map] at h
      cases h
      exact yields_ofNode nestingLimit n 0 _ s hv

/-! ### Texts as keys -/

/-- A value that stands under a tag. -/
def Value.IsTagged (v : Value) : Prop :=
  ∃ tag w, v = .tagged tag w

theorem Value.eq_string_or_isTagged {v : Value} {s : String} (h : v.untag = .string s) :
    v = .string s ∨ v.IsTagged := by
  cases v with
  | tagged tag w => exact .inr ⟨tag, w, rfl⟩
  | _ => exact .inl h

theorem distinctKeys_iff_pairwise {es : List (Value × Value)} :
    distinctKeys es = true ↔ es.Pairwise fun e f => e.1.same f.1 = false := by
  induction es with
  | nil => simp [distinctKeys]
  | cons e es ih =>
    rw [distinctKeys, Bool.and_eq_true, ih, List.pairwise_cons, List.all_eq_true]
    simp only [Bool.not_eq_true']

/-- **Of two keys with one text, tags aside, one has a tag.** -/
theorem isTagged_or_isTagged_of_same_text {es : List (Value × Value)} {e f : Value × Value}
    {s : String} (hd : distinctKeys es = true) (h : [e, f].Sublist es)
    (he : e.1.untag = .string s) (hf : f.1.untag = .string s) :
    e.1.IsTagged ∨ f.1.IsTagged := by
  have hne : e.1.same f.1 = false :=
    List.pairwise_iff_forall_sublist.mp (distinctKeys_iff_pairwise.mp hd) h
  rcases Value.eq_string_or_isTagged he with he | he
  · rcases Value.eq_string_or_isTagged hf with hf | hf
    · rw [he, hf, Value.same, beq_self_eq_true] at hne
      exact absurd hne (by decide)
    · exact .inr hf
  · exact .inl he

end QualityScale.Yaml
