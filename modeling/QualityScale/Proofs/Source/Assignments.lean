import QualityScale.Proofs.Source.LineWise

/-!
# Lines that assign to a name

A line assigns to a name if it starts with it, and after blanks there is a single equals sign with
something behind it.  An annotation may stand before that sign, and then it is the first one after
the colon.

* `TakesValue after`: how such a line goes on after the name.
* `AssignsTo line name`: the line assigns to the name.
* `startsIn_assignment_iff`: the pattern of an assignment finds every way to read a line so.
* `NearMiss name line`: the line looks like an assignment to the name and is none.
* `assigns_iff_assignsTo`: which modules assign to a name.
-/

namespace QualityScale.Source

open Text (isBlank isWord Blanks IsIdentifier run_append_cancel forall_head?_cons)

/-- **How an assignment goes on after the name**: with an equals sign and another character that is
none, or with a colon, at least one character that is no equals sign, and then the first equals sign,
with another character that is none behind it. -/
inductive TakesValue : List Char → Prop
  | plain {c} (rest : List Char) : c ≠ '=' → TakesValue ('=' :: c :: rest)
  | annotated {hint c} (rest : List Char) : hint ≠ [] → '=' ∉ hint → c ≠ '=' →
      TakesValue (':' :: (hint ++ '=' :: c :: rest))

/-- **The line assigns to this name**: it starts with the name, blanks or none, and a value. -/
def AssignsTo (line name : List Char) : Prop :=
  ∃ gap after, Blanks gap ∧ TakesValue after ∧ line = name ++ (gap ++ after)

/-- **The line looks like an assignment to the name and is none.** -/
inductive NearMiss (name : List Char) : List Char → Prop
  /-- The line is indented. -/
  | indented {indent line} : indent ≠ [] → Blanks indent → NearMiss name (indent ++ line)
  /-- The name is compared with something. -/
  | comparison {gap} (rest : List Char) : Blanks gap →
      NearMiss name (name ++ (gap ++ '=' :: '=' :: rest))
  /-- The colon and the equals sign are one operator. -/
  | walrus {gap} (rest : List Char) : Blanks gap →
      NearMiss name (name ++ (gap ++ ':' :: '=' :: rest))
  /-- The name is annotated, and there is no equals sign. -/
  | unvalued {gap hint} : Blanks gap → '=' ∉ hint → NearMiss name (name ++ (gap ++ ':' :: hint))
  /-- The line starts with another identifier, such as a longer one. -/
  | other {other rest} : IsIdentifier other → other ≠ name → (∀ c ∈ rest.head?, isWord c = false) →
      NearMiss name (other ++ rest)
  /-- The line ends with the equals sign. -/
  | cutOff {gap} : Blanks gap → NearMiss name (name ++ (gap ++ ['=']))
  /-- The line ends with the equals sign after an annotation. -/
  | cutOffHint {gap hint} : Blanks gap → '=' ∉ hint →
      NearMiss name (name ++ (gap ++ ':' :: (hint ++ ['='])))

section Assignment

variable {line name gap after s u : List Char}

/-! ### The pattern of an assignment -/

theorem forall_bne_iff {e : Char} : (∀ c ∈ s, (c != e) = true) ↔ e ∉ s := by
  simp only [bne_iff_ne]
  exact ⟨fun h he => h e he rfl, fun h c hc hce => h (hce ▸ hc)⟩

theorem startsIn_value_iff :
    (Pattern.all [.optional (.all [.literal [':'], .many1 (· != '=')]), .literal ['='],
      .one (· != '=')]).startsIn after = true ↔ TakesValue after := by
  rw [Pattern.startsIn_iff]
  constructor
  · rintro ⟨_, rest, ⟨_, _, hhint, ⟨sign, _, hsign, ⟨c, hc, rfl⟩, rfl⟩, rfl⟩, rfl⟩
    obtain rfl : sign = ['='] := hsign
    have hc : c ≠ '=' := bne_iff_ne.mp hc
    rcases hhint with rfl | ⟨colon, hint, hcolon, hhint, rfl⟩
    · exact .plain rest hc
    · obtain rfl : colon = [':'] := hcolon
      obtain ⟨hne, hall⟩ := Pattern.matches_many1_iff.mp hhint
      simpa using TakesValue.annotated rest hne (forall_bne_iff.mp hall) hc
  · intro h
    have hvalue : ∀ c ≠ '=', (Pattern.all [.literal ['='], .one (· != '=')]).Matches ['=', c] :=
      fun c hc => ⟨['='], [c], rfl, ⟨c, bne_iff_ne.mpr hc, rfl⟩, rfl⟩
    cases h with
    | @plain c rest hc =>
      exact ⟨['=', c], rest, ⟨[], ['=', c], .inl rfl, hvalue c hc, rfl⟩, rfl⟩
    | @annotated hint c rest hne hnone hc =>
      have hhint : (Pattern.many1 (· != '=')).Matches hint :=
        Pattern.matches_many1_iff.mpr ⟨hne, forall_bne_iff.mpr hnone⟩
      exact ⟨':' :: (hint ++ ['=', c]), rest,
        ⟨':' :: hint, ['=', c], .inr ⟨[':'], hint, rfl, hhint, rfl⟩, hvalue c hc,
          rfl⟩, by simp⟩

theorem startsIn_assignment_iff :
    (assignment name).startsIn line = true ↔ AssignsTo line name := by
  have hparts : assignment name = .seq (.literal name) (.seq gap
      (.all [.optional (.all [.literal [':'], .many1 (· != '=')]), .literal ['='],
        .one (· != '=')])) := rfl
  rw [hparts]
  simp only [Pattern.startsIn_seq_iff, startsIn_value_iff]
  constructor
  · rintro ⟨start, _, hstart, rfl, gap, after, hgap, rfl, htakes⟩
    obtain rfl : start = name := hstart
    exact ⟨gap, after, hgap, htakes, rfl⟩
  · rintro ⟨gap, after, hgap, htakes, rfl⟩
    exact ⟨name, _, rfl, rfl, gap, after, hgap, rfl, htakes⟩

/-! ### What follows the name -/

/-- What takes a value starts with an equals sign or a colon. -/
theorem TakesValue.forall_head? {P : Char → Prop} (h : TakesValue after) (hsign : P '=')
    (hcolon : P ':') : ∀ c ∈ after.head?, P c := by
  cases h with
  | plain => exact forall_head?_cons hsign
  | annotated => exact forall_head?_cons hcolon

theorem takesValue_sign_iff : TakesValue ('=' :: s) ↔ ∃ c rest, c ≠ '=' ∧ s = c :: rest := by
  constructor
  · intro h
    cases h with
    | plain rest hc => exact ⟨_, rest, hc, rfl⟩
  · rintro ⟨c, rest, hc, rfl⟩
    exact .plain rest hc

theorem takesValue_colon_iff :
    TakesValue (':' :: s) ↔ ∃ hint c rest,
      hint ≠ [] ∧ '=' ∉ hint ∧ c ≠ '=' ∧ s = hint ++ '=' :: c :: rest := by
  constructor
  · intro h
    cases h with
    | annotated rest hne hnone hc => exact ⟨_, _, rest, hne, hnone, hc, rfl⟩
  · rintro ⟨hint, c, rest, hne, hnone, hc, rfl⟩
    exact .annotated rest hne hnone hc

/-- The blanks after a name end where something else comes, so what takes the value is found
there. -/
theorem assignsTo_append_iff (hgap : Blanks gap) (hafter : ∀ c ∈ after.head?, isBlank c = false) :
    AssignsTo (name ++ (gap ++ after)) name ↔ TakesValue after := by
  constructor
  · rintro ⟨gap', after', hgap', htakes, hsame⟩
    obtain ⟨-, rfl⟩ := run_append_cancel hgap hgap' hafter
      (htakes.forall_head? (by decide) (by decide)) (List.append_cancel_left hsame)
    exact htakes
  · intro htakes
    exact ⟨gap, after, hgap, htakes, rfl⟩

theorem AssignsTo.not_blank_head? (h : AssignsTo line name) (hname : IsIdentifier name) :
    ∀ c ∈ line.head?, isBlank c = false := by
  obtain ⟨gap, after, -, -, rfl⟩ := h
  exact hname.not_blank_head? _

/-- A line that assigns to an identifier starts with no other one. -/
theorem AssignsTo.eq_of_append (h : AssignsTo (u ++ s) name) (hname : IsIdentifier name)
    (hu : IsIdentifier u) (hs : ∀ c ∈ s.head?, isWord c = false) : u = name := by
  obtain ⟨gap, after, hgap, htakes, hsame⟩ := h
  have hstop : ∀ c ∈ (gap ++ after).head?, isWord c = false :=
    hgap.not_word_head? (htakes.forall_head? (by decide) (by decide))
  exact (run_append_cancel hu.2 hname.2 hs hstop hsame).1

theorem NearMiss.not_assignsTo (h : NearMiss name line) (hname : IsIdentifier name) :
    ¬ AssignsTo line name := by
  cases h with
  | @indented indent line hne hindent =>
    intro hassigns
    cases indent with
    | nil => exact hne rfl
    | cons b indent =>
      have hfirst : isBlank b = false := hassigns.not_blank_head? hname b rfl
      rw [hindent b List.mem_cons_self] at hfirst
      cases hfirst
  | comparison rest hgap =>
    rw [assignsTo_append_iff hgap (forall_head?_cons (by decide)), takesValue_sign_iff]
    rintro ⟨c, rest, hc, hsame⟩
    exact hc (List.cons.inj hsame).1.symm
  | walrus rest hgap =>
    rw [assignsTo_append_iff hgap (forall_head?_cons (by decide)), takesValue_colon_iff]
    rintro ⟨hint, c, rest, hne, hnone, -, hsame⟩
    cases hint with
    | nil => exact hne rfl
    | cons d hint => exact hnone ((List.cons.inj hsame).1 ▸ List.mem_cons_self)
  | unvalued hgap hnone =>
    rw [assignsTo_append_iff hgap (forall_head?_cons (by decide)), takesValue_colon_iff]
    rintro ⟨hint, c, rest, -, -, -, rfl⟩
    exact hnone (List.mem_append_right _ List.mem_cons_self)
  | other hother hne hrest =>
    intro hassigns
    exact hne (hassigns.eq_of_append hname hother hrest)
  | cutOff hgap =>
    rw [assignsTo_append_iff hgap (forall_head?_cons (by decide)), takesValue_sign_iff]
    rintro ⟨c, rest, -, hsame⟩
    cases hsame
  | cutOffHint hgap hnone =>
    rw [assignsTo_append_iff hgap (forall_head?_cons (by decide)), takesValue_colon_iff]
    rintro ⟨hint, c, rest, -, hnone', -, hsame⟩
    have hstop : ∀ rest : List Char, ∀ c ∈ ('=' :: rest).head?, (c != '=') = false :=
      fun rest => forall_head?_cons rfl
    -- Both sides are cut at their first equals sign, and only one of them goes on.
    have hrest := (run_append_cancel (forall_bne_iff.mpr hnone) (forall_bne_iff.mpr hnone')
      (hstop _) (hstop _) hsame).2
    cases hrest

end Assignment

/-- **A module assigns to a name if some line that is no comment does**, and no line does that only
looks so. -/
theorem assigns_iff_assignsTo (source name : List Char) :
    (assigns source name = true ↔
      ∃ line ∈ Text.lines source, ¬ StartsComment line ∧ AssignsTo line name) ∧
    (IsIdentifier name → ∀ line, NearMiss name line → ¬ AssignsTo line name) := by
  constructor
  · rw [assigns, List.any_eq_true]
    simp only [mem_codeLines_iff, startsIn_assignment_iff, and_assoc]
  · intro hname line hmiss
    exact hmiss.not_assignsTo hname

/-- A module in which one line assigns to a longer name, another one compares, and the third one
assigns. -/
theorem assigns_iff_assignsTo_oneOfThree :
    let name := "LIMIT".toList
    let source := "LIMIT_MAX = 1\nLIMIT == 2\nLIMIT : int = 3\n".toList
    (IsIdentifier name ∧ NearMiss name "LIMIT_MAX = 1".toList ∧
        NearMiss name "LIMIT == 2".toList) ∧
      ¬ AssignsTo "LIMIT_MAX = 1".toList name ∧ ¬ AssignsTo "LIMIT == 2".toList name ∧
      assigns source name = true := by
  intro name source
  have hname : IsIdentifier name := by decide
  have hmax : IsIdentifier "LIMIT_MAX".toList := by decide
  have hgap : Blanks [' '] := by decide
  have hlonger : NearMiss name "LIMIT_MAX = 1".toList :=
    .other hmax (by decide) (forall_head?_cons (by decide))
  have hcompares : NearMiss name "LIMIT == 2".toList :=
    .comparison " 2".toList hgap
  have hvalue : TakesValue (':' :: (" int ".toList ++ '=' :: ' ' :: ['3'])) :=
    .annotated ['3'] (by decide) (by decide) (by decide)
  have hassigns : AssignsTo "LIMIT : int = 3".toList name := ⟨[' '], _, hgap, hvalue, rfl⟩
  have hline : "LIMIT : int = 3".toList ∈ Text.lines source ∧
      ¬ isComment "LIMIT : int = 3".toList = true := by decide +kernel
  have hnone := (assigns_iff_assignsTo source name).2 hname
  refine ⟨⟨hname, hlonger, hcompares⟩, hnone _ hlonger, hnone _ hcompares, ?_⟩
  exact (assigns_iff_assignsTo source name).1.mpr
    ⟨_, hline.1, fun h => hline.2 (isComment_iff.mpr h), hassigns⟩

end QualityScale.Source
