import QualityScale.Json.Record
import QualityScale.Proofs.Command.Validation
import QualityScale.Proofs.Json.RoundTrip

/-!
# JSON forms and back

The values of the library are written as JSON and read back as they were.

* `ReadsBackAs`: what is read from either layout of a JSON value.
* `json_reads_back`: entries of rules, presences, shortfalls, findings, reports, exemptions and
  configurations are read back, whatever texts they hold.  So is the report that a validation
  prints.
-/

namespace QualityScale

open Json (Node Numeral Value)

namespace Json

/-! ### Counts -/

theorem le_ofDigitChars (cs : List Char) (n : Nat) : n ≤ Nat.ofDigitChars 10 cs n := by
  induction cs generalizing n with
  | nil => exact Nat.le_refl n
  | cons c cs ih => exact Nat.le_trans (by omega) (ih (10 * n + (c.toNat - '0'.toNat)))

/-- Digits below the limit are all taken. -/
theorem growSignificand_eq (cs : List Char) (n : Nat)
    (h : Nat.ofDigitChars 10 cs n < significandLimit) :
    growSignificand n cs = (Nat.ofDigitChars 10 cs n, []) := by
  induction cs generalizing n with
  | nil => rfl
  | cons c cs ih =>
    have hgrown : 10 * n + digitValue c < significandLimit :=
      Nat.lt_of_le_of_lt (le_ofDigitChars cs _) h
    rw [growSignificand, if_pos hgrown]
    exact ih _ h

/-- **A count that fits 64 bits is read back.** -/
theorem Node.count?_tree {n : Nat} (h : n < 2 ^ 64) : (Value.ofNat n).tree.count? = some n := by
  have hvalue : Nat.ofDigitChars 10 (Nat.toDigits 10 n) 0 = n :=
    Nat.ofDigitChars_toDigits (by decide) (by decide)
  have hgrown : growSignificand 0 (Nat.toDigits 10 n) = (n, []) := by
    rw [growSignificand_eq _ 0 (by rw [hvalue]; exact h), hvalue]
  have hnumber : (Numeral.ofInt n).number? = some (.whole n) := by
    rw [Numeral.number?, Numeral.ofInt, Int.natAbs_natCast, hgrown]
    simp
  rw [Value.ofNat, Value.tree, Node.count?, hnumber]
  have hpositive : (Numeral.ofInt n).negative = false := by simp [Numeral.ofInt]
  rw [hpositive]
  rfl

/-! ### Texts, lists and records -/

theorem Node.text?_tree (s : String) : (Value.string s).tree.text? = some s :=
  pieceText?_piecesOf s

theorem Node.variant?_tree (s : String) : (Value.string s).tree.variant? = some (s, none) := by
  rw [Value.tree, Node.variant?, pieceText?_piecesOf]
  rfl

theorem Node.constant?_tree (s : String) : (Value.string s).tree.constant? = some s := by
  rw [Node.constant?, Node.variant?_tree]

/-- A list is read back if its items are. -/
theorem Node.list?_tree {α : Type} {ofJson? : Node → Option α} {toJson : α → Value} {as : List α}
    (h : ∀ a ∈ as, ofJson? (toJson a).tree = some a) :
    (Value.array (as.map toJson)).tree.list? ofJson? = some as := by
  rw [Value.tree, itemTrees_eq_map, Node.list?, List.map_map]
  induction as with
  | nil => rfl
  | cons a as ih =>
    rw [List.map_cons, List.mapM_cons, ih fun b hb => h b (List.mem_cons_of_mem _ hb),
      Function.comp_apply, h a List.mem_cons_self]
    rfl

theorem Node.texts?_tree (names : List String) :
    (Value.array (names.map .string)).tree.list? Node.text? = some names :=
  Node.list?_tree fun name _ => Node.text?_tree name

/-- A record of two fields is read back. -/
theorem Node.pair?_tree {first second : String} (hne : first ≠ second) (a b : Value) :
    (Value.object [(first, a), (second, b)]).tree.pair? first second =
      some (false, some a.tree, some b.tree) := by
  have hfirst : single? [(first, a.tree), (second, b.tree)] first = some (some a.tree) := by
    simp [single?, hne.symm]
  have hsecond : single? [(first, a.tree), (second, b.tree)] second = some (some b.tree) := by
    simp [single?, hne]
  simp [Value.tree, fieldTrees, Node.pair?, Node.record?, pieceText?_piecesOf, hfirst, hsecond]

end Json

/-! ### The tree of each form -/

theorem Tier.ofJson?_tree (t : Tier) : Tier.ofJson? t.toJson.tree = some t := by
  rw [Tier.ofJson?, Tier.toJson, Node.constant?_tree]
  exact Tier.ofName?_eq_some_iff.mpr rfl

theorem ForbiddenReason.ofJson?_tree (r : ForbiddenReason) :
    ForbiddenReason.ofJson? r.toJson.tree = some r := by
  rw [ForbiddenReason.ofJson?, ForbiddenReason.toJson, Node.constant?_tree]
  cases r <;> rfl

theorem Presence.ofJson?_tree (p : Presence) : Presence.ofJson? p.toJson.tree = some p := by
  cases p with
  | forbidden r =>
    have hvariant : (Presence.forbidden r).toJson.tree.variant? =
        some ("forbidden", some r.toJson.tree) := by
      simp [Presence.toJson, Value.tree, Json.fieldTrees, Node.variant?, Json.pieceText?_piecesOf]
    rw [Presence.ofJson?, hvariant]
    simp [ForbiddenReason.ofJson?_tree]
  | notApplicable | grandfathered | required =>
    simp [Presence.ofJson?, Presence.toJson, Node.variant?_tree, Node.constant?_tree]

theorem Json.document?_tree_string (depth : Nat) (s : String) :
    (Value.string s).tree.document? depth = some (.string s) := by
  rw [Value.tree, Node.document?, Json.pieceText?_piecesOf, Option.map_some]

theorem Json.document?_tree_texts (depth : Nat) (fields : List (String × String)) :
    (Value.object (fields.map fun f => (f.1, .string f.2))).tree.document? (depth + 1) =
      some (.mapping (fields.map fun f => (.string f.1, .string f.2))) := by
  have hfields : fieldDocuments? depth (Json.fieldTrees (fields.map fun f => (f.1, .string f.2))) =
      some (fields.map fun f => (.string f.1, .string f.2)) := by
    induction fields with
    | nil => rfl
    | cons f fs ih =>
      simp [Json.fieldTrees, fieldDocuments?, Json.pieceText?_piecesOf,
        Json.document?_tree_string, ih]
  rw [Value.tree, Node.document?, hfields, Option.map_some]

/-- The shapes of an entry are tried in turn; one with fields is no bare status. -/
theorem RuleEntry.ofJson?_tree (e : RuleEntry) : RuleEntry.ofJson? e.toJson.tree = some e := by
  have hname : ∀ s : Status, Status.ofName? s.name = some s :=
    fun s => Status.ofName?_eq_some_iff.mpr rfl
  rw [RuleEntry.ofJson?]
  cases e with
  | bare s =>
    rw [RuleEntry.toJson, Status.toJson, Json.document?_tree_string, Option.bind_some]
    simp [RuleEntry.ofValue?, RuleEntry.hasTag, RuleEntry.strictStatus?, hname]
  | detailed s comment =>
    cases comment with
    | none =>
      have hdocument := Json.document?_tree_texts 126 [("status", s.name)]
      rw [List.map_singleton] at hdocument
      rw [RuleEntry.toJson, Status.toJson, Json.nestingLimit, hdocument, Option.bind_some]
      simp [RuleEntry.ofValue?, RuleEntry.hasTag, RuleEntry.entriesHaveTag, RuleEntry.strictStatus?,
        RuleEntry.Field.ofKey?, RuleEntry.ofFields?, RuleEntry.valuesOf, Status.key, hname]
    | some text =>
      have hdocument := Json.document?_tree_texts 126 [("status", s.name), ("comment", text)]
      rw [List.map_cons, List.map_singleton] at hdocument
      rw [RuleEntry.toJson, Status.toJson, Json.nestingLimit, hdocument, Option.bind_some]
      simp [RuleEntry.ofValue?, RuleEntry.hasTag, RuleEntry.entriesHaveTag, RuleEntry.strictStatus?,
        RuleEntry.Field.ofKey?, RuleEntry.ofFields?, RuleEntry.valuesOf, RuleEntry.comment?,
        Status.key, Status.commentKey, hname]

theorem Shortfall.ofJson?_tree (s : Shortfall) : Shortfall.ofJson? s.toJson.tree = some s := by
  rw [Shortfall.ofJson?, Shortfall.toJson, Node.pair?_tree (by decide)]
  simp [Tier.ofJson?_tree, Node.texts?_tree]

theorem Finding.ofJson?_tree (f : Finding) : Finding.ofJson? f.toJson.tree = some f := by
  rw [Finding.ofJson?, Finding.toJson, Node.pair?_tree (by decide)]
  simp [Node.text?_tree]

theorem IntegrationReport.ofJson?_tree (r : IntegrationReport) :
    IntegrationReport.ofJson? r.toJson.tree = some r := by
  rw [IntegrationReport.ofJson?, IntegrationReport.toJson, Node.pair?_tree (by decide)]
  simp [Node.text?_tree, Node.list?_tree fun f _ => Finding.ofJson?_tree f]

theorem Report.ofJson?_tree {r : Report} (h : r.checked < 2 ^ 64) :
    Report.ofJson? r.toJson.tree = some r := by
  rw [Report.ofJson?, Report.toJson, Node.pair?_tree (by decide)]
  simp [Node.count?_tree h, Node.list?_tree fun i _ => IntegrationReport.ofJson?_tree i]

theorem NameSet.ofJson?_tree (s : NameSet) : NameSet.ofJson? s.toJson.tree = some s := by
  rw [NameSet.ofJson?, NameSet.toJson, Node.texts?_tree, Option.map_some]
  refine congrArg some (NameSet.ext fun x => ?_)
  rw [NameSet.mem_ofList, NameSet.mem_def]

theorem Exemptions.ofJson?_tree (x : Exemptions) : Exemptions.ofJson? x.toJson.tree = some x := by
  rw [Exemptions.ofJson?, Exemptions.toJson, Node.pair?_tree (by decide)]
  simp [Exemptions.part?, NameSet.ofJson?_tree]

theorem Config.ofJson?_tree (c : Config) : Config.ofJson? c.toJson.tree = some c := by
  obtain ⟨root, specific⟩ := c
  rw [Config.ofJson?, Config.toJson, Node.pair?_tree (by decide)]
  cases specific with
  | none =>
    have hspecific : Config.specific? false (some Value.null.tree) = some none := rfl
    simp [Node.text?_tree, hspecific]
  | some wanted =>
    have hspecific : Config.specific? false (some (Value.array (wanted.map .string)).tree) =
        some (some wanted) := by
      show ((Value.array (wanted.map .string)).tree.list? Node.text?).map some = _
      rw [Node.texts?_tree, Option.map_some]
    simp [Node.text?_tree, hspecific]

/-! ### Forms without floating-point numbers -/

theorem Json.Value.Plain.list {α : Type} {toJson : α → Value} (h : ∀ a, (toJson a).Plain)
    (as : List α) : (Value.array (as.map toJson)).Plain := by
  refine .array fun v hv => ?_
  obtain ⟨a, -, rfl⟩ := List.mem_map.mp hv
  exact h a

theorem Json.Value.Plain.pair {first second : String} {a b : Value} (ha : a.Plain) (hb : b.Plain) :
    (Value.object [(first, a), (second, b)]).Plain := by
  refine .object fun f hf => ?_
  rcases List.mem_pair.mp hf with rfl | rfl
  · exact ha
  · exact hb

theorem RuleEntry.toJson_plain (e : RuleEntry) : e.toJson.Plain := by
  cases e with
  | bare s => exact .string _
  | detailed s comment =>
    cases comment with
    | none => exact .object fun f hf => by rw [List.mem_singleton.mp hf]; exact .string _
    | some text => exact .pair (.string _) (.string _)

theorem Presence.toJson_plain (p : Presence) : p.toJson.Plain := by
  cases p with
  | forbidden r => exact .object fun f hf => by rw [List.mem_singleton.mp hf]; exact .string _
  | notApplicable | grandfathered | required => exact .string _

theorem Shortfall.toJson_plain (s : Shortfall) : s.toJson.Plain :=
  .pair (.string _) (.list .string _)

theorem Finding.toJson_plain (f : Finding) : f.toJson.Plain :=
  .pair (.string _) (.string _)

theorem IntegrationReport.toJson_plain (r : IntegrationReport) : r.toJson.Plain :=
  .pair (.string _) (.list Finding.toJson_plain _)

theorem Report.toJson_plain (r : Report) : r.toJson.Plain :=
  .pair (.number _) (.list IntegrationReport.toJson_plain _)

theorem Exemptions.toJson_plain (x : Exemptions) : x.toJson.Plain :=
  .pair (.list .string _) (.list .string _)

theorem Config.toJson_plain (c : Config) : c.toJson.Plain := by
  obtain ⟨root, specific⟩ := c
  cases specific with
  | none => exact .pair (.string _) .null
  | some wanted => exact .pair (.string _) (.list .string _)

/-! ### Texts and back -/

/-- **What is read from either layout of a JSON value**, also with blanks after it. -/
structure ReadsBackAs {α : Type} (ofJson? : Node → Option α) (v : Value) (a : α) : Prop where
  compact : (Node.read? v.compactText).bind ofJson? = some a
  pretty : ∀ trail : String, Json.Blank trail.toList →
    (Node.read? (v.prettyText ++ trail)).bind ofJson? = some a

theorem ReadsBackAs.of_tree {α : Type} {ofJson? : Node → Option α} {v : Value} {a : α}
    (hplain : v.Plain) (h : ofJson? v.tree = some a) : ReadsBackAs ofJson? v a where
  compact := by rw [hplain.read?_compactText, Option.bind_some, h]
  pretty trail htrail := by rw [hplain.read?_prettyText htrail, Option.bind_some, h]

open Command

/-- **What is written as JSON is read back as it was**: entries of rules, presences, tiers that fall
short, findings, reports whose count fits 64 bits, exemptions and configurations.  So a run that is
asked for JSON prints the report on its registry, whatever texts are in it. -/
theorem json_reads_back :
    (∀ e : RuleEntry, ReadsBackAs RuleEntry.ofJson? e.toJson e) ∧
    (∀ p : Presence, ReadsBackAs Presence.ofJson? p.toJson p) ∧
    (∀ s : Shortfall, ReadsBackAs Shortfall.ofJson? s.toJson s) ∧
    (∀ f : Finding, ReadsBackAs Finding.ofJson? f.toJson f) ∧
    (∀ r : Report, r.checked < 2 ^ 64 → ReadsBackAs Report.ofJson? r.toJson r) ∧
    (∀ x : Exemptions, ReadsBackAs Exemptions.ofJson? x.toJson x) ∧
    (∀ c : Config, ReadsBackAs Config.ofJson? c.toJson c) ∧
    ∀ (files : FileTree) (environment : Environment) (arguments : List String) (root : Path)
      (wanted : List String) (file : Option Path) (verbose : Bool) (r : Registry),
      Request.ofArguments? environment arguments =
          some ⟨.validate root wanted file, true, verbose⟩ →
        Validates files root wanted file r → r.size < 2 ^ 64 →
          (Node.read? (run files environment arguments).output).bind Report.ofJson? =
            some (Report.ofRegistry r) := by
  have hreport : ∀ r : Report, r.checked < 2 ^ 64 → ReadsBackAs Report.ofJson? r.toJson r :=
    fun r h => .of_tree r.toJson_plain (Report.ofJson?_tree h)
  refine ⟨fun e => .of_tree e.toJson_plain e.ofJson?_tree,
    fun p => .of_tree p.toJson_plain p.ofJson?_tree,
    fun s => .of_tree s.toJson_plain s.ofJson?_tree,
    fun f => .of_tree f.toJson_plain f.ofJson?_tree, hreport,
    fun x => .of_tree x.toJson_plain x.ofJson?_tree,
    fun c => .of_tree c.toJson_plain c.ofJson?_tree, ?_⟩
  intro files environment arguments root wanted file verbose r harguments hr hsize
  have houtput : (run files environment arguments).output =
      (validate files root wanted file true).output := by
    rw [run, harguments]
    rfl
  have hline : Json.Blank "\n".toList := by
    intro c hc
    rw [List.mem_singleton.mp hc]
    rfl
  rw [houtput, (validate_of_validates hr true).1]
  exact (hreport (Report.ofRegistry r) hsize).pretty "\n" hline

/-- A report with quotes, backslashes and control characters in its texts. -/
def oddReport : Report :=
  ⟨1, [⟨"hue\"", [⟨"quality\\scale", "first\tline\nsecond \x01 \u00e9"⟩]⟩]⟩

/-- The command line for `faultyCheckout` that asks for JSON. -/
def faultyJsonArguments : List String := "--json" :: faultyArguments

theorem json_reads_back_faultyCheckout :
    oddReport.checked < 2 ^ 64 ∧ ReadsBackAs Report.ofJson? oddReport.toJson oddReport ∧
    Request.ofArguments? {} faultyJsonArguments =
      some ⟨.validate ⟨"repo"⟩ [] (some ⟨"extra.yaml"⟩), true, false⟩ ∧
    ∃ r, Validates faultyCheckout ⟨"repo"⟩ [] (some ⟨"extra.yaml"⟩) r ∧ r.size < 2 ^ 64 ∧
      (Node.read? (run faultyCheckout {} faultyJsonArguments).output).bind Report.ofJson? =
        some (Report.ofRegistry r) := by
  obtain ⟨x, hx⟩ := inForce_faultyCheckout
  have hvalidates := Validates.intro hx load_faultyCheckout
  have hsize : (Checker.checkAll ⟨Catalog.standard, x⟩ faultySettings faultyCheckout
      faultyLoaded.1).size < 2 ^ 64 := by
    rw [Checker.checkAll, NameMap.size_map]
    decide +kernel
  have harguments : Request.ofArguments? {} faultyJsonArguments =
      some ⟨.validate ⟨"repo"⟩ [] (some ⟨"extra.yaml"⟩), true, false⟩ := by
    decide +kernel
  have hodd : oddReport.checked < 2 ^ 64 := by decide
  obtain ⟨-, -, -, -, hreport, -, -, hrun⟩ := json_reads_back
  exact ⟨hodd, hreport oddReport hodd, harguments, _, hvalidates, hsize,
    hrun _ _ _ _ _ _ _ _ harguments hvalidates hsize⟩

end QualityScale
