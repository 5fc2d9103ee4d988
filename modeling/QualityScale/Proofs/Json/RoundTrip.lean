import Mathlib.Data.List.Basic
import QualityScale.Json.Printer

/-!
# Reading what was written

A JSON value is written on one line or over several lines, and either text is read back as the tree
of the value.

* `Value.tree`: that tree.
* `Spells`: a text is a value's, with blanks between its parts.  Both layouts are
  (`Value.Plain.spells_compact`, `Value.Plain.spells_pretty`).
* `Spells.read`: the reader takes such a text from the front of any other.

This is so for values without floating-point numbers, which is what `Value.Plain` says.
-/

namespace QualityScale.Json

/-! ### Strings -/

/-- The piece that a character is read as once it is written. -/
def Piece.ofChar (c : Char) : Piece :=
  if c.toNat < 0x20 ∧ c ∉ ['\x08', '\x0c', '\n', '\r', '\t'] then .unit c.toNat else .char c

/-- The pieces that a text is read as once it is written. -/
def piecesOf (s : String) : List Piece :=
  s.toList.map Piece.ofChar

theorem hexNumber?_control : ∀ n < 0x20,
    Text.hexNumber? ['0', '0', hexDigit (n / 16), hexDigit (n % 16)] = some n := by
  decide

/-- **A character is read back as one piece.** -/
theorem readPieces_writeChar (c : Char) (cs : List Char) :
    readPieces .lenient false (writeChar c ++ cs) =
      (readPieces .lenient false cs).map fun (pieces, rest) => (.ofChar c :: pieces, rest) := by
  by_cases hnamed : c ∈ ['"', '\\', '\x08', '\x0c', '\n', '\r', '\t']
  · -- These have an escape of their own.
    simp only [List.mem_cons, List.not_mem_nil, or_false] at hnamed
    rcases hnamed with rfl | rfl | rfl | rfl | rfl | rfl | rfl <;> rfl
  · simp only [List.mem_cons, List.not_mem_nil, or_false, not_or] at hnamed
    obtain ⟨hquote, hslash, hb, hf, hn, hr, ht⟩ := hnamed
    have hnot : c ∉ ['\x08', '\x0c', '\n', '\r', '\t'] := by
      simp [hb, hf, hn, hr, ht]
    rw [writeChar, if_neg hquote, if_neg hslash, if_neg hb, if_neg hf, if_neg hn, if_neg hr,
      if_neg ht]
    by_cases hcontrol : c.toNat < 0x20
    · rw [if_pos hcontrol, Piece.ofChar, if_pos ⟨hcontrol, hnot⟩]
      simp only [List.cons_append, List.nil_append]
      rw [readPieces, hexNumber?_control _ hcontrol]
      simp only [reduceCtorEq, false_and, if_false, decide_false]
      cases readPieces .lenient false cs <;> rfl
    · rw [if_neg hcontrol, Piece.ofChar, if_neg fun h => hcontrol h.1]
      rw [List.singleton_append, readPieces]
      · simp only [Bool.false_eq_true, if_false, if_neg hquote, if_neg hcontrol]
        cases readPieces .lenient false cs <;> rfl
      -- The cases of an escape are not this one.
      all_goals
        intros
        contradiction

/-- **A written text is read up to its closing quote.** -/
theorem readPieces_written (s : String) (rest : List Char) :
    readPieces .lenient false (s.toList.flatMap writeChar ++ '"' :: rest) =
      .ok (piecesOf s, rest) := by
  rw [piecesOf]
  induction s.toList with
  | nil => rfl
  | cons c cs ih =>
    rw [List.flatMap_cons, List.append_assoc, readPieces_writeChar, ih]
    rfl

/-- No character is written as half of a pair. -/
theorem pieceChars?_ofChar (c : Char) (pieces : List Piece) :
    pieceChars? (.ofChar c :: pieces) = (pieceChars? pieces).map (c :: ·) := by
  rw [Piece.ofChar]
  split
  next hcontrol =>
    have hhigh : isHighHalf c.toNat = false := by simp [isHighHalf]; omega
    have hlow : isLowHalf c.toNat = false := by simp [isLowHalf]; omega
    cases pieces with
    | nil => simp [pieceChars?, hhigh, hlow]
    | cons p ps =>
      cases p <;> simp [pieceChars?, hhigh, hlow]
  next => rw [pieceChars?]

/-- **The pieces of a text stand for it.** -/
theorem pieceText?_piecesOf (s : String) : pieceText? (piecesOf s) = some s := by
  have hchars : ∀ cs : List Char, pieceChars? (cs.map Piece.ofChar) = some cs := by
    intro cs
    induction cs with
    | nil => rfl
    | cons c cs ih => rw [List.map_cons, pieceChars?_ofChar, ih, Option.map_some]
  rw [pieceText?, piecesOf, hchars, Option.map_some, String.ofList_toList]

/-! ### Blanks, and what may follow a value -/

/-- Characters that do not count. -/
def Blank (cs : List Char) : Prop := ∀ c ∈ cs, isSpace c = true

theorem blank_nil : Blank [] := List.forall_mem_nil _

theorem blank_space : Blank [' '] := List.forall_mem_singleton.mpr rfl

theorem blank_newLine (level : Nat) : Blank (newLine level) := by
  intro c hc
  rcases List.mem_cons.mp hc with rfl | hc
  · rfl
  · rw [(List.mem_replicate.mp hc).2]
    rfl

theorem Blank.skipSpace_append {lead : List Char} (h : Blank lead) (cs : List Char) :
    skipSpace (lead ++ cs) = skipSpace cs :=
  List.dropWhile_append_of_pos h

theorem skipSpace_cons {c : Char} (h : isSpace c = false) (cs : List Char) :
    skipSpace (c :: cs) = c :: cs :=
  List.dropWhile_cons_of_neg (by rw [h]; decide)

/-- A value may be followed by a blank, a comma or a closing bracket. -/
def closes (c : Char) : Bool :=
  isSpace c || c == ',' || c == ']' || c == '\x7d'

/-- What may follow a value, or nothing. -/
def Follows (rest : List Char) : Prop := ∀ c, rest.head? = some c → closes c = true

theorem follows_nil : Follows [] := fun _ h => nomatch h

theorem Blank.follows {trail : List Char} (h : Blank trail) {rest : List Char}
    (hrest : Follows rest) : Follows (trail ++ rest) := by
  cases trail with
  | nil => exact hrest
  | cons d trail =>
    intro c hc
    obtain rfl := Option.some.inj hc
    rw [closes, h _ List.mem_cons_self]
    rfl

theorem follows_cons {c : Char} (h : closes c = true) (rest : List Char) : Follows (c :: rest) := by
  intro d hd
  rwa [← Option.some.inj hd]

/-! ### Numbers -/

/-- What does not continue a number. -/
theorem Follows.head_ne {rest : List Char} (h : Follows rest) {c : Char} (hc : closes c = false) :
    ∀ cs, rest ≠ c :: cs := by
  rintro cs rfl
  rw [h c rfl] at hc
  cases hc

theorem isDigit_eq_false_of_closes {c : Char} (h : closes c = true) : c.isDigit = false := by
  simp only [closes, isSpace, Bool.or_eq_true, beq_iff_eq] at h
  rcases h with (((((rfl | rfl) | rfl) | rfl) | rfl) | rfl) | rfl <;> rfl

theorem readDigits_append {ds rest : List Char} (hds : ds ≠ [])
    (hdigits : ∀ d ∈ ds, d.isDigit = true) (hrest : Follows rest) :
    readDigits (ds ++ rest) = .ok (ds, rest) := by
  have hstop : rest.takeWhile Char.isDigit = [] ∧ rest.dropWhile Char.isDigit = rest := by
    cases rest with
    | nil => exact ⟨rfl, rfl⟩
    | cons c rest =>
      have hc := isDigit_eq_false_of_closes (hrest c rfl)
      exact ⟨List.takeWhile_cons_of_neg (by simp [hc]), List.dropWhile_cons_of_neg (by simp [hc])⟩
  have htake : (ds ++ rest).takeWhile Char.isDigit = ds := by
    rw [List.takeWhile_append_of_pos hdigits, hstop.1, List.append_nil]
  have hdrop : (ds ++ rest).dropWhile Char.isDigit = rest := by
    rw [List.dropWhile_append_of_pos hdigits, hstop.2]
  rw [readDigits, htake, hdrop]
  · exact fun hnone _ => hds (htake.symm.trans hnone)
  · exact fun _ _ hnone _ => hds (htake.symm.trans hnone)

/-- A number other than zero does not start with one. -/
theorem head?_toDigits_ne_zero {n : Nat} (hn : 0 < n) :
    (Nat.toDigits 10 n).head? ≠ some '0' := by
  induction n using Nat.strongRecOn with
  | ind n ih =>
    by_cases hsmall : n < 10
    · have hall : ∀ k < 10, 0 < k → (Nat.toDigits 10 k).head? ≠ some '0' := by decide
      exact hall n hsmall hn
    · rw [Nat.toDigits_of_base_le (by decide) (Nat.le_of_not_lt hsmall),
        List.head?_append_of_ne_nil _ Nat.toDigits_ne_nil]
      exact ih (n / 10) (by omega) (by omega)

theorem readWhole_toDigits (n : Nat) {rest : List Char} (hrest : Follows rest) :
    readWhole (Nat.toDigits 10 n ++ rest) = .ok (Nat.toDigits 10 n, rest) := by
  by_cases hn : n = 0
  · subst hn
    have hhead : rest.head?.any Char.isDigit = false := by
      cases hr : rest.head? with
      | none => rfl
      | some c => exact isDigit_eq_false_of_closes (hrest c hr)
    show readWhole ('0' :: rest) = .ok (['0'], rest)
    rw [readWhole, hhead]
    rfl
  · have hhead := head?_toDigits_ne_zero (Nat.pos_of_ne_zero hn)
    rw [readWhole]
    · exact readDigits_append Nat.toDigits_ne_nil
        (fun d hd => Nat.isDigit_of_mem_toDigits (by decide) (by decide) hd) hrest
    · intro cs hcs
      rw [← List.head?_append_of_ne_nil _ Nat.toDigits_ne_nil, hcs] at hhead
      exact hhead rfl

/-- The numeral that a whole number is read as once it is written. -/
def Numeral.ofInt (z : Int) : Numeral where
  negative := decide (z < 0)
  whole := Nat.toDigits 10 z.natAbs
  fraction := []
  exponent := none

theorem readMagnitude_toDigits (negative : Bool) (n : Nat) {rest : List Char}
    (hrest : Follows rest) :
    readMagnitude negative (Nat.toDigits 10 n ++ rest) =
      .ok (⟨negative, Nat.toDigits 10 n, [], none⟩, rest) := by
  have hfraction : readFraction rest = .ok ([], rest) := by
    rw [readFraction]
    exact hrest.head_ne rfl
  have hexponent : readExponent rest = .ok (none, rest) := by
    cases rest with
    | nil => rfl
    | cons c rest =>
      have hc : ¬ (c = 'e' ∨ c = 'E') := by
        rintro (rfl | rfl)
        · exact hrest.head_ne rfl _ rfl
        · exact hrest.head_ne rfl _ rfl
      unfold readExponent
      exact if_neg hc
  simp only [readMagnitude, readWhole_toDigits n hrest, hfraction, hexponent, bind, Except.bind,
    pure, Except.pure]

/-- **A written whole number is read back.** -/
theorem readNumeral_writeWhole (z : Int) {rest : List Char} (hrest : Follows rest) :
    readNumeral .lenient (Number.writeWhole z ++ rest) = .ok (.ofInt z, rest) := by
  rw [Number.writeWhole, Numeral.ofInt]
  by_cases hz : z < 0
  · rw [if_pos hz, List.cons_append, readNumeral]
    simp [readMagnitude_toDigits true _ hrest, hz, bind, Except.bind, pure, Except.pure]
  · rw [if_neg hz, readNumeral]
    · simp [readMagnitude_toDigits false _ hrest, hz, bind, Except.bind, pure, Except.pure]
    · intro cs hcs
      have hmem : '-' ∈ Nat.toDigits 10 z.natAbs := by
        refine List.mem_of_mem_head? ?_
        rw [← List.head?_append_of_ne_nil _ Nat.toDigits_ne_nil, hcs]
        rfl
      exact absurd (Nat.isDigit_of_mem_toDigits (by decide) (by decide) hmem) (by decide)

/-- A whole number starts with its sign or a digit. -/
theorem exists_writeWhole (z : Int) :
    ∃ c ds, Number.writeWhole z = c :: ds ∧ (c = '-' ∨ c.isDigit = true) := by
  rw [Number.writeWhole]
  by_cases hz : z < 0
  · exact ⟨_, _, if_pos hz, .inl rfl⟩
  · rw [if_neg hz]
    have hsome : Nat.toDigits 10 z.natAbs ≠ [] := Nat.toDigits_ne_nil
    obtain ⟨c, ds, hcs⟩ := List.exists_cons_of_ne_nil hsome
    have hc : c ∈ Nat.toDigits 10 z.natAbs := hcs ▸ List.mem_cons_self
    exact ⟨c, ds, hcs, .inr (Nat.isDigit_of_mem_toDigits (by decide) (by decide) hc)⟩

theorem isSpace_eq_false_of_number {c : Char} (h : c = '-' ∨ c.isDigit = true) :
    isSpace c = false := by
  cases hspace : isSpace c with
  | false => rfl
  | true =>
    have hcloses : closes c = true := by rw [closes, hspace]; rfl
    obtain rfl | hdigit := h
    · cases hspace
    · rw [isDigit_eq_false_of_closes hcloses] at hdigit
      cases hdigit

/-! ### Trees -/

mutual

/-- The tree that a value is read as once it is written.  Of a floating-point number nothing is said
here. -/
def Value.tree : Value → Node
  | .null => .null
  | .bool b => .bool b
  | .number (.whole z) => .number (.ofInt z)
  | .number (.real _) => .null
  | .string s => .string (piecesOf s)
  | .array items => .array (itemTrees items)
  | .object fields => .object (fieldTrees fields)

/-- The trees of the items of an array. -/
def itemTrees : List Value → List Node
  | [] => []
  | v :: vs => v.tree :: itemTrees vs

/-- The trees of the fields of an object, each under the pieces of its key. -/
def fieldTrees : List (String × Value) → List (List Piece × Node)
  | [] => []
  | (key, v) :: fields => (piecesOf key, v.tree) :: fieldTrees fields

end

theorem itemTrees_eq_map (items : List Value) : itemTrees items = items.map Value.tree := by
  induction items with
  | nil => rfl
  | cons v vs ih => rw [itemTrees, ih, List.map_cons]

/-! ### Texts of a value -/

/-- The items after the first one, each after a comma and blanks. -/
def laterItems (lead : List Char) (text : Value → List Char) (vs : List Value) : List Char :=
  vs.flatMap fun v => ',' :: (lead ++ text v)

/-- A field: its key, a colon, blanks and its value. -/
def fieldText (mid : List Char) (text : Value → List Char) (f : String × Value) : List Char :=
  writeString f.1 ++ ':' :: (mid ++ text f.2)

/-- The fields after the first one, each after a comma and blanks. -/
def laterFields (lead mid : List Char) (text : Value → List Char) (fs : List (String × Value)) :
    List Char :=
  fs.flatMap fun f => ',' :: (lead ++ fieldText mid text f)

/-- **A text of a value**: its parts as they are written, with blanks between them.  All items of an
array have the same blanks before them, and so have the fields of an object. -/
inductive Spells : Value → List Char → Prop
  | null : Spells .null ['n', 'u', 'l', 'l']
  | yes : Spells (.bool true) ['t', 'r', 'u', 'e']
  | no : Spells (.bool false) ['f', 'a', 'l', 's', 'e']
  | number (z : Int) : Spells (.number (.whole z)) (Number.writeWhole z)
  | string (s : String) : Spells (.string s) (writeString s)
  | noItems : Spells (.array []) ['[', ']']
  | items {v : Value} {vs : List Value} {text : Value → List Char} {lead trail : List Char}
      (spelt : ∀ x ∈ v :: vs, Spells x (text x)) (hlead : Blank lead) (htrail : Blank trail) :
      Spells (.array (v :: vs)) ('[' :: (lead ++ (text v ++ (laterItems lead text vs ++
        (trail ++ [']'])))))
  | noFields : Spells (.object []) ['\x7b', '\x7d']
  | fields {f : String × Value} {fs : List (String × Value)} {text : Value → List Char}
      {lead mid trail : List Char} (spelt : ∀ x ∈ f :: fs, Spells x.2 (text x.2))
      (hlead : Blank lead) (hmid : Blank mid) (htrail : Blank trail) :
      Spells (.object (f :: fs)) ('\x7b' :: (lead ++ (fieldText mid text f ++
        (laterFields lead mid text fs ++ (trail ++ ['\x7d'])))))

/-- The text starts with something that is no blank and does not close an array. -/
def Starts (cs : List Char) : Prop := ∃ c ds, cs = c :: ds ∧ isSpace c = false ∧ c ≠ ']'

theorem starts_cons {c : Char} (hspace : isSpace c = false) (hc : c ≠ ']') (ds : List Char) :
    Starts (c :: ds) := ⟨c, ds, rfl, hspace, hc⟩

theorem Spells.starts {v : Value} {cs : List Char} (h : Spells v cs) : Starts cs := by
  cases h with
  | number z =>
    obtain ⟨c, ds, hcs, hstart⟩ := exists_writeWhole z
    refine ⟨c, ds, hcs, isSpace_eq_false_of_number hstart, ?_⟩
    rintro rfl
    exact absurd hstart (by decide)
  | _ => exact starts_cons rfl (by decide) _

/-! ### Reading a text -/

/-- A value is read back from its text, whatever follows. -/
def Reads (v : Value) (cs : List Char) : Prop :=
  ∀ fuel depth rest, 2 * cs.length + 1 ≤ fuel → Follows rest →
    readNode .lenient fuel depth (cs ++ rest) = .ok (v.tree, rest)

section Parts

variable {text : Value → List Char} {lead mid trail : List Char}

theorem readItems_of_reads (hlead : Blank lead) (htrail : Blank trail) {v : Value}
    {vs : List Value} (hreads : ∀ x ∈ v :: vs, Reads x (text x))
    (hstarts : ∀ x ∈ v :: vs, Starts (text x)) (fuel depth : Nat) (rest : List Char)
    (hfuel : 2 * (text v ++ laterItems lead text vs).length + 2 ≤ fuel) :
    readItems .lenient fuel depth (text v ++ (laterItems lead text vs ++ (trail ++ ']' :: rest))) =
      .ok (itemTrees (v :: vs), rest) := by
  induction vs generalizing v fuel with
  | nil =>
    obtain _ | fuel := fuel
    · omega
    have hfollows : Follows (trail ++ ']' :: rest) := htrail.follows (follows_cons rfl _)
    have hread := hreads v List.mem_cons_self fuel depth _ (by simp at hfuel; omega) hfollows
    have hskip : skipSpace (trail ++ ']' :: rest) = ']' :: rest := htrail.skipSpace_append _
    simp only [laterItems, List.flatMap_nil, List.nil_append, readItems, hread, bind, Except.bind,
      hskip]
    rfl
  | cons w ws ih =>
    obtain _ | fuel := fuel
    · omega
    have hlater : laterItems lead text (w :: ws) =
        ',' :: (lead ++ (text w ++ laterItems lead text ws)) := by
      simp [laterItems]
    rw [hlater] at hfuel ⊢
    have hread := hreads v List.mem_cons_self fuel depth
      (',' :: (lead ++ (text w ++ (laterItems lead text ws ++ (trail ++ ']' :: rest)))))
      (by simp at hfuel; omega) (follows_cons rfl _)
    have hmore := ih (fun x hx => hreads x (List.mem_cons_of_mem _ hx))
      (fun x hx => hstarts x (List.mem_cons_of_mem _ hx)) fuel (by simp at hfuel ⊢; omega)
    obtain ⟨c, ds, hcs, hspace, hc⟩ := hstarts w (List.mem_cons_of_mem v List.mem_cons_self)
    have hskip := hlead.skipSpace_append
      (text w ++ (laterItems lead text ws ++ (trail ++ ']' :: rest)))
    simp only [hcs, List.cons_append, skipSpace_cons hspace] at hread hmore hskip
    simp only [readItems, List.cons_append, List.append_assoc, hcs, hread, bind, Except.bind,
      skipSpace_cons (c := ',') rfl, hskip]
    split
    next hnil => cases hnil
    next hclosed => exact absurd (List.cons.inj hclosed).1 hc
    next =>
      rw [hmore]
      rfl

theorem readNode_blank (h : Blank lead) (fuel depth : Nat) (cs : List Char) :
    readNode .lenient fuel depth (lead ++ cs) = readNode .lenient fuel depth cs := by
  cases fuel with
  | zero => simp only [readNode]
  | succ fuel => simp only [readNode, h.skipSpace_append]

theorem readKey_written (key : String) (rest : List Char) :
    readKey .lenient (key.toList.flatMap writeChar ++ '"' :: ':' :: rest) =
      .ok (piecesOf key, rest) := by
  rw [readKey, readPieces_written]
  rfl

theorem fieldText_append (f : String × Value) (cs : List Char) :
    fieldText mid text f ++ cs =
      '"' :: (f.1.toList.flatMap writeChar ++ '"' :: ':' :: (mid ++ (text f.2 ++ cs))) := by
  simp [fieldText, writeString]

/-- The reader of the fields starts after the quote of the first key. -/
theorem readFields_of_reads (hlead : Blank lead) (hmid : Blank mid) (htrail : Blank trail)
    {f : String × Value} {fs : List (String × Value)}
    (hreads : ∀ x ∈ f :: fs, Reads x.2 (text x.2)) (fuel depth : Nat) (rest : List Char)
    (hfuel : 2 * (text f.2 ++ laterFields lead mid text fs).length + 2 ≤ fuel) :
    readFields .lenient fuel depth (f.1.toList.flatMap writeChar ++ '"' :: ':' :: (mid ++
      (text f.2 ++ (laterFields lead mid text fs ++ (trail ++ '\x7d' :: rest))))) =
      .ok (fieldTrees (f :: fs), rest) := by
  induction fs generalizing f fuel with
  | nil =>
    obtain _ | fuel := fuel
    · omega
    have hfollows : Follows (trail ++ '\x7d' :: rest) := htrail.follows (follows_cons rfl _)
    have hread := hreads f List.mem_cons_self fuel depth _ (by simp at hfuel; omega) hfollows
    have hskip : skipSpace (trail ++ '\x7d' :: rest) = '\x7d' :: rest :=
      htrail.skipSpace_append _
    simp only [laterFields, List.flatMap_nil, List.nil_append, readFields, readKey_written,
      readNode_blank hmid, hread, bind, Except.bind, hskip]
    rfl
  | cons g gs ih =>
    obtain _ | fuel := fuel
    · omega
    have hlater : laterFields lead mid text (g :: gs) =
        ',' :: (lead ++ (fieldText mid text g ++ laterFields lead mid text gs)) := by
      simp [laterFields]
    rw [hlater] at hfuel ⊢
    have hread := hreads f List.mem_cons_self fuel depth
      (',' :: (lead ++ (fieldText mid text g ++ (laterFields lead mid text gs ++
        (trail ++ '\x7d' :: rest))))) (by simp at hfuel; omega) (follows_cons rfl _)
    have hmore := ih (fun x hx => hreads x (List.mem_cons_of_mem _ hx)) fuel
      (by simp [fieldText] at hfuel ⊢; omega)
    have hskip := hlead.skipSpace_append
      (fieldText mid text g ++ (laterFields lead mid text gs ++ (trail ++ '\x7d' :: rest)))
    simp only [fieldText_append, skipSpace_cons (c := '"') rfl] at hread hskip
    simp only [readFields, List.cons_append, List.append_assoc, fieldText_append, readKey_written,
      readNode_blank hmid, hread, bind, Except.bind, skipSpace_cons (c := ',') rfl, hskip, hmore]
    rfl

end Parts

/-- **Every text of a value is read back.** -/
theorem Spells.reads {v : Value} {cs : List Char} (h : Spells v cs) : Reads v cs := by
  induction h with
  | null | yes | no | noItems | noFields =>
    intro fuel depth rest hfuel _
    obtain _ | fuel := fuel
    · simp at hfuel
    · rfl
  | number z =>
    intro fuel depth rest hfuel hrest
    obtain _ | fuel := fuel
    · omega
    have hread := readNumeral_writeWhole z hrest
    obtain ⟨c, ds, hcs, hstart⟩ := exists_writeWhole z
    rw [hcs, List.cons_append] at hread ⊢
    unfold readNode
    rw [skipSpace_cons (isSpace_eq_false_of_number hstart)]
    split
    case h_8 heq =>
      obtain ⟨rfl, rfl⟩ := List.cons.inj heq
      rw [if_pos hstart, hread]
      rfl
    -- No other part of a text starts like a number.
    case h_1 heq => cases heq
    all_goals
      rename_i heq
      obtain ⟨rfl, -⟩ := List.cons.inj heq
      exact absurd hstart (by decide)
  | string s =>
    intro fuel depth rest hfuel hrest
    obtain _ | fuel := fuel
    · omega
    have hskip : skipSpace (writeString s ++ rest) = writeString s ++ rest := skipSpace_cons rfl _
    simp only [writeString, List.cons_append, List.append_assoc, List.nil_append] at hskip ⊢
    simp only [readNode, hskip, readPieces_written]
    rfl
  | @items v vs text lead trail spelt hlead htrail ih =>
    intro fuel depth rest hfuel _
    obtain _ | fuel := fuel
    · omega
    have hstarts : ∀ x ∈ v :: vs, Starts (text x) := fun x hx => (spelt x hx).starts
    have hread := readItems_of_reads hlead htrail ih hstarts fuel (depth - 1) rest
      (by simp at hfuel ⊢; omega)
    obtain ⟨c, ds, hcs, hspace, hc⟩ := hstarts v List.mem_cons_self
    have hskip := hlead.skipSpace_append
      (text v ++ (laterItems lead text vs ++ (trail ++ ']' :: rest)))
    simp only [hcs, List.cons_append, skipSpace_cons hspace] at hread hskip
    simp only [readNode, List.cons_append, List.append_assoc, List.nil_append,
      skipSpace_cons (c := '[') rfl, hcs, hskip, reduceCtorEq, false_and, if_false]
    split
    next hnil => cases hnil
    next hclosed => exact absurd (List.cons.inj hclosed).1 hc
    next =>
      rw [hread]
      rfl
  | @fields f fs text lead mid trail spelt hlead hmid htrail ih =>
    intro fuel depth rest hfuel _
    obtain _ | fuel := fuel
    · omega
    have hread := readFields_of_reads hlead hmid htrail ih fuel (depth - 1) rest
      (by simp [fieldText] at hfuel ⊢; omega)
    have hskip := hlead.skipSpace_append
      (fieldText mid text f ++ (laterFields lead mid text fs ++ (trail ++ '\x7d' :: rest)))
    simp only [fieldText_append, skipSpace_cons (c := '"') rfl] at hskip
    simp only [readNode, List.cons_append, List.append_assoc, List.nil_append, fieldText_append,
      skipSpace_cons (c := '\x7b') rfl, hskip, reduceCtorEq, false_and, if_false, hread]
    rfl

/-- **A text is read back as the tree of its value.** -/
theorem Spells.read? {v : Value} {cs : List Char} (h : Spells v cs) {trail : List Char}
    (htrail : Blank trail) : Node.read? (String.ofList (cs ++ trail)) = some v.tree := by
  have hfuel : 2 * cs.length + 1 ≤ 2 * (cs ++ trail).length + 1 := by
    rw [List.length_append]
    omega
  have hfollows : Follows trail := List.append_nil trail ▸ htrail.follows follows_nil
  have hread := h.reads (2 * (cs ++ trail).length + 1) nestingLimit trail hfuel hfollows
  have hskip : skipSpace trail = [] := List.append_nil trail ▸ htrail.skipSpace_append []
  rw [Node.read?, String.toList_ofList, Node.ofChars, hread]
  simp only [bind, Except.bind, hskip]
  rfl

/-! ### The layouts -/

/-- A value without floating-point numbers. -/
inductive Value.Plain : Value → Prop
  | null : Plain .null
  | bool (b : Bool) : Plain (.bool b)
  | number (z : Int) : Plain (.number (.whole z))
  | string (s : String) : Plain (.string s)
  | array {items : List Value} (all : ∀ v ∈ items, Plain v) : Plain (.array items)
  | object {fields : List (String × Value)} (all : ∀ f ∈ fields, Plain f.2) : Plain (.object fields)

theorem compactItems_cons (v : Value) (vs : List Value) :
    compactItems (v :: vs) = v.compact ++ laterItems [] Value.compact vs := by
  induction vs generalizing v with
  | nil => simp [compactItems, laterItems]
  | cons w ws ih =>
    rw [compactItems, ih]
    · simp [laterItems]
    · exact fun h => List.cons_ne_nil _ _ h

theorem compactFields_cons (f : String × Value) (fs : List (String × Value)) :
    compactFields (f :: fs) =
      fieldText [] Value.compact f ++ laterFields [] [] Value.compact fs := by
  induction fs generalizing f with
  | nil => simp [compactFields, fieldText, laterFields]
  | cons g gs ih =>
    rw [compactFields, ih]
    · simp [fieldText, laterFields]
    · exact fun h => List.cons_ne_nil _ _ h

theorem prettyItems_eq_later (level : Nat) (vs : List Value) :
    prettyItems level vs = laterItems (newLine level) (Value.pretty level) vs := by
  induction vs with
  | nil => rfl
  | cons v vs ih =>
    rw [prettyItems, ih]
    simp [laterItems]

theorem prettyFields_eq_later (level : Nat) (fs : List (String × Value)) :
    prettyFields level fs = laterFields (newLine level) [' '] (Value.pretty level) fs := by
  induction fs with
  | nil => rfl
  | cons f fs ih =>
    rw [prettyFields, ih]
    simp [fieldText, laterFields]

namespace Value.Plain

variable {v : Value}

/-- One line has no blanks. -/
theorem spells_compact (h : v.Plain) : Spells v v.compact := by
  induction h with
  | null => exact .null
  | bool b =>
    cases b with
    | false => exact .no
    | true => exact .yes
  | number z => exact .number z
  | string s => exact .string s
  | @array items _ ih =>
    cases items with
    | nil => exact .noItems
    | cons v vs =>
      have hspells := Spells.items ih blank_nil blank_nil
      rw [Value.compact, compactItems_cons]
      simpa using hspells
  | @object fields _ ih =>
    cases fields with
    | nil => exact .noFields
    | cons f fs =>
      have hspells := Spells.fields ih blank_nil blank_nil blank_nil
      rw [Value.compact, compactFields_cons]
      simpa using hspells

/-- Each of several lines starts with the blanks of its level. -/
theorem spells_pretty (h : v.Plain) (level : Nat) : Spells v (v.pretty level) := by
  induction h generalizing level with
  | null => exact .null
  | bool b =>
    cases b with
    | false => exact .no
    | true => exact .yes
  | number z => exact .number z
  | string s => exact .string s
  | @array items _ ih =>
    cases items with
    | nil => exact .noItems
    | cons v vs =>
      have hspells := Spells.items (fun x hx => ih x hx (level + 1)) (blank_newLine (level + 1))
        (blank_newLine level)
      rw [Value.pretty, prettyItems_eq_later]
      simpa using hspells
  | @object fields _ ih =>
    cases fields with
    | nil => exact .noFields
    | cons f fs =>
      have hspells := Spells.fields (fun x hx => ih x hx (level + 1)) (blank_newLine (level + 1))
        blank_space (blank_newLine level)
      rw [Value.pretty, prettyFields_eq_later]
      simpa [fieldText] using hspells

theorem read?_compactText (h : v.Plain) : Node.read? v.compactText = some v.tree := by
  have hread := h.spells_compact.read? blank_nil
  rwa [List.append_nil] at hread

/-- What is printed ends with a line break. -/
theorem read?_prettyText (h : v.Plain) {trail : String} (htrail : Blank trail.toList) :
    Node.read? (v.prettyText ++ trail) = some v.tree := by
  have hread := (h.spells_pretty 0).read? htrail
  rwa [String.ofList_append, String.ofList_toList] at hread

end Value.Plain

end QualityScale.Json
