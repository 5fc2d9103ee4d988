import QualityScale.Declaration.Literal
import QualityScale.Proofs.Text.LiteralReader

/-!
# Texts as literals

A text in a value is shown in quotes, as a literal of the language that integrations are written in.
A backslash is put before each of these quotes, but the backslashes of the text itself are left as
they are.  So not every text is what its literal reads as.

* `Literal.Verbatim s`: the text `s` keeps to one line, and each backslash in it stands before a
  character with which it makes no escape.
* `Literal.read?_quoteText_iff`: the literal of a text reads as the text exactly if it is verbatim.
* `Yaml.Value.HasText v s`: the text `s` is a part of the value `v`.
* `shown_text_reads_back_iff`: the same for every text in a value that is shown whole.
-/

namespace QualityScale.Literal

/-! ### Texts that read back -/

/-- **The text can stand between quotes as it is**, quotes apart: it keeps to one line, and each
backslash in it stands before a character with which it makes no escape. -/
inductive Verbatim : List Char → Prop
  | nil : Verbatim []
  | char {c s} : c ≠ '\\' → breaksSource c = false → Verbatim s → Verbatim (c :: s)
  | backslash {c s} : startsEscape c = false → breaksSource c = false → Verbatim s →
      Verbatim ('\\' :: c :: s)

/-- The text as it is written between quotes: a backslash before each such quote. -/
def inQuotes (quote : Char) (s : List Char) : List Char :=
  s.flatMap fun c => if c = quote then ['\\', quote] else [c]

/-- How many characters the text takes up between quotes. -/
def width (quote : Char) (s : List Char) : Nat :=
  s.length + s.count quote

section Verbatim

variable {named : List Char → Option Char} {quote c d : Char} {s raw rest : List Char}

theorem inQuotes_quote : inQuotes quote (quote :: s) = '\\' :: quote :: inQuotes quote s := by
  rw [inQuotes, List.flatMap_cons, if_pos rfl]
  rfl

theorem inQuotes_cons (h : c ≠ quote) : inQuotes quote (c :: s) = c :: inQuotes quote s := by
  rw [inQuotes, List.flatMap_cons, if_neg h]
  rfl

theorem inQuotes_of_not_mem (h : quote ∉ s) : inQuotes quote s = s := by
  induction s with
  | nil => rfl
  | cons c s ih =>
    rw [List.mem_cons, not_or] at h
    rw [inQuotes_cons (Ne.symm h.1), ih h.2]

theorem length_inQuotes (quote : Char) (s : List Char) :
    (inQuotes quote s).length = width quote s := by
  induction s with
  | nil => rfl
  | cons c s ih =>
    by_cases hc : c = quote
    · subst hc
      rw [inQuotes_quote, List.length_cons, List.length_cons, ih, width, width, List.length_cons,
        List.count_cons_self]
      omega
    · rw [inQuotes_cons hc, List.length_cons, ih, width, width, List.length_cons,
        List.count_cons_of_ne hc]
      omega

theorem width_cons_le (quote c : Char) (s : List Char) :
    width quote (c :: s) ≤ width quote s + 2 := by
  rw [width, width, List.length_cons, List.count_cons]
  split <;> omega

theorem width_cons_of_ne (h : c ≠ quote) : width quote (c :: s) = width quote s + 1 := by
  rw [width, width, List.length_cons, List.count_cons_of_ne h]
  omega

theorem ne_of_startsEscape_eq_false (hquote : isQuote quote = true) (h : startsEscape c = false) :
    c ≠ quote := by
  rintro rfl
  rw [startsEscape_of_isQuote hquote] at h
  cases h

/-- A backslash of the text does not stand at its end, nor before a quote: the closing quote, or the
backslash that is put before the other one, would be taken for what it escapes. -/
theorem exists_cons_of_body_backslash (hquote : isQuote quote = true)
    (hbody : Body quote ('\\' :: inQuotes quote s)) : ∃ d t, s = d :: t ∧ d ≠ quote := by
  cases s with
  | nil => cases hbody with
    | char _ hc _ _ => exact absurd rfl hc
  | cons d t =>
    refine ⟨d, t, rfl, fun hd => ?_⟩
    rw [hd, inQuotes_quote] at hbody
    exact (hbody.of_escape.2.of_char (ne_backslash hquote)).1 rfl

/-- **What is read is never wider than what is written.** -/
theorem width_le_of_value? (hquote : isQuote quote = true) {v : List Char} (hbody : Body quote raw)
    (hv : value? named raw = some v) : width quote v ≤ raw.length := by
  -- By the recursion of the reader: what it reads as a quote is written with two characters at
  -- least, since a quote by itself would have ended the literal.
  fun_induction value? named raw generalizing v with
  | case1 =>
    cases hv
    exact Nat.le_refl 0
  | case2 => cases hv
  | case3 => cases hv
  | case4 d ds _ e rest hread _ ih =>
    obtain ⟨w, hw, rfl⟩ := Option.map_eq_some_iff.mp hv
    have hmore := takesUp_escaped hread
    have hle := ih (hbody.of_escape.2.of_takesUp hmore) hw
    have hone := width_cons_le quote e w
    have hless := hmore.length_le
    simp only [List.length_cons]
    omega
  | case5 d ds hd ih =>
    obtain ⟨w, hw, rfl⟩ := Option.map_eq_some_iff.mp hv
    have hne : d ≠ quote := ne_of_startsEscape_eq_false hquote ((Bool.not_eq_true _).mp hd)
    have hle := ih hbody.of_escape.2 hw
    rw [width_cons_of_ne (ne_backslash hquote).symm, width_cons_of_ne hne, List.length_cons,
      List.length_cons]
    omega
  | case6 c cs hc ih =>
    obtain ⟨w, hw, rfl⟩ := Option.map_eq_some_iff.mp hv
    obtain ⟨hne, -, hrest⟩ := hbody.of_char hc
    rw [width_cons_of_ne hne, List.length_cons]
    exact Nat.succ_le_succ (ih hrest hw)

/-- A verbatim text may stand between quotes and is what is read. -/
theorem Verbatim.reads (hquote : isQuote quote = true) (h : Verbatim s) :
    Body quote (inQuotes quote s) ∧ value? named (inQuotes quote s) = some s := by
  induction h with
  | nil => exact ⟨.nil, by rw [inQuotes, List.flatMap_nil, value?]⟩
  | @char c s hc hbreak _ ih =>
    obtain ⟨hbody, hvalue⟩ := ih
    by_cases hq : c = quote
    · rw [← hq] at hquote hbody hvalue ⊢
      rw [inQuotes_quote]
      exact ⟨.escape hbreak hbody, (value?_quote_eq_some_iff hquote).mpr hvalue⟩
    · rw [inQuotes_cons hq]
      exact ⟨.char hq hc hbreak hbody, (value?_char_eq_some_iff hc).mpr hvalue⟩
  | @backslash c s hc hbreak _ ih =>
    obtain ⟨hbody, hvalue⟩ := ih
    rw [inQuotes_cons (ne_backslash hquote).symm,
      inQuotes_cons (ne_of_startsEscape_eq_false hquote hc)]
    exact ⟨.escape hbreak hbody, (value?_backslash_eq_some_iff hc).mpr hvalue⟩

/-- An escape that a text makes by itself is not what is read.  The backslash would have to be what
the escape stands for, and then too little is left for the rest of the text. -/
theorem not_reads_escape (hquote : isQuote quote = true) (hd : d ≠ quote)
    (hescape : startsEscape d = true) (hbody : Body quote ('\\' :: d :: inQuotes quote s)) :
    value? named ('\\' :: d :: inQuotes quote s) ≠ some ('\\' :: d :: s) := by
  intro hvalue
  rw [value?_escape hescape] at hvalue
  obtain ⟨⟨e, rest⟩, hread, hvalue⟩ := Option.bind_eq_some_iff.mp hvalue
  obtain ⟨v, hv, heq⟩ := Option.map_eq_some_iff.mp hvalue
  obtain ⟨-, rfl⟩ := List.cons.inj heq
  have hmore := takesUp_escaped hread
  have hle := width_le_of_value? hquote (hbody.of_escape.2.of_takesUp hmore) hv
  have hless := hmore.length_le
  rw [length_inQuotes] at hless
  rw [width_cons_of_ne hd] at hle
  omega

/-- **Only a verbatim text is what is read.** -/
theorem verbatim_of_reads (hquote : isQuote quote = true) : ∀ {s : List Char},
    Body quote (inQuotes quote s) → value? named (inQuotes quote s) = some s → Verbatim s
  | [], _, _ => .nil
  | c :: s, hbody, hvalue => by
    by_cases hq : c = quote
    · rw [hq, inQuotes_quote] at hbody hvalue
      rw [hq]
      exact .char (ne_backslash hquote) (not_breaksSource hquote)
        (verbatim_of_reads hquote hbody.of_escape.2 ((value?_quote_eq_some_iff hquote).mp hvalue))
    rw [inQuotes_cons hq] at hbody hvalue
    by_cases hc : c = '\\'
    · subst hc
      -- The backslash has a character after it, which the text makes no escape with.
      obtain ⟨d, s, rfl, hd⟩ := exists_cons_of_body_backslash hquote hbody
      rw [inQuotes_cons hd] at hbody hvalue
      have hescape : startsEscape d = false :=
        (Bool.not_eq_true _).mp fun h => not_reads_escape hquote hd h hbody hvalue
      obtain ⟨hbreak, hrest⟩ := hbody.of_escape
      exact .backslash hescape hbreak
        (verbatim_of_reads hquote hrest ((value?_backslash_eq_some_iff hescape).mp hvalue))
    · obtain ⟨-, hbreak, hrest⟩ := hbody.of_char hc
      exact .char hc hbreak
        (verbatim_of_reads hquote hrest ((value?_char_eq_some_iff hc).mp hvalue))

/-- What is written in quotes does not begin with two more of them, since those of the text have
backslashes before them. -/
theorem take_two_inQuotes_ne (hquote : isQuote quote = true) (hrest : rest.head? ≠ some quote) :
    (inQuotes quote s ++ quote :: rest).take 2 ≠ [quote, quote] := by
  intro h
  cases s with
  | nil =>
    rw [inQuotes, List.flatMap_nil, List.nil_append, List.take_succ_cons] at h
    cases rest with
    | nil => cases h
    | cons c rest => exact hrest (congrArg some (List.cons.inj (List.cons.inj h).2).1)
  | cons c s =>
    by_cases hc : c = quote
    · rw [hc, inQuotes_quote, List.cons_append, List.take_succ_cons] at h
      exact ne_backslash hquote (List.cons.inj h).1.symm
    · rw [inQuotes_cons hc, List.cons_append, List.take_succ_cons] at h
      exact hc (List.cons.inj h).1

/-- The reader gives back a text that is written between quotes exactly if the text is verbatim. -/
theorem reads_inQuotes_iff (hquote : isQuote quote = true) (hrest : rest.head? ≠ some quote) :
    read? named (quote :: (inQuotes quote s ++ quote :: rest)) = some (s, rest) ↔ Verbatim s := by
  rw [read?, hquote, Bool.true_and, if_pos (bne_iff_ne.mpr (take_two_inQuotes_ne hquote hrest)),
    Option.bind_eq_some_iff]
  constructor
  · rintro ⟨⟨raw, rest'⟩, hread, hvalue⟩
    obtain ⟨v, hv, heq⟩ := Option.map_eq_some_iff.mp hvalue
    obtain ⟨rfl, rfl⟩ := Prod.mk.inj heq
    obtain ⟨hbody, hsplit⟩ := (body?_eq_some_iff (ne_backslash hquote)).mp hread
    obtain rfl := List.append_cancel_right hsplit
    exact verbatim_of_reads hquote hbody hv
  · intro hs
    obtain ⟨hbody, hvalue⟩ : Body quote (inQuotes quote s) ∧
        value? named (inQuotes quote s) = some s := hs.reads hquote
    exact ⟨_, (body?_eq_some_iff (ne_backslash hquote)).mpr ⟨hbody, rfl⟩, by rw [hvalue]; rfl⟩

end Verbatim

/-- The literal of a text is the text between quotes of one kind. -/
theorem exists_quoteText_eq (s : List Char) :
    ∃ quote, isQuote quote = true ∧
      Yaml.quoteText s = quote :: (inQuotes quote s ++ [quote]) := by
  unfold Yaml.quoteText
  split
  next h =>
    have hnone : '"' ∉ s := by simpa using (Bool.and_eq_true_iff.mp h).2
    exact ⟨'"', rfl, by rw [inQuotes_of_not_mem hnone]; rfl⟩
  next => exact ⟨'\'', rfl, rfl⟩

/-- The literal of a text reads as the text, whatever follows but a quote, exactly if the text is
verbatim. -/
theorem read?_quoteText_iff {named : List Char → Option Char} {s after : List Char}
    (hafter : ∀ c ∈ after.head?, isQuote c = false) :
    read? named (Yaml.quoteText s ++ after) = some (s, after) ↔ Verbatim s := by
  obtain ⟨quote, hquote, heq⟩ := exists_quoteText_eq s
  have hother : after.head? ≠ some quote := by
    intro h
    rw [hafter quote h] at hquote
    cases hquote
  rw [heq, List.cons_append, List.append_assoc, List.singleton_append]
  exact reads_inQuotes_iff hquote hother

end QualityScale.Literal

namespace QualityScale.Yaml

/-! ### Texts in a value -/

/-- **The text is a part of the value**: the value itself, or a part of one of its items, keys or
values of keys. -/
inductive Value.HasText (s : String) : Value → Prop
  | here : HasText s (.string s)
  | item {vs v} : v ∈ vs → HasText s v → HasText s (.sequence vs)
  | key {es k v} : (k, v) ∈ es → HasText s k → HasText s (.mapping es)
  | value {es k v} : (k, v) ∈ es → HasText s v → HasText s (.mapping es)
  | tagged {tag v} : HasText s v → HasText s (.tagged tag v)

/-- A part of a text, with no quote right after it. -/
def StandsIn (part text : List Char) : Prop :=
  ∃ before after, text = before ++ (part ++ after) ∧ ∀ c ∈ after.head?, Literal.isQuote c = false

section StandsIn

variable {part text whole after : List Char}

theorem standsIn_self (part : List Char) : StandsIn part part :=
  ⟨[], [], by rw [List.append_nil, List.nil_append], by simp⟩

/-- What stands in a text stands in every text that holds it before something that is no quote. -/
theorem StandsIn.within (h : StandsIn part text) (before : List Char)
    (hafter : ∀ c ∈ after.head?, Literal.isQuote c = false) :
    StandsIn part (before ++ (text ++ after)) := by
  obtain ⟨start, rest, rfl, hrest⟩ := h
  refine ⟨before ++ start, rest ++ after, by simp only [List.append_assoc], ?_⟩
  cases rest with
  | nil => exact hafter
  | cons d rest => exact hrest

theorem StandsIn.behind (h : StandsIn part text) (before : List Char) :
    StandsIn part (before ++ text) := by
  have hwithin : StandsIn part (before ++ (text ++ [])) := h.within before (by simp)
  rwa [List.append_nil] at hwithin

theorem StandsIn.trans (h : StandsIn part text) (h' : StandsIn text whole) :
    StandsIn part whole := by
  obtain ⟨before, after, rfl, hafter⟩ := h'
  exact h.within before hafter

theorem standsIn_literalItems {v : Value} : ∀ {vs : List Value}, v ∈ vs →
    StandsIn v.literal (literalItems vs)
  | [w], hv => by
    obtain rfl := List.mem_singleton.mp hv
    exact standsIn_self _
  | w :: w' :: vs, hv => by
    show StandsIn v.literal (w.literal ++ ',' :: ' ' :: literalItems (w' :: vs))
    rcases List.mem_cons.mp hv with rfl | hv
    · exact (standsIn_self _).within [] (by rintro c ⟨⟩; rfl)
    · exact ((standsIn_literalItems hv).behind [',', ' ']).behind w.literal

theorem standsIn_literalEntries {k v : Value} : ∀ {es : List (Value × Value)}, (k, v) ∈ es →
    StandsIn k.literal (literalEntries es) ∧ StandsIn v.literal (literalEntries es)
  | [(k', v')], he => by
    obtain ⟨rfl, rfl⟩ := Prod.mk.inj (List.mem_singleton.mp he)
    show StandsIn k.literal (k.literal ++ ':' :: ' ' :: v.literal) ∧
      StandsIn v.literal (k.literal ++ ':' :: ' ' :: v.literal)
    exact ⟨(standsIn_self _).within [] (by rintro c ⟨⟩; rfl),
      ((standsIn_self _).behind [':', ' ']).behind k.literal⟩
  | (k', v') :: e :: es, he => by
    have hliteral : literalEntries ((k', v') :: e :: es) = k'.literal ++
        ([':', ' '] ++ (v'.literal ++ ([',', ' '] ++ literalEntries (e :: es)))) := rfl
    rw [hliteral]
    rcases List.mem_cons.mp he with heq | he
    · obtain ⟨rfl, rfl⟩ := Prod.mk.inj heq
      exact ⟨(standsIn_self _).within [] (by rintro c ⟨⟩; rfl),
        (((standsIn_self _).within [] (by rintro c ⟨⟩; rfl)).behind [':', ' ']).behind k.literal⟩
    · obtain ⟨hk, hv⟩ := standsIn_literalEntries he
      exact ⟨(((hk.behind [',', ' ']).behind v'.literal).behind [':', ' ']).behind k'.literal,
        (((hv.behind [',', ' ']).behind v'.literal).behind [':', ' ']).behind k'.literal⟩

/-- **The literal of a text stands in that of every value that the text is a part of.** -/
theorem Value.HasText.standsIn {v : Value} {s : String} (h : v.HasText s) :
    StandsIn (quoteText s.toList) v.literal := by
  have hclosing : ∀ close : Char, Literal.isQuote close = false →
      ∀ c ∈ [close].head?, Literal.isQuote c = false := by
    rintro close hclose c ⟨⟩
    exact hclose
  induction h with
  | here =>
    rw [Value.literal]
    exact standsIn_self _
  | item hv _ ih =>
    rw [Value.literal]
    exact (ih.trans (standsIn_literalItems hv)).within ['['] (hclosing ']' rfl)
  | key he _ ih =>
    rw [Value.literal]
    exact (ih.trans (standsIn_literalEntries he).1).within ['\x7b'] (hclosing '\x7d' rfl)
  | value he _ ih =>
    rw [Value.literal]
    exact (ih.trans (standsIn_literalEntries he).2).within ['\x7b'] (hclosing '\x7d' rfl)
  | tagged _ ih =>
    rw [Value.literal]
    exact ih

end StandsIn

end QualityScale.Yaml

namespace QualityScale

open Literal (read? Verbatim isQuote)
open Yaml (Value quoteText)

theorem toList_shown {v : Value} (h : v.literal.length ≤ Yaml.shownLimit) :
    v.shown.toList = v.literal := by
  rw [Value.shown, Yaml.abridge, if_pos h, String.toList_ofList]

/-- **A text in a value that is shown whole reads back exactly if it is verbatim.**  Its literal
stands in what is shown, alone if the value is the text itself, and the reader gives back the text
and leaves what stands after it. -/
theorem shown_text_reads_back_iff {v : Value} {s : String} (hs : v.HasText s)
    (hwhole : v.literal.length ≤ Yaml.shownLimit) (named : List Char → Option Char) :
    ∃ before after, v.shown.toList = before ++ (quoteText s.toList ++ after) ∧
      (v = .string s → before = [] ∧ after = []) ∧
      (read? named (quoteText s.toList ++ after) = some (s.toList, after) ↔
        Verbatim s.toList) := by
  rw [toList_shown hwhole]
  by_cases hv : v = .string s
  · refine ⟨[], [], ?_, fun _ => ⟨rfl, rfl⟩, Literal.read?_quoteText_iff (by simp)⟩
    rw [hv, Value.literal, List.nil_append, List.append_nil]
  · obtain ⟨before, after, heq, hafter⟩ := hs.standsIn
    exact ⟨before, after, heq, fun h => absurd h hv, Literal.read?_quoteText_iff hafter⟩

/-- A list with a text that holds a backslash and quotes of both kinds. -/
def quotingValue : Value :=
  .sequence [.null, .string "\\d'\""]

theorem shown_text_reads_back_iff_quotingValue :
    (quotingValue.HasText "\\d'\"" ∧ quotingValue.literal.length ≤ Yaml.shownLimit) ∧
      quotingValue.shown = "[None, '\\d\\'\"']" ∧
      ∃ before after, quotingValue.shown.toList = before ++ (quoteText "\\d'\"".toList ++ after) ∧
        read? (fun _ => none) (quoteText "\\d'\"".toList ++ after) =
          some ("\\d'\"".toList, after) := by
  have htext : quotingValue.HasText "\\d'\"" := .item (by simp) .here
  have hwhole : quotingValue.literal.length ≤ Yaml.shownLimit := by decide
  have hverbatim : Verbatim "\\d'\"".toList :=
    .backslash rfl rfl (.char (by decide) rfl (.char (by decide) rfl .nil))
  obtain ⟨before, after, hshown, -, hreads⟩ :=
    shown_text_reads_back_iff htext hwhole fun _ => none
  exact ⟨⟨htext, hwhole⟩, by decide, before, after, hshown, hreads.mpr hverbatim⟩

/-- The literal of a text that ends with a backslash has no end. -/
theorem shown_text_without_end :
    (Value.string "a\\").literal.length ≤ Yaml.shownLimit ∧
      (Value.string "a\\").shown = "'a\\'" ∧
      ∀ named, read? named (Value.string "a\\").shown.toList = none := by
  have hwhole : (Value.string "a\\").literal.length ≤ Yaml.shownLimit := by decide
  refine ⟨hwhole, by decide, fun named => ?_⟩
  rw [toList_shown hwhole]
  rfl

end QualityScale
