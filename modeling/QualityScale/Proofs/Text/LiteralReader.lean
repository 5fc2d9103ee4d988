import Mathlib.Data.List.TakeWhile
import QualityScale.Text.Hex

/-!
# Reading text literals

How a reader of Python source, the language that integrations are written in, reads the literal of a
text on one line.  It first looks for the end, which is the next quote that no backslash stands
before, and then replaces the escapes between the quotes.

* `read?`: the text of a literal, and what comes after it.  `body?` finds the end, and `value?`
  replaces the escapes.
* `Body quote raw`: what may stand between quotes.  `body?_eq_some_iff`: that is what `body?` finds.
* `TakesUp cs rest`: what an escape takes up means nothing between quotes, so it does not hide the
  end of the literal (`Body.of_takesUp`).

The characters that have names are not listed: `named` says which one a name belongs to.
-/

namespace QualityScale.Literal

/-! ### Reading a literal -/

/-- The escapes of one character, each with the character that it stands for. -/
def shortEscapes : List (Char × Char) :=
  [('\\', '\\'), ('\'', '\''), ('"', '"'), ('a', '\x07'), ('b', '\x08'), ('f', '\x0c'),
    ('n', '\n'), ('r', '\r'), ('t', '\t'), ('v', '\x0b')]

/-- The digits of an escape that gives a character's number with up to three of them. -/
def isOctal (c : Char) : Bool :=
  '0' ≤ c && c ≤ '7'

/-- How many hexadecimal digits follow in an escape that gives a character's number with them. -/
def hexLength? : Char → Option Nat
  | 'x' => some 2
  | 'u' => some 4
  | 'U' => some 8
  | _ => none

/-- The characters that the names of characters are made of. -/
def isNameChar (c : Char) : Bool :=
  c.isAlphanum || c == ' ' || c == '-'

/-- Whether a backslash makes an escape with this character. -/
def startsEscape (c : Char) : Bool :=
  (shortEscapes.lookup c).isSome || isOctal c || (hexLength? c).isSome || c == 'N'

/-- The character with a number. -/
def char? (n : Nat) : Option Char :=
  if h : n.isValidChar then some (Char.ofNatAux n h) else none

/-- The character whose number starts with an octal digit, and what is left of the text after it. -/
def octal? (c : Char) (cs : List Char) : Option (Char × List Char) :=
  let more := (cs.take 2).takeWhile isOctal
  (char? ((c :: more).foldl (fun n d => 8 * n + (d.toNat - '0'.toNat)) 0)).map fun d =>
    (d, cs.drop more.length)

/-- The character whose number is given by so many hexadecimal digits, and what is left. -/
def hexadecimal? (length : Nat) (cs : List Char) : Option (Char × List Char) :=
  if cs.length < length then none
  else ((Text.hexNumber? (cs.take length)).bind char?).map fun d => (d, cs.drop length)

/-- The character whose name stands in braces, and what is left. -/
def byName? (named : List Char → Option Char) : List Char → Option (Char × List Char)
  | '\x7b' :: name =>
    match name.dropWhile isNameChar with
    | '\x7d' :: rest => (named (name.takeWhile isNameChar)).map fun d => (d, rest)
    | _ => none
  | _ => none

/-- The character that an escape stands for, which begins with `c`, and what is left. -/
def escaped? (named : List Char → Option Char) (c : Char) (cs : List Char) :
    Option (Char × List Char) :=
  match shortEscapes.lookup c with
  | some d => some (d, cs)
  | none =>
    if isOctal c then octal? c cs
    else
      match hexLength? c with
      | some length => hexadecimal? length cs
      | none => byName? named cs

/-- The quotes that a literal may stand in. -/
def isQuote (c : Char) : Bool :=
  c == '\'' || c == '"'

/-- The characters that a line of source cannot hold. -/
def breaksSource (c : Char) : Bool :=
  c == '\n' || c == '\r' || c == '\x00'

/-- What is written before the next quote that no backslash stands before, and what comes after that
quote. -/
def body? (quote : Char) : List Char → Option (List Char × List Char)
  | [] => none
  | c :: cs =>
    if c = quote then some ([], cs)
    else if breaksSource c then none
    else if c = '\\' then
      match cs with
      | [] => none
      | d :: ds =>
        if breaksSource d then none
        else (body? quote ds).map fun read => (c :: d :: read.1, read.2)
    else (body? quote cs).map fun read => (c :: read.1, read.2)

/-! ### What an escape takes up -/

/-- The characters that mean something between quotes. -/
def isMark (c : Char) : Bool :=
  c == '\\' || isQuote c

theorem isQuote_iff {c : Char} : isQuote c = true ↔ c = '\'' ∨ c = '"' := by
  rw [isQuote, Bool.or_eq_true, beq_iff_eq, beq_iff_eq]

theorem isMark_iff {c : Char} : isMark c = true ↔ c = '\\' ∨ c = '\'' ∨ c = '"' := by
  rw [isMark, Bool.or_eq_true, beq_iff_eq, isQuote_iff]

theorem isMark_eq_false_iff {c : Char} : isMark c = false ↔ c ≠ '\\' ∧ c ≠ '\'' ∧ c ≠ '"' := by
  rw [← Bool.not_eq_true, isMark_iff, not_or, not_or]

section Quote

variable {quote : Char} (h : isQuote quote = true)
include h

theorem ne_backslash : quote ≠ '\\' := by
  rintro rfl
  cases h

theorem not_breaksSource : breaksSource quote = false := by
  rcases isQuote_iff.mp h with rfl | rfl <;> rfl

theorem startsEscape_of_isQuote : startsEscape quote = true := by
  rcases isQuote_iff.mp h with rfl | rfl <;> decide

theorem escaped?_quote {named : List Char → Option Char} {cs : List Char} :
    escaped? named quote cs = some (quote, cs) := by
  rcases isQuote_iff.mp h with rfl | rfl <;> rfl

end Quote

theorem isMark_eq_false_of_isOctal {c : Char} (h : isOctal c = true) : isMark c = false := by
  rw [isMark_eq_false_iff]
  refine ⟨?_, ?_, ?_⟩ <;> rintro rfl <;> revert h <;> decide

theorem isMark_eq_false_of_isNameChar {c : Char} (h : isNameChar c = true) : isMark c = false := by
  rw [isMark_eq_false_iff]
  refine ⟨?_, ?_, ?_⟩ <;> rintro rfl <;> revert h <;> decide

theorem isMark_eq_false_of_hexValue? {c : Char} (h : (Text.hexValue? c).isSome = true) :
    isMark c = false := by
  rw [isMark_eq_false_iff]
  refine ⟨?_, ?_, ?_⟩ <;> rintro rfl <;> revert h <;> decide

theorem isSome_hexValue?_of_mem {cs : List Char} (h : (Text.hexNumber? cs).isSome = true) :
    ∀ c ∈ cs, (Text.hexValue? c).isSome = true := by
  have hfold : ∀ n : Nat,
      (cs.foldlM (fun n c => (Text.hexValue? c).map (16 * n + ·)) n).isSome = true →
        ∀ c ∈ cs, (Text.hexValue? c).isSome = true := by
    clear h
    induction cs with
    | nil => simp
    | cons d cs ih =>
      intro n h
      rw [List.foldlM_cons] at h
      cases hd : Text.hexValue? d with
      | none =>
        rw [hd] at h
        cases h
      | some k =>
        rw [hd] at h
        intro c hc
        rcases List.mem_cons.mp hc with rfl | hc
        · rw [hd]
          rfl
        · exact ih _ h c hc
  exact hfold 0 h

/-- **What an escape takes up** of the text after its first character: some characters that mean
nothing between quotes. -/
def TakesUp (cs rest : List Char) : Prop :=
  ∃ more : List Char, cs = more ++ rest ∧ ∀ x ∈ more, isMark x = false

theorem TakesUp.length_le {cs rest : List Char} (h : TakesUp cs rest) :
    rest.length ≤ cs.length := by
  obtain ⟨more, rfl, -⟩ := h
  rw [List.length_append]
  exact Nat.le_add_left _ _

section TakesUp

variable {named : List Char → Option Char} {c d : Char} {cs rest : List Char}

theorem takesUp_octal (h : octal? c cs = some (d, rest)) : TakesUp cs rest := by
  obtain ⟨_, -, heq⟩ := Option.map_eq_some_iff.mp h
  obtain ⟨-, rfl⟩ := Prod.mk.inj heq
  have hprefix : (cs.take 2).takeWhile isOctal <+: cs :=
    (List.takeWhile_prefix _).trans (List.take_prefix _ _)
  refine ⟨(cs.take 2).takeWhile isOctal, (List.prefix_iff_eq_append.mp hprefix).symm, ?_⟩
  intro x hx
  exact isMark_eq_false_of_isOctal (List.mem_takeWhile_imp hx)

theorem takesUp_hexadecimal {length : Nat} (h : hexadecimal? length cs = some (d, rest)) :
    TakesUp cs rest := by
  unfold hexadecimal? at h
  split at h
  next => cases h
  next =>
    obtain ⟨_, hd, heq⟩ := Option.map_eq_some_iff.mp h
    obtain ⟨-, rfl⟩ := Prod.mk.inj heq
    obtain ⟨n, hn, -⟩ := Option.bind_eq_some_iff.mp hd
    have hdigits : (Text.hexNumber? (cs.take length)).isSome = true := by
      rw [hn]
      rfl
    refine ⟨cs.take length, (List.take_append_drop _ _).symm, ?_⟩
    intro x hx
    exact isMark_eq_false_of_hexValue? (isSome_hexValue?_of_mem hdigits x hx)

theorem takesUp_byName (h : byName? named cs = some (d, rest)) : TakesUp cs rest := by
  unfold byName? at h
  split at h
  next name =>
    split at h
    next hrest =>
      obtain ⟨_, -, heq⟩ := Option.map_eq_some_iff.mp h
      obtain ⟨-, rfl⟩ := Prod.mk.inj heq
      refine ⟨'\x7b' :: (name.takeWhile isNameChar ++ ['\x7d']), ?_, ?_⟩
      · have hname := List.takeWhile_append_dropWhile (p := isNameChar) (l := name)
        rw [hrest] at hname
        rw [List.cons_append, List.append_assoc, List.singleton_append, hname]
      · intro x hx
        simp only [List.mem_cons, List.mem_append, List.not_mem_nil, or_false] at hx
        rcases hx with rfl | hx | rfl
        · decide
        · exact isMark_eq_false_of_isNameChar (List.mem_takeWhile_imp hx)
        · decide
    next => cases h
  next => cases h

theorem takesUp_escaped (h : escaped? named c cs = some (d, rest)) : TakesUp cs rest := by
  unfold escaped? at h
  split at h
  next =>
    obtain ⟨-, rfl⟩ := Prod.mk.inj (Option.some.inj h)
    exact ⟨[], rfl, by simp⟩
  next =>
    split at h
    next => exact takesUp_octal h
    next =>
      split at h
      next => exact takesUp_hexadecimal h
      next => exact takesUp_byName h

end TakesUp

/-- What is between the quotes, with the escapes replaced.  A backslash that makes no escape with
the next character stands for itself, and none stands at the end. -/
def value? (named : List Char → Option Char) : List Char → Option (List Char)
  | [] => some []
  | c :: cs =>
    if c = '\\' then
      match cs with
      | [] => none
      | d :: ds =>
        if startsEscape d then
          match h : escaped? named d ds with
          | none => none
          | some (e, rest) =>
            have := (takesUp_escaped h).length_le
            (value? named rest).map (e :: ·)
        else (value? named ds).map fun v => c :: d :: v
    else (value? named cs).map (c :: ·)
termination_by cs => cs.length

/-- The text of the literal on one line that a text starts with, and what comes after it.  Three
quotes in a row do not start such a literal. -/
def read? (named : List Char → Option Char) : List Char → Option (List Char × List Char)
  | [] => none
  | quote :: cs =>
    if isQuote quote && cs.take 2 != [quote, quote] then
      (body? quote cs).bind fun read => (value? named read.1).map fun v => (v, read.2)
    else none

section Value

variable {named : List Char → Option Char} {c : Char} {s raw : List Char}

theorem value?_char (hc : c ≠ '\\') : value? named (c :: s) = (value? named s).map (c :: ·) := by
  rw [value?.eq_def]
  exact if_neg hc

theorem value?_backslash (hc : startsEscape c = false) :
    value? named ('\\' :: c :: s) = (value? named s).map fun v => '\\' :: c :: v := by
  rw [value?.eq_def]
  simp only [if_true, hc, Bool.false_eq_true, if_false]

theorem value?_escape (hc : startsEscape c = true) :
    value? named ('\\' :: c :: s) =
      (escaped? named c s).bind fun read => (value? named read.2).map (read.1 :: ·) := by
  rw [value?.eq_def]
  simp only [if_true, hc]
  split
  next h => rw [h]; rfl
  next h => rw [h]; rfl

theorem value?_char_eq_some_iff (hc : c ≠ '\\') :
    value? named (c :: raw) = some (c :: s) ↔ value? named raw = some s := by
  rw [value?_char hc, Option.map_eq_some_iff]
  simp

theorem value?_backslash_eq_some_iff (hc : startsEscape c = false) :
    value? named ('\\' :: c :: raw) = some ('\\' :: c :: s) ↔ value? named raw = some s := by
  rw [value?_backslash hc, Option.map_eq_some_iff]
  simp

theorem value?_quote_eq_some_iff (hquote : isQuote c = true) :
    value? named ('\\' :: c :: raw) = some (c :: s) ↔ value? named raw = some s := by
  rw [value?_escape (startsEscape_of_isQuote hquote), escaped?_quote hquote, Option.bind_some,
    Option.map_eq_some_iff]
  simp

end Value

/-! ### Where a literal ends -/

/-- What may stand between quotes: characters other than the quote and the backslash, and
backslashes with any character, all on one line. -/
inductive Body (quote : Char) : List Char → Prop
  | nil : Body quote []
  | char {c raw} : c ≠ quote → c ≠ '\\' → breaksSource c = false → Body quote raw →
      Body quote (c :: raw)
  | escape {c raw} : breaksSource c = false → Body quote raw → Body quote ('\\' :: c :: raw)

section Body

variable {quote c : Char} {raw rest cs : List Char}

theorem body?_of_body (hquote : quote ≠ '\\') (h : Body quote raw) (rest : List Char) :
    body? quote (raw ++ quote :: rest) = some (raw, rest) := by
  induction h with
  | nil =>
    unfold body?
    exact if_pos rfl
  | char hc hslash hbreak _ ih =>
    rw [List.cons_append]
    unfold body?
    rw [if_neg hc, hbreak, if_neg Bool.false_ne_true, if_neg hslash, ih, Option.map_some]
  | escape hbreak _ ih =>
    have hslash : breaksSource '\\' = false := rfl
    rw [List.cons_append, List.cons_append]
    unfold body?
    rw [if_neg hquote.symm, hslash, if_neg Bool.false_ne_true, if_pos rfl]
    simp only [hbreak, Bool.false_eq_true, if_false, ih, Option.map_some]

theorem body_of_body? (h : body? quote cs = some (raw, rest)) :
    Body quote raw ∧ cs = raw ++ quote :: rest := by
  fun_induction body? quote cs generalizing raw with
  | case1 => cases h
  | case2 cs =>
    obtain ⟨rfl, rfl⟩ := Prod.mk.inj (Option.some.inj h)
    exact ⟨.nil, rfl⟩
  | case3 => cases h
  | case4 => cases h
  | case5 => cases h
  | case6 d ds hbreak _ _ ih =>
    obtain ⟨read, hread, heq⟩ := Option.map_eq_some_iff.mp h
    obtain ⟨rfl, rfl⟩ := Prod.mk.inj heq
    obtain ⟨hbody, hsplit⟩ := ih hread
    exact ⟨.escape ((Bool.not_eq_true _).mp hbreak) hbody, by rw [hsplit]; rfl⟩
  | case7 c cs hc hbreak hslash ih =>
    obtain ⟨read, hread, heq⟩ := Option.map_eq_some_iff.mp h
    obtain ⟨rfl, rfl⟩ := Prod.mk.inj heq
    obtain ⟨hbody, hsplit⟩ := ih hread
    exact ⟨.char hc hslash ((Bool.not_eq_true _).mp hbreak) hbody, by rw [hsplit]; rfl⟩

/-- **A literal ends at the first quote that no backslash stands before.** -/
theorem body?_eq_some_iff (hquote : quote ≠ '\\') :
    body? quote cs = some (raw, rest) ↔ Body quote raw ∧ cs = raw ++ quote :: rest := by
  refine ⟨body_of_body?, ?_⟩
  rintro ⟨hbody, rfl⟩
  exact body?_of_body hquote hbody rest

theorem Body.of_char (h : Body quote (c :: raw)) (hc : c ≠ '\\') :
    c ≠ quote ∧ breaksSource c = false ∧ Body quote raw := by
  cases h with
  | char hne _ hbreak hraw => exact ⟨hne, hbreak, hraw⟩
  | escape _ _ => exact absurd rfl hc

theorem Body.of_escape (h : Body quote ('\\' :: c :: raw)) :
    breaksSource c = false ∧ Body quote raw := by
  cases h with
  | char _ hc _ _ => exact absurd rfl hc
  | escape hbreak hraw => exact ⟨hbreak, hraw⟩

/-- What an escape takes up does not hide the end of the literal. -/
theorem Body.of_takesUp (h : Body quote raw) (hmore : TakesUp raw rest) : Body quote rest := by
  obtain ⟨more, rfl, hplain⟩ := hmore
  induction more with
  | nil => exact h
  | cons x more ih =>
    have hx : x ≠ '\\' := (isMark_eq_false_iff.mp (hplain x List.mem_cons_self)).1
    exact ih (fun y hy => hplain y (List.mem_cons_of_mem x hy)) (Body.of_char h hx).2.2

end Body

end QualityScale.Literal
