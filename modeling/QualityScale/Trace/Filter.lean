import QualityScale.Text.Blank
import QualityScale.Text.Split
import QualityScale.Text.Word
import QualityScale.Trace

/-!
# Log filters

Which events of a trace are logged.  A filter is a list of rules, written with commas between
them: `warn,iqs_core=debug` lets warnings through, and from one part of the program all that is at
least a debugging message.  A rule may also name a span, or a field, in brackets; then it lets
through what happens within such a span.

Rules that name no span compete: the most specific one that applies to an event decides, and of
equally specific ones the last (`LogRule.deciding?`).  A rule for a span comes on top of that.
-/

namespace QualityScale

/-- How much is let through. -/
inductive Verbosity where
  | off
  | error
  | warn
  | info
  | debug
  | trace
  deriving DecidableEq, Repr

namespace Verbosity

/-- The verbosities, least first. -/
def all : List Verbosity := [off, error, warn, info, debug, trace]

/-- The name of a verbosity. -/
def name : Verbosity → String
  | off => "off"
  | error => "error"
  | warn => "warn"
  | info => "info"
  | debug => "debug"
  | trace => "trace"

/-- The place of a verbosity, from the least one. -/
def rank : Verbosity → Nat
  | off => 0
  | error => 1
  | warn => 2
  | info => 3
  | debug => 4
  | trace => 5

/-- Whether an event of a level is let through. -/
def admits (v : Verbosity) (l : Level) : Bool :=
  l.rank < v.rank

/-- The greatest of some verbosities. -/
def greatest (vs : List Verbosity) : Verbosity :=
  vs.foldl (fun v w => if v.rank < w.rank then w else v) off

/-- The number that some digits stand for; a plus sign may come before them. -/
def number? (text : List Char) : Option Nat :=
  let digits := if text.head? = some '+' then text.drop 1 else text
  if !digits.isEmpty && digits.all Char.isDigit then
    some (digits.foldl (fun n c => 10 * n + (c.toNat - '0'.toNat)) 0)
  else none

/-- The verbosity that a text names, in letters of either case or by its place. -/
def ofText? (text : List Char) : Option Verbosity :=
  match number? text with
  | some n => all[n]?
  | none => all.find? fun v => v.name == String.ofList (text.map Char.toLower)

end Verbosity

/-- A field that a rule asks for, and the value it has to have, if that matters. -/
structure FieldRule where
  name : String
  value : Option String
  deriving DecidableEq, Repr

/-- The field that a text asks for: a name, and a value after an equals sign. -/
def FieldRule.ofText (text : List Char) : FieldRule :=
  match Text.splitAt '=' text with
  | name :: value :: _ => ⟨String.ofList name, some (String.ofList value)⟩
  | _ => ⟨String.ofList text, none⟩

/-- A rule of a log filter. -/
structure LogRule where
  /-- The part of the program that the rule is about, by the start of its name. -/
  target : Option String := none
  /-- The name of the span that the rule is about. -/
  span : Option String := none
  /-- The fields that the rule asks for. -/
  fields : List FieldRule := []
  /-- How much is let through. -/
  verbosity : Verbosity
  deriving DecidableEq, Repr

namespace LogRule

/-! ## Reading -/

/-- The verbosity at the end of a rule; everything is let through where it is left out. -/
def verbosityAtEnd? : List Char → Option Verbosity
  | ['='] => some .trace
  | '=' :: name => Verbosity.ofText? name
  | rest => if rest.all Text.isBlank then some .trace else none

/-- What a rule about a part of the program says after an opening bracket. -/
def ofSpanText? (target : Option String) (text : List Char) : Option LogRule :=
  let name := text.takeWhile fun c => c ≠ ']' ∧ c ≠ '{'
  match text.drop name.length with
  | ']' :: rest =>
    (verbosityAtEnd? rest).map fun verbosity =>
      { target, span := some (String.ofList name), verbosity }
  | '{' :: rest =>
    let field := rest.takeWhile (· ≠ '}')
    match field, rest.drop field.length with
    | _ :: _, '}' :: ']' :: rest =>
      (verbosityAtEnd? rest).map fun verbosity =>
        { target, verbosity, fields := [.ofText field]
          span := if name.isEmpty then none else some (String.ofList name) }
    | _, _ => none
  | _ => none

/-- Whether a rule may start with the character. -/
def mayStart (c : Char) : Bool :=
  c == '[' || c == '-' || c == ':' || Text.isWord c

/--
The rule that a text without commas stands for.  A word alone is a verbosity if it names one, and
else a part of the program.  A blank at the start or the end belongs to the word next to it.
-/
def ofText? (text : List Char) : Option LogRule :=
  let word := text.takeWhile fun c => c ≠ '=' ∧ c ≠ '['
  let target := if word.isEmpty then none else some (String.ofList word)
  if !(Text.trimStart text).head?.any mayStart then none
  else if text.head?.any Text.isBlank && text.contains '=' then none
  else
    match text.drop word.length with
    | '[' :: rest => ofSpanText? target rest
    | [] =>
      match Verbosity.ofText? word with
      | some verbosity => some { verbosity }
      | none => some { target, verbosity := .trace }
    | rest => (verbosityAtEnd? rest).map fun verbosity => { target, verbosity }

/-! ## Which rule decides -/

/-- Whether a rule is about a part of the program. -/
def coversTarget (r : LogRule) (target : String) : Bool :=
  r.target.all fun start => start.toList.isPrefixOf target.toList

/-- Whether all the fields that a rule asks for are among the names. -/
def coversFields (r : LogRule) (names : List String) : Bool :=
  r.fields.all fun f => names.contains f.name

/-- Whether a rule holds without regard to what happens in a span. -/
def isStanding (r : LogRule) : Bool :=
  r.span.isNone && r.fields.all (·.value.isNone)

/-- Whether a rule lets through what happens within spans. -/
def isForSpans (r : LogRule) : Bool :=
  r.span.isSome || !r.fields.isEmpty

/-- The size of the name of a part that a rule is about; none at all counts as less than any. -/
def targetSize (r : LogRule) : Nat :=
  match r.target with
  | none => 0
  | some target => target.utf8ByteSize + 1

/-- The names of the fields that a rule asks for, in one text. -/
def fieldNames (r : LogRule) : String :=
  ",".intercalate (r.fields.map (·.name))

/--
Whether a rule is more specific than another.  A longer name of a part comes first, then the number
of fields.  The names of the fields decide between rules that are alike in both.
-/
def outranks (r s : LogRule) : Bool :=
  if r.targetSize ≠ s.targetSize then s.targetSize < r.targetSize
  else if r.fields.length ≠ s.fields.length then s.fields.length < r.fields.length
  else s.fieldNames < r.fieldNames

/-- The rule that decides: the most specific one, and of equally specific ones the last. -/
def deciding? : List LogRule → Option LogRule
  | [] => none
  | r :: rules =>
    match deciding? rules with
    | none => some r
    | some s => if r.outranks s then some r else some s

/-- The rules without those that a later rule about the same replaces. -/
def withoutReplaced (rules : List LogRule) : List LogRule :=
  rules.foldr (fun r later =>
    if later.any fun s => { s with verbosity := r.verbosity } = r then later else r :: later) []

end LogRule

/-- A filter of what is logged. -/
structure LogFilter where
  rules : List LogRule
  deriving DecidableEq, Repr

namespace LogFilter

/-- The filter that a text stands for, if every rule of it can be read; empty ones do not count. -/
def ofText? (text : String) : Option LogFilter :=
  (((Text.splitAt ',' text.toList).filter (· ≠ [])).mapM LogRule.ofText?).map (⟨·⟩)

/-- The filter that is used where none is given: the program's own events and all warnings. -/
def standard (verbose : Bool) : LogFilter :=
  let own := if verbose then Verbosity.debug else .info
  ⟨[{ verbosity := .warn }, { target := "iqs_core", verbosity := own },
    { target := "iqs", verbosity := own }]⟩

/-- The most that any rule lets through; a rule about a value has to see all there is. -/
def reach (f : LogFilter) : Verbosity :=
  if f.rules.any fun r => r.fields.any (·.value.isSome) then .trace
  else .greatest (f.rules.map (·.verbosity))

/-- What the rules let through that are about a part of the program and satisfy `p`. -/
def standing (f : LogFilter) (target : String) (p : LogRule → Bool) : Verbosity :=
  let rules := f.rules.filter fun r => r.isStanding && r.coversTarget target && p r
  match LogRule.deciding? rules with
  | some r => r.verbosity
  | none => .off

/-- The rules that are about what happens in the span of an integration. -/
def spanRules (f : LogFilter) : List LogRule :=
  LogRule.withoutReplaced (f.rules.filter (·.isForSpans)) |>.filter fun r =>
    r.coversTarget Trace.spanTarget && r.span.all (· == Trace.spanName) &&
      r.coversFields [Trace.spanField]

/-- Whether the spans of integrations are kept. -/
def hasSpans (f : LogFilter) : Bool :=
  f.reach.admits Trace.spanLevel &&
    (!f.spanRules.isEmpty ||
      (f.standing Trace.spanTarget fun _ => true).admits Trace.spanLevel)

/-- What is let through in the span of an integration, on top of what always is. -/
def within (f : LogFilter) (domain : String) : Verbosity :=
  .greatest <| (f.spanRules.filter fun r => r.fields.all fun field =>
    field.value.all (· == domain)).map (·.verbosity)

/-- Whether an event is logged. -/
def logs (f : LogFilter) (e : TraceEntry) : Bool :=
  let names := e.event.fields.map Prod.fst
  f.reach.admits e.event.level &&
    (f.hasSpans && e.span.any (fun domain => (f.within domain).admits e.event.level) ||
      (f.standing e.event.target fun r => r.coversFields names).admits e.event.level)

end LogFilter

/-- The events that a filter lets through, with the spans that it keeps. -/
def Trace.filtered (f : LogFilter) (t : Trace) : Trace :=
  (t.filter f.logs).map fun e => if f.hasSpans then e else { e with span := none }

end QualityScale
