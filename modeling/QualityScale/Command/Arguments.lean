import QualityScale.Path
import QualityScale.Tier

/-!
# Arguments

What a command line asks for.  A line has options of its own and then the name of a command, which
is followed by the command's options.  An option is written long or short; short ones may share a
hyphen, and a value may follow in the same argument or in the next one.  An option that is not
repeatable may come once at each of the two levels.

Some options take their value from the environment where the line does not give one.
-/

namespace QualityScale.Command

/-- What the environment holds. -/
structure Environment where
  root : Option String := none
  exemptions : Option String := none
  /-- What is logged, as the text of a log filter. -/
  log : Option String := none

/-- What is to be done. -/
inductive Action where
  | showVersion
  | validate (root : Path) (integrations : List String) (exemptions : Option Path)
  | listRules (tier : Option Tier)
  deriving DecidableEq

/-- What a command line asks for. -/
structure Request where
  action : Action
  json : Bool := false
  verbose : Bool := false
  deriving DecidableEq

/-! ## Options -/

/-- The options at one level of a command line, by their long names. -/
structure OptionTable where
  flags : List String
  /-- The options that take a value. -/
  valued : List String
  /-- The options with a short name. -/
  short : List (Char × String)
  /-- The options that may come more than once. -/
  repeatable : List String := []

/-- The option that asks for the version and for nothing else. -/
def versionFlag : String := "version"

/-- The options before the name of a command. -/
def mainTable : OptionTable where
  flags := ["verbose", "json", versionFlag]
  valued := []
  short := [('v', "verbose"), ('V', versionFlag)]

/-- The options of the command that validates. -/
def validateTable : OptionTable where
  flags := ["verbose", "json"]
  valued := ["root", "integration", "exemptions"]
  short := [('v', "verbose"), ('i', "integration")]
  repeatable := ["integration"]

/-- The options of the command that lists the rules. -/
def rulesTable : OptionTable where
  flags := ["verbose", "json"]
  valued := ["tier"]
  short := [('v', "verbose"), ('t', "tier")]

/-- An option that was given, with its value if it takes one. -/
structure Setting where
  name : String
  value : String := ""
  deriving DecidableEq, Repr

/-- Why the reading of a command line ends early. -/
inductive Halt where
  /-- The line makes no sense. -/
  | usage
  /-- The line asks for the version. -/
  | version
  deriving DecidableEq, Repr

/-- The settings with one more, which may not be there already unless it is repeatable. -/
def add (table : OptionTable) (settings : List Setting) (s : Setting) :
    Except Halt (List Setting) :=
  if s.name = versionFlag then .error .version
  else if settings.any (·.name == s.name) && !table.repeatable.contains s.name then .error .usage
  else .ok (settings ++ [s])

/--
The settings with those of short options behind one hyphen.  The second result names an option
whose value is the next argument.
-/
def addShort (table : OptionTable) (settings : List Setting) :
    List Char → Except Halt (List Setting × Option String)
  | [] => .ok (settings, none)
  | c :: cs =>
    match table.short.lookup c with
    | none => .error .usage
    | some name =>
      if table.flags.contains name then do
        addShort table (← add table settings ⟨name, ""⟩) cs
      else
        match cs with
        | [] => .ok (settings, some name)
        | '=' :: value => do return (← add table settings ⟨name, String.ofList value⟩, none)
        | value => do return (← add table settings ⟨name, String.ofList value⟩, none)

/-- The settings with that of a long option. -/
def addLong (table : OptionTable) (settings : List Setting) (text : List Char) :
    Except Halt (List Setting × Option String) :=
  let name := String.ofList (text.takeWhile (· != '='))
  match text.dropWhile (· != '=') with
  | [] =>
    if table.flags.contains name then do return (← add table settings ⟨name, ""⟩, none)
    else if table.valued.contains name then .ok (settings, some name)
    else .error .usage
  | _ :: value =>
    if table.valued.contains name then do
      return (← add table settings ⟨name, String.ofList value⟩, none)
    else .error .usage

/-- Whether an argument can be nothing but an option. -/
def isOption (argument : String) : Bool :=
  argument.startsWith "-" && argument ≠ "-"

/-- The argument after which there are no more options. -/
def optionsEnd : String := "--"

/--
The settings at one level and the arguments after them.  `pending` names an option that waits for
its value.
-/
def readSettings (table : OptionTable) (settings : List Setting) (pending : Option String) :
    List String → Except Halt (List Setting × List String)
  | [] => if pending.isSome then .error .usage else .ok (settings, [])
  | a :: rest =>
    match pending with
    | some name =>
      if isOption a then .error .usage
      else do readSettings table (← add table settings ⟨name, a⟩) none rest
    | none =>
      if !isOption a || a = optionsEnd then .ok (settings, a :: rest)
      else do
        let (settings, pending) ←
          match a.toList with
          | '-' :: '-' :: text => addLong table settings text
          | text => addShort table settings (text.drop 1)
        readSettings table settings pending rest

/-! ## Commands -/

/-- The value that an option was given. -/
def valueOf? (settings : List Setting) (name : String) : Option String :=
  (settings.find? (·.name == name)).map (·.value)

/-- Whether a flag was given. -/
def hasFlag (settings : List Setting) (name : String) : Bool :=
  settings.any (·.name == name)

/-- A path, which may not be empty. -/
def pathOf (text : String) : Except Halt Path :=
  if text = "" then .error .usage else .ok ⟨text⟩

/-- A tier. -/
def tierOf (text : String) : Except Halt Tier :=
  (Tier.parse text).mapError fun _ => .usage

/-- The settings of a command, after which nothing may follow. -/
def commandSettings (table : OptionTable) (arguments : List String) :
    Except Halt (List Setting) := do
  let (settings, rest) ← readSettings table [] none arguments
  if rest = [] ∨ rest = [optionsEnd] then return settings else throw .usage

/-- The directory that is validated where none is given. -/
def defaultRoot : String := "."

/-- What the options of the command that validates ask for. -/
def validateAction (environment : Environment) (settings : List Setting) :
    Except Halt Action := do
  let root ← pathOf (((valueOf? settings "root").or environment.root).getD defaultRoot)
  let exemptions ← ((valueOf? settings "exemptions").or environment.exemptions).mapM pathOf
  let integrations := (settings.filter (·.name == "integration")).map (·.value)
  return .validate root integrations exemptions

/-- The action of a command, and its settings. -/
def readCommand (environment : Environment) (name : String) (arguments : List String) :
    Except Halt (Action × List Setting) :=
  if name = "validate" then do
    let settings ← commandSettings validateTable arguments
    return (← validateAction environment settings, settings)
  else if name = "rules" then do
    let settings ← commandSettings rulesTable arguments
    return (.listRules (← (valueOf? settings "tier").mapM tierOf), settings)
  else .error .usage

/-- What a command line asks for, unless it ends early. -/
def readRequest (environment : Environment) (arguments : List String) : Except Halt Request := do
  let (settings, rest) ← readSettings mainTable [] none arguments
  match rest with
  | [] => throw .usage
  | name :: rest =>
    let (action, more) ← readCommand environment name rest
    let given (flag : String) : Bool := hasFlag settings flag || hasFlag more flag
    return { action, json := given "json", verbose := given "verbose" }

/-- What a command line asks for; `none` if it makes no sense. -/
def Request.ofArguments? (environment : Environment) (arguments : List String) : Option Request :=
  match readRequest environment arguments with
  | .ok request => some request
  | .error .version => some { action := .showVersion }
  | .error .usage => none

end QualityScale.Command
