import QualityScale.Declaration.Status
import QualityScale.Json.Decode
import QualityScale.Json.Printer
import QualityScale.Report

/-!
# JSON forms

How the values of the library are written as JSON, and how they are read back.  Each type has a
function `toJson` and a function `ofJson?` that undoes it.
-/

namespace QualityScale

open Json (Node Value)

/-! ## Constants -/

/-- A tier as JSON. -/
def Tier.toJson (t : Tier) : Value :=
  .string t.name

/-- The tier that a JSON tree stands for. -/
def Tier.ofJson? (n : Node) : Option Tier :=
  n.constant?.bind Tier.ofName?

/-- A status as JSON. -/
def Status.toJson (s : Status) : Value :=
  .string s.name

/-- The status that a JSON tree stands for. -/
def Status.ofJson? (n : Node) : Option Status :=
  n.constant?.bind Status.ofName?

/-- A kind of integration as JSON. -/
def IntegrationKind.toJson (k : IntegrationKind) : Value :=
  .string k.name

/-- The kind of integration that a JSON tree stands for. -/
def IntegrationKind.ofJson? (n : Node) : Option IntegrationKind :=
  n.constant?.map IntegrationKind.ofName

/-- A reason as JSON. -/
def ForbiddenReason.toJson (r : ForbiddenReason) : Value :=
  .string r.name

/-- The reason that a JSON tree stands for. -/
def ForbiddenReason.ofJson? (n : Node) : Option ForbiddenReason :=
  n.constant?.bind fun name =>
    if name = "virtual" then some .virtual else if name = "domain" then some .domain else none

/-- What is asked of an integration, as JSON. -/
def Presence.toJson : Presence → Value
  | notApplicable => .string "not_applicable"
  | forbidden reason => .object [("forbidden", reason.toJson)]
  | grandfathered => .string "grandfathered"
  | required => .string "required"

/-- What a JSON tree says is asked of an integration. -/
def Presence.ofJson? (n : Node) : Option Presence :=
  match n.variant? with
  | some ("forbidden", some reason) => (ForbiddenReason.ofJson? reason).map forbidden
  | _ =>
    match n.constant? with
    | some "not_applicable" => some notApplicable
    | some "grandfathered" => some grandfathered
    | some "required" => some required
    | _ => none

/-! ## Entries of rules -/

/-- An entry of a rule as JSON; without a comment there is no field for it. -/
def RuleEntry.toJson : RuleEntry → Value
  | bare s => s.toJson
  | detailed s none => .object [("status", s.toJson)]
  | detailed s (some comment) => .object [("status", s.toJson), ("comment", .string comment)]

mutual

/-- A JSON tree as a document of the other format, which keeps every field. -/
def Json.Node.document? (depth : Nat) : Node → Option Yaml.Value
  | .null => some .null
  | .bool b => some (.bool b)
  | .number n => n.number?.map .number
  | .string pieces => (Json.pieceText? pieces).map .string
  | .array items =>
    match depth with
    | 0 => none
    | depth + 1 => (itemDocuments? depth items).map .sequence
  | .object fields =>
    match depth with
    | 0 => none
    | depth + 1 => (fieldDocuments? depth fields).map .mapping

/-- The items of an array as documents. -/
def itemDocuments? (depth : Nat) : List Node → Option (List Yaml.Value)
  | [] => some []
  | n :: ns => do
    let v ← n.document? depth
    let vs ← itemDocuments? depth ns
    return v :: vs

/-- The fields of an object as documents. -/
def fieldDocuments? (depth : Nat) :
    List (List Json.Piece × Node) → Option (List (Yaml.Value × Yaml.Value))
  | [] => some []
  | (key, n) :: fields => do
    let k ← Json.pieceText? key
    let v ← n.document? depth
    let kvs ← fieldDocuments? depth fields
    return (.string k, v) :: kvs

end

/-- The entry of a rule that a JSON tree stands for. -/
def RuleEntry.ofJson? (n : Node) : Option RuleEntry :=
  (n.document? Json.nestingLimit).bind RuleEntry.ofValue?

/-! ## Records -/

/-- A tier that falls short, as JSON. -/
def Shortfall.toJson (s : Shortfall) : Value :=
  .object [("tier", s.tier.toJson), ("missing", .array (s.missing.map .string))]

/-- The tier that falls short, from a JSON tree. -/
def Shortfall.ofJson? (n : Node) : Option Shortfall := do
  let (_, some tier, some missing) ← n.pair? "tier" "missing" | none
  return ⟨← Tier.ofJson? tier, ← missing.list? Node.text?⟩

/-- A finding as JSON. -/
def Finding.toJson (f : Finding) : Value :=
  .object [("category", .string f.category), ("message", .string f.message)]

/-- The finding that a JSON tree stands for. -/
def Finding.ofJson? (n : Node) : Option Finding := do
  let (_, some category, some message) ← n.pair? "category" "message" | none
  return ⟨← category.text?, ← message.text?⟩

/-- The findings about an integration as JSON. -/
def IntegrationReport.toJson (r : IntegrationReport) : Value :=
  .object [("domain", .string r.domain), ("errors", .array (r.findings.map (·.toJson)))]

/-- The findings about an integration, from a JSON tree. -/
def IntegrationReport.ofJson? (n : Node) : Option IntegrationReport := do
  let (_, some domain, some findings) ← n.pair? "domain" "errors" | none
  return ⟨← domain.text?, ← findings.list? Finding.ofJson?⟩

/-- A report as JSON. -/
def Report.toJson (r : Report) : Value :=
  .object [("checked", .ofNat r.checked), ("integrations", .array (r.integrations.map (·.toJson)))]

/-- The report that a JSON tree stands for. -/
def Report.ofJson? (n : Node) : Option Report := do
  let (_, some checked, some integrations) ← n.pair? "checked" "integrations" | none
  return ⟨← checked.count?, ← integrations.list? IntegrationReport.ofJson?⟩

/-- A set of names as JSON. -/
def NameSet.toJson (s : NameSet) : Value :=
  .array (s.toList.map .string)

/-- The set of names that a JSON tree stands for. -/
def NameSet.ofJson? (n : Node) : Option NameSet :=
  (n.list? Node.text?).map .ofList

/-- Exemptions as JSON. -/
def Exemptions.toJson (e : Exemptions) : Value :=
  .object [("no_quality_scale", e.forbidden.toJson), ("without_file", e.grandfathered.toJson)]

/-- A list of exemptions, which may be missing. -/
def Exemptions.part? : Option Node → Option NameSet
  | none => some .empty
  | some n => NameSet.ofJson? n

/-- The exemptions that a JSON tree stands for. -/
def Exemptions.ofJson? (n : Node) : Option Exemptions := do
  let (_, forbidden, grandfathered) ← n.pair? "no_quality_scale" "without_file"
  return ⟨← part? forbidden, ← part? grandfathered⟩

/-- A configuration as JSON. -/
def Config.toJson (c : Config) : Value :=
  .object [("root", .string c.root.text),
    ("specific_integrations",
      match c.specific with
      | none => .null
      | some wanted => .array (wanted.map .string))]

/-- The restriction of a run; an object may lack it, an array may not. -/
def Config.specific? (positional : Bool) : Option Node → Option (Option (List String))
  | none => if positional then none else some none
  | some n => n.optional? (Node.list? Node.text?)

/-- The configuration that a JSON tree stands for. -/
def Config.ofJson? (n : Node) : Option Config := do
  let (positional, some root, specific) ← n.pair? "root" "specific_integrations" | none
  return ⟨⟨← root.text?⟩, ← specific? positional specific⟩

/-! ## Events -/

/-- The value of a field of an event as JSON. -/
def FieldValue.toJson : FieldValue → Value
  | text s => .string s
  | count n => .ofNat n
  | flag b => .bool b

/-- An event with its span as JSON. -/
def TraceEntry.toJson (e : TraceEntry) : Value :=
  .object [("level", .string e.event.level.name),
    ("span",
      match e.span with
      | none => .null
      | some domain => .string domain),
    ("fields", .object (e.event.fields.map fun f => (f.1, f.2.toJson)))]

end QualityScale
