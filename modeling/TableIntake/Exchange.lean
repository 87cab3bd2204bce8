import TableIntake.Column.Schema
import TableIntake.Json
import TableIntake.Upload.Settings

/-! # Exchanged forms

How quotas, column types, metadata and settings are written as JSON and read back.
-/

namespace TableIntake

open Json

namespace LimitUnit

def toJson (unit : LimitUnit) : Json :=
  .text unit.name

def ofJson? : Json → Option LimitUnit :=
  choice? ofName?

end LimitUnit

namespace Quota

def toJson (quota : Quota) : Json :=
  .object [("unit", quota.unit.toJson), ("limit", ofWord64 quota.limit)]

def ofJson? (json : Json) : Option Quota := do
  match ← json.slots? ["unit", "limit"] with
  | [unit, limit] =>
      return { unit := ← unit.orElse? .none LimitUnit.ofJson?, limit := ← limit.orElse? 0 word64? }
  | _ => none

end Quota

namespace Kind

def toJson (kind : Kind) : Json :=
  .text kind.name

def ofJson? : Json → Option Kind :=
  choice? ofName?

end Kind

namespace StoredType

def toJson (stored : StoredType) : Json :=
  .object [("datatype", stored.kind.toJson), ("length", ofOption ofWord32 stored.length)]

/-- A length is kept for any kind. -/
def ofJson? (json : Json) : Option StoredType := do
  match ← json.slots? ["datatype", "length"] with
  | [kind, length] =>
      return { kind := ← kind.required? Kind.ofJson?, length := ← length.optional? word32? }
  | _ => none

end StoredType

namespace Column

def toJson (column : Column) : Json :=
  .object
    [ ("name", .text column.name),
      ("datatype", column.type.toJson),
      ("description", ofOption .text column.description),
      ("unit", ofOption .text column.unit),
      ("ucd", ofOption .text column.ucd),
      ("utype", ofOption .text column.utype),
      ("principal", .boolean column.principal),
      ("indexed", .boolean column.indexed),
      ("std", .boolean column.std) ]

def ofJson? (json : Json) : Option Column := do
  match ← json.slots? ["name", "datatype", "description", "unit", "ucd", "utype", "principal",
      "indexed", "std"] with
  | [name, type, description, unit, ucd, utype, principal, indexed, std] =>
      return {
        name := ← name.required? text?
        type := ← type.required? StoredType.ofJson?
        description := ← description.optional? text?
        unit := ← unit.optional? text?
        ucd := ← ucd.optional? text?
        utype := ← utype.optional? text?
        principal := ← principal.required? boolean?
        indexed := ← indexed.required? boolean?
        std := ← std.required? boolean? }
  | _ => none

end Column

namespace Metadata

def toJson (columns : Metadata) : Json :=
  .object [("columns", .array (columns.map Column.toJson))]

def ofJson? (json : Json) : Option Metadata := do
  match ← json.slots? ["columns"] with
  | [columns] => columns.required? (list? Column.ofJson?)
  | _ => none

end Metadata

namespace LimitSettings

def toJson (settings : LimitSettings) : Json :=
  .object (("unit", settings.unit.toJson) :: optionalMember "limit" ofWord64 settings.limit)

def ofJson? (json : Json) : Option LimitSettings := do
  match ← json.closedSlots? ["unit", "limit"] with
  | [unit, limit] =>
      return {
        unit := ← unit.orElse? .none LimitUnit.ofJson?
        limit := ← limit.orElse? none (nullable? word64?) }
  | _ => none

end LimitSettings

namespace Settings

def toJson (settings : Settings) : Json :=
  .object
    ([ ("enabled", .boolean settings.enabled),
       ("format", .text settings.format),
       ("limit", settings.limit.toJson) ] ++
      optionalMember "wait_timeout_ms" ofWord64 settings.waitTimeout)

def ofJson? (json : Json) : Option Settings := do
  match ← json.closedSlots? ["enabled", "format", "limit", "wait_timeout_ms"] with
  | [enabled, format, limit, waitTimeout] =>
      return {
        enabled := ← enabled.orElse? true boolean?
        format := ← format.orElse? TableParser.documentFormat text?
        limit := ← limit.orElse? {} LimitSettings.ofJson?
        waitTimeout := ← waitTimeout.orElse? none (nullable? word64?) }
  | _ => none

end Settings

end TableIntake
