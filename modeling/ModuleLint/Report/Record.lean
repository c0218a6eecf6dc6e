import ModuleLint.Json.Printer
import ModuleLint.Report

/-!
# Reports for programs

A report as a JSON text, and as one record a line with the fields severity, rule, file, line and
message.
-/

namespace ModuleLint.Report

/-- A value that may be missing. -/
def optionalValue {α : Type} (value : α → Json.Value) : Option α → Json.Value
  | some a => value a
  | none => .null

/-- A finding as a JSON value. -/
def findingValue (f : Finding) : Json.Value :=
  .object [("file", .string f.file), ("line", optionalValue .int f.line),
    ("rule", .string f.rule), ("message", .string f.message), ("severity", .string f.severity),
    ("snippet", optionalValue .string f.snippet)]

/-- A report as a JSON value. -/
def toJson (r : Report) : Json.Value :=
  .object [("valid", .bool r.isValid), ("errors", .array (r.errors.map findingValue)),
    ("warnings", .array (r.warnings.map findingValue)), ("checked_files", .int r.checkedFiles),
    ("modules", .array (r.modules.map .string))]

/-- The report as a JSON text. -/
def asJson (r : Report) : String :=
  Json.print r.toJson

/-- A finding as a record. A missing line leaves its field empty. -/
def record (f : Finding) : String :=
  ":".intercalate
    [f.severity, f.rule, f.file, (f.line.map fun n => toString n).getD "", f.message]

/-- The report as records, one a line. -/
def asRecords (r : Report) : String :=
  "\n".intercalate (r.findings.map record)

end ModuleLint.Report
