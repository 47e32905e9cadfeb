import SwiftTuples.Report
import SwiftTuples.Json
/-!
# Reports as JSON

Members stand in the order of the fields. A file that was analyzed has no member for a failure.
-/

namespace SwiftTuples

/-- A finding, the fields of its violation beside its place. -/
def Finding.json (f : Finding) : Json := .object [
  ("line", .number f.location.line),
  ("column", .number f.location.column),
  ("position", .number f.violation.position),
  ("severity", .string f.violation.severity.text.toList),
  ("message", .string f.violation.message.toList),
  ("rule", .string ruleName.toList)]

/-- The report of a file. -/
def FileReport.json (r : FileReport) : Json := .object ([
  ("path", .string r.path.text),
  ("tuple_count", .number r.tupleCount),
  ("findings", .list (r.findings.map Finding.json))] ++
  (r.failure.map fun reason => ("parse_error", .string reason.toList)).toList)

namespace Report

/-- The report of all files. -/
def json (r : Report) : Json := .object [
  ("files", .list (r.files.map FileReport.json)),
  ("total_violations", .number r.totalViolations),
  ("duration_ms", .number r.milliseconds)]

/-- The report as an indented text that ends its last line. -/
def jsonText (r : Report) : Text := r.json.text ++ ['\n']

end Report

end SwiftTuples
