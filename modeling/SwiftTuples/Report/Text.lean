import SwiftTuples.Report
import SwiftTuples.FileTree
import SwiftTuples.Text.Styled
/-!
# Reports as text

A block of rows per file and a summary. A finding has a header, its place and, where the file can
be read, the line it is on with a caret below. What to do is said once, after the first finding.
-/

namespace SwiftTuples

/-- A duration in the largest unit that it fills, without zeros at the end. -/
def durationText (milliseconds : Nat) : String :=
  let seconds := milliseconds / 1000
  let rest := milliseconds % 1000
  if milliseconds = 0 then "0ns"
  else if seconds = 0 then toString rest ++ "ms"
  else if rest = 0 then toString seconds ++ "s"
  else
    let digits := (toString (1000 + rest)).toList.drop 1
    let shown := (digits.reverse.dropWhile (· == '0')).reverse
    toString seconds ++ "." ++ String.ofList shown ++ "s"

/-- The milliseconds that a summary shows: what 64 bits hold. -/
def shownMilliseconds (milliseconds : Nat) : Nat := milliseconds % UInt64.size

/-- A number and what is counted. -/
def counted (count : Nat) (noun : String) : String :=
  toString count ++ " " ++ noun ++ if count = 1 then "" else "s"

/-- The number in the gutter, at least three wide. -/
def gutterText (line : Nat) : Text :=
  let digits := (toString line).toList
  List.replicate (3 - digits.length) ' ' ++ digits

namespace Finding

/-- The style of a header. -/
def style (f : Finding) : Style :=
  match f.violation.severity with
  | .error => .boldRed
  | .warning => .yellow

/-- The header and the place. -/
def headerRows (path : Path) (f : Finding) : List Row :=
  let place := ":" ++ toString f.location.line ++ ":" ++ toString f.location.column ++
    " (" ++ ruleName ++ ")"
  [[⟨f.style, (f.violation.severity.text ++ ": " ++ f.violation.message).toList⟩],
    [.bare "  ", ⟨.blue, "-->".toList⟩, .bare " ", ⟨.plain, path.text⟩, .bare place]]

/-- The row in which the caret stands below a column. -/
def caretRow (column : Nat) : Row :=
  [.bare "   ", ⟨.blue, ['|']⟩, .bare " ", ⟨.plain, List.replicate (column - 1) ' '⟩,
    ⟨.boldRed, ['^']⟩]

/-- The row of a numbered line. -/
def lineRow (number : Nat) (line : Text) : Row :=
  [.bare "   ", ⟨.blue, gutterText number ++ " |".toList⟩, .bare " ", ⟨.plain, line⟩]

/-- The line that the finding is on, with a caret below, if the text has that line. -/
def snippetRows (source : Text) (f : Finding) : List Row :=
  match source.lines[f.location.line - 1]? with
  | none => []
  | some line =>
    [[.bare "   ", ⟨.blue, ['|']⟩], lineRow f.location.line line, caretRow f.location.column]

end Finding

/-- Why large tuples matter and what to do. -/
def guidanceRows : List Row :=
  let row (spans : List Span) : Row := [.bare "   ", ⟨.blue, ['=']⟩, .bare " "] ++ spans
  [row [⟨.cyan, "WHY:".toList⟩, .bare (" Large tuples hide what each position means; " ++
      "callers end up matching on .0, .1, .2.")],
    row [⟨.green, "FIX:".toList⟩, .bare (" Introduce a struct with named fields, " ++
      "or label every tuple member.")],
    row [⟨.faint, ("SUPPRESS: add `// tuplelint:ignore` " ++
      "to the first lines of the file").toList⟩]]

namespace FileReport

/-- The row that says why a file was skipped. -/
def skippedRows (r : FileReport) : List Row :=
  match r.failure with
  | none => []
  | some reason =>
    [[⟨.faint, "skipped:".toList⟩, .bare " ", ⟨.plain, r.path.text⟩,
      .bare (": could not be analyzed: " ++ reason)]]

/-- The rows of a finding, in a file of which the text may be known. -/
def findingRows (path : Path) (source : Option Text) (guided : Bool) (f : Finding) : List Row :=
  f.headerRows path ++ (source.map f.snippetRows).getD [] ++
    (if guided then guidanceRows else []) ++ [[]]

/-- The rows of findings, the first of which may come with guidance. -/
def findingsRows (path : Path) (source : Option Text) (guided : Bool) : List Finding → List Row
  | [] => []
  | f :: rest => findingRows path source guided f ++ rest.flatMap (findingRows path source false)

/-- The rows of a file. -/
def rows (r : FileReport) (source : Option Text) (guided : Bool) : List Row :=
  r.skippedRows ++ findingsRows r.path source guided r.findings

end FileReport

namespace Report

/-- The rows of files, guidance coming with the very first finding. -/
def fileRows (sourceOf : Path → Option Text) : Bool → List FileReport → List Row
  | _, [] => []
  | guided, r :: rest =>
    r.rows (sourceOf r.path) guided ++ fileRows sourceOf (guided && r.isClean) rest

/-- What was found, in numbers other than zero. -/
def totals (r : Report) : List String :=
  let part (severity : Severity) : List String :=
    if r.count severity = 0 then [] else [counted (r.count severity) severity.text]
  part .error ++ part .warning

/-- The rows at the end. -/
def summaryRows (r : Report) : List Row :=
  let time := " (" ++ durationText (shownMilliseconds r.milliseconds) ++ ")."
  let all := counted r.files.length "file"
  let note : List Row :=
    if r.failures = 0 then []
    else [[⟨.boldYellow, "NOTE".toList⟩,
      .bare (" " ++ counted r.failures "file" ++ " could not be analyzed.")]]
  let verdict : Row :=
    if r.totals.isEmpty then
      [⟨.boldGreen, "OK".toList⟩, .bare (" No large tuples in " ++ all ++ time)]
    else
      [⟨.boldRed, "FOUND".toList⟩,
        .bare (" " ++ ", ".intercalate r.totals ++ " in " ++
          toString (r.files.length - r.cleanFiles) ++ " of " ++ all ++ time)]
  note ++ [verdict]

/-- All rows of a report. -/
def rows (r : Report) (sourceOf : Path → Option Text) : List Row :=
  fileRows sourceOf true r.files ++ r.summaryRows

/-- The report as text. With snippets, files are looked up in a workspace. -/
def text (r : Report) (snippetsFrom : Option Workspace) (colour : Bool) : Text :=
  let sourceOf (p : Path) : Option Text := snippetsFrom.bind fun w => (w.read p).toOption
  Row.writeAll colour (r.rows sourceOf)

end Report

end SwiftTuples
