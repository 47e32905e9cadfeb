import SwiftTuples.Rule
import SwiftTuples.Path
import SwiftTuples.Text.Location
/-!
# Reports

What was found in each file, and the counts and the exit code that follow from it.
-/

namespace SwiftTuples

/-- A violation and the place where it is. -/
structure Finding where
  location : Location
  violation : Violation
deriving DecidableEq, Repr

/-- What was found in a file. -/
structure FileReport where
  path : Path
  tupleCount : Nat := 0
  findings : List Finding := []
  /-- Why the file could not be analyzed. -/
  failure : Option String := none
deriving DecidableEq, Repr

/-- What was found in all files. -/
structure Report where
  files : List FileReport
  totalViolations : Nat
  milliseconds : Nat
deriving DecidableEq, Repr

/-- How a run ends. -/
inductive ExitCode where
  | success
  | violationsFound
  | failed
deriving DecidableEq, Repr

/-- The number of an exit code. -/
def ExitCode.number : ExitCode → Nat
  | success => 0
  | violationsFound => 1
  | failed => 2

namespace FileReport

/-- Nothing was found. -/
def isClean (r : FileReport) : Bool := r.findings.isEmpty

/-- Findings of a severity. -/
def count (r : FileReport) (severity : Severity) : Nat :=
  r.findings.countP (·.violation.severity = severity)

end FileReport

namespace Report

/-- The report of files, after so many milliseconds. -/
def ofFiles (files : List FileReport) (milliseconds : Nat) : Report :=
  ⟨files, (files.flatMap (·.findings)).length, milliseconds⟩

/-- Findings of a severity. -/
def count (r : Report) (severity : Severity) : Nat :=
  (r.files.flatMap (·.findings)).countP (·.violation.severity = severity)

/-- Something grave was found. -/
def hasErrors (r : Report) : Bool := 0 < r.count .error

/-- Files in which nothing was found. -/
def cleanFiles (r : Report) : Nat := r.files.countP (·.isClean)

/-- Files that could not be analyzed. -/
def failures (r : Report) : Nat := r.files.countP (·.failure.isSome)

/-- The exit code: errors fail a run, and warnings fail a strict one. -/
def exitCode (r : Report) (strict : Bool) : ExitCode :=
  if r.hasErrors || (strict && 0 < r.count .warning) then .violationsFound else .success

end Report

end SwiftTuples
