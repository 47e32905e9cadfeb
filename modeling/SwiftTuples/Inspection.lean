import SwiftTuples.Report
import SwiftTuples.Syntax.Source
import SwiftTuples.Settings.Load
/-!
# Inspection

The report of a file from its text. A text with the directive in its first lines is left alone,
and one that cannot be read has a report that says why.
-/

namespace SwiftTuples

/-- A text with this in one of its first lines is left alone. -/
def ignoreDirective : Text := "tuplelint:ignore".toList

/-- The number of lines in which the directive counts. -/
def directiveLines : Nat := 5

/-- The text asks to be left alone. -/
def Text.isIgnored (source : Text) : Bool :=
  (source.lines.take directiveLines).any (·.holds ignoreDirective)

/-- The findings that violations are in a text. -/
def Finding.ofViolations (source : Text) (violations : List Violation) : List Finding :=
  let index := LineIndex.ofText source
  violations.map fun v => ⟨index.location v.position, v⟩

namespace FileReport

/-- The report of a text. -/
def ofSource (s : Settings) (path : Path) (source : Text) : FileReport :=
  if source.isIgnored then { path }
  else
    match SourceFile.parse source with
    | .error e => { path, failure := some e.message }
    | .ok file =>
      { path
        tupleCount := file.observations.length
        findings := Finding.ofViolations source (s.tuples.rule.validate file) }

/-- The report of a file. -/
def ofFile (w : Workspace) (s : Settings) (path : Path) : FileReport :=
  match w.read path with
  | .ok source => ofSource s path source
  | .error e => { path, failure := some (e.about path) }

@[simp] theorem path_ofSource (s : Settings) (p : Path) (source : Text) :
    (ofSource s p source).path = p := by
  unfold ofSource
  split
  · rfl
  · split <;> rfl

@[simp] theorem path_ofFile (w : Workspace) (s : Settings) (p : Path) :
    (ofFile w s p).path = p := by
  unfold ofFile
  split
  · exact path_ofSource s p _
  · rfl

/-- What the report has to tell at once. -/
def notice? (s : Settings) (r : FileReport) : Option Notice :=
  if s.verbose then r.failure.map (Notice.failed r.path) else none

end FileReport

end SwiftTuples
