import SwiftTuples.CommandLine
import SwiftTuples.Selection
import SwiftTuples.Inspection
import SwiftTuples.Report.Text
import SwiftTuples.Report.Json
/-!
# Runs

A run loads its settings, selects files, analyzes each of them on its own and writes the report.
The settings come from the file that the command line names, or from the first root that is a
directory, or from where the run starts. What can be seen of a run is its outcome.
-/

namespace SwiftTuples

/-- What a run has to tell, and the reports of its files unless settings stopped it. -/
structure Run where
  notices : List Notice
  found : Except SettingsError (List FileReport)

/-- What can be seen of a run. -/
structure Outcome where
  exit : ExitCode
  output : Text
  /-- What is written beside the output. -/
  told : Text
deriving DecidableEq, Repr

namespace Run

/-- The row that says what stopped a run. -/
def stoppedRow (e : SettingsError) : Row :=
  [⟨.boldRed, "error:".toList⟩, .bare (" " ++ e.message)]

/-- What a run tells as it is written: its notices, and what stopped it. -/
def told (r : Run) (colour : Bool) : Text :=
  Notice.writeAll colour r.notices ++
    match r.found with
    | .error e => (stoppedRow e).write colour
    | .ok _ => []

end Run

namespace CommandLine

/-- Where a run starts. -/
def hereOnly : Path := ⟨['.']⟩

/-- The roots of a run. -/
def roots (l : CommandLine) : List Path := if l.paths.isEmpty then [hereOnly] else l.paths

/-- The settings from their file or directory. -/
def loadSettings (l : CommandLine) (w : Workspace) : Settings.Step :=
  match l.settingsFile with
  | some path => ({} : Settings).applyFile w path
  | none => ({} : Settings).applyDirectory w ((l.roots.find? w.isDirectory).getD hereOnly)

/-- The files of settings that a run may read beside its roots. -/
def mayRead (l : CommandLine) : List Path :=
  l.settingsFile.toList ++ [hereOnly.join Settings.fileName, hereOnly.join Settings.ignoreName]

/-- The settings of a run: the command line can ask for notices too. -/
def settings (l : CommandLine) (loaded : Settings) : Settings :=
  { loaded with verbose := loaded.verbose || l.verbose }

/-- Runs what the command line asks for. -/
def run (l : CommandLine) (w : Workspace) : Run :=
  let loaded := l.loadSettings w
  match loaded.stopped with
  | some e => ⟨loaded.notices, .error e⟩
  | none =>
    let s := l.settings loaded.settings
    let paths := Selection.select w l.roots s
    let files := paths.map (FileReport.ofFile w s)
    let scanning := if s.verbose then [Notice.scanning paths.length] else []
    ⟨loaded.notices ++ Selection.notices w l.roots s ++ scanning ++
      files.filterMap (FileReport.notice? s), .ok files⟩

/-- The report as it is asked for. -/
def write (l : CommandLine) (w : Workspace) (colour : Bool) (r : Report) : Text :=
  match l.format.getD .text with
  | .text => r.text (some w) colour
  | .json => r.jsonText

/-- The outcome of a run that took so many milliseconds. -/
def conclude (l : CommandLine) (w : Workspace) (colour : Bool) (milliseconds : Nat) (r : Run) :
    Outcome :=
  match r.found with
  | .error _ => ⟨.failed, [], r.told colour⟩
  | .ok files =>
    let report := Report.ofFiles files milliseconds
    ⟨report.exitCode l.strict, l.write w colour report, r.told colour⟩

/-- What can be seen of running the command line, when it takes so many milliseconds. -/
def outcome (l : CommandLine) (w : Workspace) (colour : Bool) (milliseconds : Nat) : Outcome :=
  l.conclude w colour milliseconds (l.run w)

end CommandLine

end SwiftTuples
