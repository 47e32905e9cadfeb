import SwiftTuples.Settings.Decode
import SwiftTuples.FileTree
import SwiftTuples.Notice
/-!
# Loading settings

Settings grow step by step: from a settings text, from lines that name what to leave out, or from
the files of a directory that hold these. A step that is stopped keeps what it had done before; a
text that cannot be decoded does nothing.
-/

namespace SwiftTuples

/-- What stops a step. -/
inductive SettingsError where
  | unreadable (path : Path) (cause : FileError)
  | undecodable (cause : DecodeError)
  | badPattern (text : String)

/-- A failure to read a file in words. -/
def FileError.about (e : FileError) (path : Path) : String :=
  "I/O error: " ++ e.message ++ " (path: " ++ String.ofList path.text ++ ")"

/-- The cause in words. -/
def SettingsError.message : SettingsError → String
  | unreadable path cause => cause.about path
  | undecodable cause => "Invalid config: " ++ cause.message?.getD "no settings text"
  | badPattern text => "Regex error: no pattern: " ++ text

/-- Settings after a step, what stopped it, and what it has to tell. -/
structure Settings.Step where
  settings : Settings
  stopped : Option SettingsError := none
  notices : List Notice := []

namespace Settings

/-- The patterns of the texts up to the first that is none. -/
def patterns : List String → List Pattern × Option SettingsError
  | [] => ([], none)
  | text :: rest =>
    match Pattern.ofText? text with
    | none => ([], some (.badPattern text))
    | some p => ((p :: (patterns rest).1), (patterns rest).2)

/-- Adds what paths have to match. -/
def addIncludes (s : Settings) (texts : List String) : Step :=
  let (found, stopped) := patterns texts
  { settings := { s with includes := s.includes ++ found }, stopped }

/-- Adds what paths must not match. -/
def addExcludes (s : Settings) (texts : List String) : Step :=
  let (found, stopped) := patterns texts
  { settings := { s with excludes := s.excludes ++ found }, stopped }

/-- Goes on with another step, unless this one was stopped. -/
def Step.andThen (a : Step) (next : Settings → Step) : Step :=
  match a.stopped with
  | some _ => a
  | none =>
    let b := next a.settings
    { b with notices := a.notices ++ b.notices }

/-- Takes over what a settings text says. -/
def applyText (s : Settings) (source : Text) : Step :=
  match Decode.text source with
  | .error cause => { settings := s, stopped := some (.undecodable cause) }
  | .ok found =>
    let s := { s with tuples := found.tuples, verbose := s.verbose || found.scan.verbose }
    (s.addIncludes found.scan.includes).andThen (·.addExcludes found.scan.excludes)

/-- The pattern that a line says to leave out. Blank lines and comments say none. -/
def ignoredPattern? (line : Text) : Option String :=
  match line.trim with
  | [] => none
  | '#' :: _ => none
  | rest => some (String.ofList rest)

/-- Leaves out what the lines say. -/
def ignore (s : Settings) (lines : List Text) : Step :=
  s.addExcludes (lines.filterMap ignoredPattern?)

/-- The name of the file that holds settings. -/
def fileName : Text := "tuplelint.toml".toList

/-- The name of the file that says what to leave out. -/
def ignoreName : Text := ".tuplelintignore".toList

/-- Takes over what a file of settings says, and tells so when asked to. -/
def applyFile (s : Settings) (w : Workspace) (path : Path) : Step :=
  match w.read path with
  | .error cause => { settings := s, stopped := some (.unreadable path cause) }
  | .ok source => (s.applyText source).andThen fun s =>
      { settings := s, notices := if s.verbose then [.loaded path] else [] }

/-- Leaves out what a file says, line by line. -/
def ignoreFile (s : Settings) (w : Workspace) (path : Path) : Step :=
  match w.read path with
  | .error cause => { settings := s, stopped := some (.unreadable path cause) }
  | .ok source => s.ignore source.lines

/-- Takes a step for a file, if there is one. -/
def ifFile (w : Workspace) (path : Path) (step : Settings → Step) (s : Settings) : Step :=
  if w.isFile path then step s else { settings := s }

/-- Takes over what the files of a directory say, the one of what to leave out first. -/
def applyDirectory (s : Settings) (w : Workspace) (directory : Path) : Step :=
  let ignored := directory.join ignoreName
  let file := directory.join fileName
  (ifFile w ignored (·.ignoreFile w ignored) s).andThen
    (ifFile w file (·.applyFile w file))

end Settings

end SwiftTuples
