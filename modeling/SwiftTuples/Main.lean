import SwiftTuples.Run
/-!
# The program

Takes a picture of the part of the disk that a run can see, runs, and writes what the run has to
say. Links below a root are left out of the picture.
-/

namespace SwiftTuples

/-- Adds what lies at an entry of the disk to a tree. -/
partial def addEntry (t : FileTree) (place : List Text) (entry : IO.FS.DirEntry) :
    IO FileTree := do
  let path := entry.path
  if ← path.isDir then
    let mut t := t.insert place (.directory [])
    for inner in ← path.readDir do
      let name := inner.fileName.toList
      let kind := (← inner.path.symlinkMetadata).type
      if kind != .symlink && !Selection.isPruned name then
        t ← addEntry t (place ++ [name]) inner
    return t
  else if ← path.pathExists then
    return t.insert place (.file (← IO.FS.readBinFile path))
  else
    return t

/-- Adds what a path leads to, and the directories on the way. -/
def addPath (w : Workspace) (p : Path) : IO Workspace := do
  let mut w := w
  let pieces := p.pieces
  for count in List.range pieces.length do
    let head : Path := ⟨['/'].intercalate (pieces.take count)⟩
    let entry : IO.FS.DirEntry := ⟨".", String.ofList head.text⟩
    if ← entry.path.isDir then
      w := { w with tree := w.tree.insert (w.place head) (.directory []) }
  let entry : IO.FS.DirEntry := ⟨".", String.ofList p.text⟩
  return { w with tree := ← addEntry w.tree (w.place p) entry }

/-- A picture of the disk that holds all a run can ask for. -/
def picture (l : CommandLine) : IO Workspace := do
  let here := ((← IO.currentDir).components.filter (!·.isEmpty)).map (·.toList)
  let start : Workspace := ⟨(FileTree.directory []).insert here (.directory []), here⟩
  (l.roots ++ l.mayRead).foldlM addPath start

/-- Output is coloured as the environment says, and else on a terminal. -/
def wantsColour : IO Bool := do
  let isOn (value : Option String) : Bool := value.any (· != "0")
  if isOn (← IO.getEnv "CLICOLOR_FORCE") then return true
  if (← IO.getEnv "NO_COLOR").isSome then return false
  let asked ← IO.getEnv "CLICOLOR"
  return (asked.isNone || isOn asked) && (← (← IO.getStdout).isTty)

/-- Says how the program is called. -/
def usage : String :=
  "usage: swifttuples [PATH]... [--format text|json] [--config FILE] [--strict] [-v|--verbose]"

/-- Why the arguments make no run. -/
def UsageError.message : UsageError → String
  | unknownArgument => "an argument is unknown"
  | invalidValue => "an option has no value, or one that is no good"
  | tooManyValues => "a switch takes no value"
  | conflict => "an option or a switch is given twice"
  | helpAsked => usage
  | versionAsked => "swifttuples 0.1.0"

/-- Ends with what is wrong with the arguments, or with the answer that they ask for. -/
def endUsage : UsageError → IO ExitCode
  | .helpAsked => do
    IO.println usage
    return .success
  | .versionAsked => do
    IO.println UsageError.versionAsked.message
    return .success
  | e => do
    IO.eprintln ("error: " ++ e.message)
    IO.eprintln usage
    return .failed

/-- Does what the command line asks for. -/
def perform (l : CommandLine) : IO ExitCode := do
  let start ← IO.monoMsNow
  let w ← picture l
  let colour ← wantsColour
  let run := l.run w
  IO.eprint (String.ofList (run.told colour))
  let milliseconds := (← IO.monoMsNow) - start
  let outcome := l.conclude w colour milliseconds run
  IO.print (String.ofList outcome.output)
  return outcome.exit

end SwiftTuples

/-- Flags large tuple types in Swift files. -/
def main (arguments : List String) : IO UInt32 := do
  let code ← match SwiftTuples.CommandLine.parse (arguments.map (·.toList)) with
    | .error e => SwiftTuples.endUsage e
    | .ok l => SwiftTuples.perform l
  return code.number.toUInt32
