import SwiftTuples.Settings.Load
/-!
# Selection

The Swift files that roots lead to. A root that is a file counts as it is written; below any other
root every file counts that no pruned name leads to. What remains after the patterns is sorted,
and of several spellings of one path the first stays.
-/

namespace SwiftTuples

namespace Selection

/-- Names that are never worth looking into. -/
def prunedNames : List String :=
  [".git", ".build", ".swiftpm", "build", "DerivedData", "Pods", "Carthage", "node_modules",
    "target", "vendor"]

/-- The name is never worth looking into. -/
def isPruned (name : Text) : Bool := prunedNames.any (·.toList == name)

/-- What the names of Swift files match. -/
def sourceNames : Option Pattern := Pattern.ofText? "(?i)\\.swift$"

/-- The path ends in the name of a Swift file. -/
def isSource (p : Path) : Bool :=
  sourceNames.any (·.occursIn (String.ofList (p.fileName?.getD [])))

end Selection

namespace FileTree

mutual

/-- The names that lead to the files of a tree, past no pruned name. -/
def files : FileTree → List (List Text)
  | .file _ => [[]]
  | .directory entries => filesAmong entries

/-- The names that lead to the files of a directory, past no pruned name. -/
def filesAmong : List (Text × FileTree) → List (List Text)
  | [] => []
  | (name, t) :: rest =>
    (if Selection.isPruned name then [] else t.files.map (name :: ·)) ++ filesAmong rest

end

end FileTree

namespace Selection

/-- The files that a root leads to. A root that leads nowhere is one failure. -/
def candidates (w : Workspace) (root : Path) : Except FileError (List Path) :=
  match w.find root with
  | .error cause => .error cause
  | .ok (.file _) => .ok [root]
  | .ok (.directory entries) =>
    .ok ((FileTree.filesAmong entries).map fun names => (root.joinAll names).withoutHere)

/-- Of neighbours with the same steps the first. -/
def dropRepeats : List Path → List Path
  | [] => []
  | p :: rest => p :: (dropRepeats rest).dropWhile (·.same p)

/-- The paths in order, each once. -/
def arrange (paths : List Path) : List Path := dropRepeats (paths.mergeSort Path.comesBy)

/-- The Swift files that the roots lead to and the settings admit. -/
def select (w : Workspace) (roots : List Path) (s : Settings) : List Path :=
  let found := roots.flatMap fun root => ((candidates w root).toOption).getD []
  (arrange (found.filter isSource)).filter fun p => s.admits (String.ofList p.slashed)

/-- What selecting has to tell. -/
def notices (w : Workspace) (roots : List Path) (s : Settings) : List Notice :=
  if s.verbose then
    roots.filterMap fun root =>
      match candidates w root with
      | .error _ => some (.unlisted 1 root)
      | .ok _ => none
  else []

end Selection

end SwiftTuples
