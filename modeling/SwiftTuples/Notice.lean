import SwiftTuples.Path
import SwiftTuples.Text.Styled
/-!
# Notices

What a run tells beside its report.
-/

namespace SwiftTuples

/-- Something worth telling. -/
inductive Notice where
  /-- Settings were read from a file. -/
  | loaded (path : Path)
  /-- So many files are about to be looked at. -/
  | scanning (count : Nat)
  /-- Some of what lies below a root could not be listed. -/
  | unlisted (count : Nat) (root : Path)
  /-- A file could not be analyzed. -/
  | failed (path : Path) (reason : String)
deriving DecidableEq, Repr

namespace Notice

/-- The opening of a notice that only informs. -/
def info : Span := ⟨.cyan, "info:".toList⟩

/-- The opening of a notice that warns. -/
def warn : Span := ⟨.yellow, "warn:".toList⟩

/-- The notice in one row. -/
def row : Notice → Row
  | loaded path => [info, .bare " loaded ", ⟨.plain, path.text⟩]
  | scanning count => [info, .bare (" scanning " ++ toString count ++ " Swift files")]
  | unlisted count root =>
    [warn, .bare (" Encountered " ++ toString count ++ " errors during file walk of "),
      ⟨.plain, root.text⟩]
  | failed path reason => [warn, .bare " ", ⟨.plain, path.text⟩, .bare (": " ++ reason)]

/-- The notices as they are written. -/
def writeAll (colour : Bool) (notices : List Notice) : Text :=
  Row.writeAll colour (notices.map row)

end Notice

end SwiftTuples
