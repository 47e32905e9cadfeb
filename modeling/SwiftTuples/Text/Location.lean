import SwiftTuples.Text.Basic
/-!
# Lines and columns

A location names a place of a text by its line and its column, both from 1 on. Columns count
bytes. An offset past the end lies on the last line.
-/

namespace SwiftTuples

/-- A place of a text. -/
structure Location where
  line : Nat
  column : Nat
deriving DecidableEq, Repr

/-- The offsets at which the lines of a text start, the first one aside. -/
structure LineIndex where
  starts : List Nat

namespace LineIndex

/-- The offsets right after the line feeds of a text that starts at `offset`. -/
def startsFrom (offset : Nat) : Text → List Nat
  | [] => []
  | c :: rest =>
    if c = '\n' then (offset + 1) :: startsFrom (offset + 1) rest
    else startsFrom (offset + c.utf8Size) rest

/-- The index of a text. -/
def ofText (source : Text) : LineIndex := ⟨startsFrom 0 source⟩

/-- Walks over the line starts up to `offset`, from a line that starts at `start`. -/
def locate (line start offset : Nat) : List Nat → Location
  | [] => ⟨line, offset - start + 1⟩
  | next :: later =>
    if next ≤ offset then locate (line + 1) next offset later else ⟨line, offset - start + 1⟩

/-- The line and column of an offset. -/
def location (index : LineIndex) (offset : Nat) : Location := locate 1 0 offset index.starts

end LineIndex

end SwiftTuples
