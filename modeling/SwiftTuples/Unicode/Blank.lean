import SwiftTuples.Unicode.Ranges
/-!
# Blanks

The ranges of the property `White_Space`.
-/

namespace SwiftTuples.Unicode

/-- Ranges of the property `White_Space`. -/
def blankRanges : Ranges := #[
  (0x9, 0xD), (0x20, 0x20), (0x85, 0x85), (0xA0, 0xA0), (0x1680, 0x1680), (0x2000, 0x200A),
  (0x2028, 0x2029), (0x202F, 0x202F), (0x205F, 0x205F), (0x3000, 0x3000)]

/-- A character that separates words and is not seen: a space, a tab, a line end. -/
def isBlank (c : Char) : Bool :=
  if c.toNat < 128 then c == ' ' || (9 ≤ c.toNat && c.toNat ≤ 13) else blankRanges.contains c.toNat

end SwiftTuples.Unicode
