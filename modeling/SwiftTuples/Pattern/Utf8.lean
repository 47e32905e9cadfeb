import SwiftTuples.Pattern.CharSet
/-!
# Bytes of characters

In UTF-8 a range of characters falls into few sequences of ranges of bytes: a character belongs to
the range if its bytes lie in the ranges of one of them. The sequences come in increasing order and
do not overlap.
-/

namespace SwiftTuples.Pattern.Utf8

/-- The bytes of a character. -/
def bytes (c : Char) : List Nat := (String.utf8EncodeChar c).map (·.toNat)

/-- The sequences for the numbers from `first` to `last`, written in `digits + 1` digits of base 64
of which the first may be larger. -/
def digitRanges : Nat → Nat → Nat → List (List (Nat × Nat))
  | 0, first, last => [[(first, last)]]
  | digits + 1, first, last =>
    let unit := 64 ^ (digits + 1)
    let (a, b) := (first / unit, last / unit)
    if a = b then
      (digitRanges digits (first % unit) (last % unit)).map ((a, a) :: ·)
    else
      let below := if first % unit = 0 then []
        else (digitRanges digits (first % unit) (unit - 1)).map ((a, a) :: ·)
      let above := if last % unit = unit - 1 then []
        else (digitRanges digits 0 (last % unit)).map ((b, b) :: ·)
      let (low, high) := (if below.isEmpty then a else a + 1, if above.isEmpty then b else b - 1)
      let between := if high < low then []
        else [(low, high) :: List.replicate (digits + 1) (0, 63)]
      below ++ between ++ above

/-- Ranges of code points with the number of digits after the first and what is added to the first.
Surrogates lie in none of them. -/
def lengths : List (Nat × Nat × Nat × Nat) := [
  (0x0, 0x7F, 0, 0), (0x80, 0x7FF, 1, 0xC0), (0x800, 0xD7FF, 2, 0xE0), (0xE000, 0xFFFF, 2, 0xE0),
  (0x10000, 0x10FFFF, 3, 0xF0)]

/-- A sequence of ranges of digits as ranges of bytes. -/
def markDigits (lead : Nat) : List (Nat × Nat) → List (Nat × Nat)
  | [] => []
  | (a, b) :: rest => (a + lead, b + lead) :: rest.map fun (a, b) => (a + 0x80, b + 0x80)

/-- The sequences of a range of characters. -/
def ofRange (first last : Nat) : List (List (Nat × Nat)) :=
  lengths.flatMap fun (low, high, digits, lead) =>
    let (first, last) := (max first low, min last high)
    if last < first then [] else (digitRanges digits first last).map (markDigits lead)

/-- The sequences of a set of characters. -/
def ofSet (set : CharSet) : List (List (Nat × Nat)) :=
  set.ranges.flatMap fun (first, last) => ofRange first last

end SwiftTuples.Pattern.Utf8
