/-!
# Ranges of code points

A property of characters is given by the ranges of code points that have it, in increasing order.
Membership is a binary search.
-/

namespace SwiftTuples.Unicode

/-- Inclusive ranges of code points, in increasing order and apart from each other. -/
abbrev Ranges := Array (Nat × Nat)

/-- Looks for `n` in the ranges from index `low` up to `high`. -/
def Ranges.search (ranges : Ranges) (n low high : Nat) : Bool :=
  if _h : low < high then
    let middle := (low + high) / 2
    match ranges[middle]? with
    | none => false
    | some (first, last) =>
      if n < first then ranges.search n low middle
      else if last < n then ranges.search n (middle + 1) high
      else true
  else false
termination_by high - low

/-- The code point lies in one of the ranges. -/
def Ranges.contains (ranges : Ranges) (n : Nat) : Bool :=
  ranges.search n 0 ranges.size

end SwiftTuples.Unicode
