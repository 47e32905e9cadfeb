/-!
# Sets of characters

What a class of a pattern stands for. A set is kept as the ranges of code points that belong to it,
in increasing order with a gap between any two, so that equal sets are equal lists.
-/

namespace SwiftTuples.Pattern

/-- A set of characters: inclusive ranges of code points, in increasing order and with gaps. -/
structure CharSet where
  ranges : List (Nat × Nat)
deriving DecidableEq

namespace CharSet

/-- No character at all. -/
def empty : CharSet := ⟨[]⟩

/-- The characters between two code points. -/
def range (first last : Nat) : CharSet := ⟨[(first, last)]⟩

/-- The set of one code point. -/
def single (n : Nat) : CharSet := range n n

/-- The set of one character. -/
def ofChar (c : Char) : CharSet := single c.toNat

/-- The code point belongs to the set. -/
def contains (a : CharSet) (n : Nat) : Bool :=
  a.ranges.any fun (first, last) => first ≤ n && n ≤ last

/-- Joins ranges that overlap or touch, the ranges being in order of where they start. -/
def joinRanges (first last : Nat) : List (Nat × Nat) → List (Nat × Nat)
  | [] => [(first, last)]
  | (a, b) :: rest =>
    if a ≤ last + 1 then joinRanges first (max last b) rest
    else (first, last) :: joinRanges a b rest

/-- A range among others: before the first one that starts no earlier, and `later` from there on. -/
def place (r : Nat × Nat) (later : List (Nat × Nat) → List (Nat × Nat)) :
    List (Nat × Nat) → List (Nat × Nat)
  | [] => r :: later []
  | s :: rest => if r.1 ≤ s.1 then r :: later (s :: rest) else s :: place r later rest

/-- The ranges of two lists in order of where they start, if those of each list are. -/
def merge : List (Nat × Nat) → List (Nat × Nat) → List (Nat × Nat)
  | [], others => others
  | r :: rest, others => place r (merge rest) others

/-- Ranges in order of where they start. -/
def sort (ranges : List (Nat × Nat)) : List (Nat × Nat) := ranges.foldr (place · id) []

/-- The set of all that lies in ranges which are in order of where they start. -/
def ofSorted : List (Nat × Nat) → CharSet
  | [] => empty
  | (first, last) :: rest => ⟨joinRanges first last rest⟩

/-- The characters of either set. -/
def union (a b : CharSet) : CharSet := ofSorted (merge a.ranges b.ranges)

/-- The characters of any of the sets. -/
def unions (sets : List CharSet) : CharSet := sets.foldl union empty

/-- The set of all that lies in ranges in any order. -/
def ofRanges (ranges : List (Nat × Nat)) : CharSet := ofSorted (sort ranges)

/-- The set of code points in any order. -/
def ofList (codePoints : List Nat) : CharSet := ofRanges (codePoints.map fun n => (n, n))

/-- Code points that no character has. -/
def surrogates : CharSet := range 0xD800 0xDFFF

/-- The ranges from `start` on that lie between the given ones. -/
def gaps (start : Nat) : List (Nat × Nat) → List (Nat × Nat)
  | [] => if start ≤ 0x10FFFF then [(start, 0x10FFFF)] else []
  | (first, last) :: rest =>
    if start < first then (start, first - 1) :: gaps (last + 1) rest else gaps (last + 1) rest

/-- The characters that do not belong to the set. -/
def complement (a : CharSet) : CharSet := ⟨gaps 0 (a.union surrogates).ranges⟩

/-- All characters. -/
def all : CharSet := complement empty

/-- The characters of the first set that do not belong to the second. -/
def difference (a b : CharSet) : CharSet := complement (a.complement.union b)

/-- The characters of both sets. -/
def intersection (a b : CharSet) : CharSet := complement (a.complement.union b.complement)

/-- The characters of one set alone. -/
def symmetricDifference (a b : CharSet) : CharSet := (a.difference b).union (b.difference a)

/-- Only characters of ASCII belong to the set. -/
def isAscii (a : CharSet) : Bool := a.ranges.all (·.2 < 128)

/-- The only character of a set that has one. -/
def char? (a : CharSet) : Option Char :=
  match a.ranges with
  | [(first, last)] => if first = last then some (Char.ofNat first) else none
  | _ => none

/-- The set with the letters of ASCII that differ from its own in case alone. -/
def asciiCaseless (a : CharSet) : CharSet :=
  let lower := a.intersection (range 65 90)
  let upper := a.intersection (range 97 122)
  unions [a, ⟨lower.ranges.map fun (x, y) => (x + 32, y + 32)⟩,
    ⟨upper.ranges.map fun (x, y) => (x - 32, y - 32)⟩]

/-- The digits of ASCII. -/
def asciiDigit : CharSet := range 48 57

/-- The blanks of ASCII. -/
def asciiBlank : CharSet := ⟨[(9, 13), (32, 32)]⟩

/-- The word characters of ASCII. -/
def asciiWord : CharSet := ⟨[(48, 57), (65, 90), (95, 95), (97, 122)]⟩

/-- The classes of ASCII by their names. -/
def named? (name : String) : Option CharSet :=
  match name with
  | "alnum" => some ⟨[(48, 57), (65, 90), (97, 122)]⟩
  | "alpha" => some ⟨[(65, 90), (97, 122)]⟩
  | "ascii" => some (range 0 127)
  | "blank" => some ⟨[(9, 9), (32, 32)]⟩
  | "cntrl" => some ⟨[(0, 31), (127, 127)]⟩
  | "digit" => some asciiDigit
  | "graph" => some (range 33 126)
  | "lower" => some (range 97 122)
  | "print" => some (range 32 126)
  | "punct" => some ⟨[(33, 47), (58, 64), (91, 96), (123, 126)]⟩
  | "space" => some asciiBlank
  | "upper" => some (range 65 90)
  | "word" => some asciiWord
  | "xdigit" => some ⟨[(48, 57), (65, 70), (97, 102)]⟩
  | _ => none

end CharSet

end SwiftTuples.Pattern
