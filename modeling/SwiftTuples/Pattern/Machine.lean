import Std.Data.TreeMap
import SwiftTuples.Pattern.Expr
import SwiftTuples.Pattern.Utf8
/-!
# Machines

A pattern is refused if the machine for it takes too much room, in the direction of reading or
against it. A machine reads bytes. Its states are numbered in the order in which they are laid out;
each takes room, as do the edges of those that have several. Only the room is reckoned here, yet
numbers matter: where a set of characters goes beyond ASCII, equal states are laid out once as long
as a table of limited size remembers them, and where a state stands in the table hangs on the
numbers of the states after it.
-/

namespace SwiftTuples.Pattern.Machine

/-- Machines take no more bytes than this. -/
def limit : Nat := 10 * 1024 * 1024

/-- A machine as far as it is laid out. -/
structure Layout where
  states : Nat
  bytes : Nat

namespace Layout

/-- The layout with more bytes, unless these are too many. -/
def grow (m : Layout) (bytes : Nat) : Option Layout :=
  if m.bytes + bytes ≤ limit then some { m with bytes := m.bytes + bytes } else none

/-- A further state, with room for its edges. -/
def state (m : Layout) (edges : Nat) : Option Layout :=
  { m with states := m.states + 1 }.grow (32 + edges)

/-- Several states of one edge each. -/
def chain (m : Layout) (count : Nat) : Option Layout :=
  { m with states := m.states + count }.grow (32 * count)

/-- An edge out of the last state of a part; it takes room only where that state branches. -/
def edge (m : Layout) (branches : Bool) : Option Layout := m.grow (if branches then 4 else 0)

end Layout

/-- A step of the hash of 64 bits that takes up one number after the other. -/
def mix (hash : UInt64) (n : Nat) : UInt64 := (hash ^^^ n.toUInt64) * 1099511628211

/-- The hash of numbers. -/
def hash (numbers : List Nat) : Nat := (numbers.foldl mix 14695981039346656037).toNat

/-- A table that remembers states by what they do. Each has one slot, which the last state takes. -/
abbrev Memory := Std.TreeMap Nat (List Nat × Nat)

/-- The number of the state with these edges: a remembered one, or a new one that takes `room`. -/
def remember (slots : Nat) (edges : List Nat) (room : Nat) (memory : Memory) (m : Layout) :
    Option (Nat × Memory × Layout) :=
  let slot := hash edges % slots
  match memory[slot]? with
  | some (known, id) =>
    if known == edges then some (id, memory, m) else lay slot
  | none => lay slot
where
  /-- Lays out a new state and remembers it. -/
  lay (slot : Nat) : Option (Nat × Memory × Layout) := do
    let next ← m.state room
    return (m.states, memory.insert slot (edges, m.states), next)

/-- Lays out the tree of sequences of bytes, which has up to `depth` levels, towards the state
`target`; answers with the number of its root. -/
def tree (target : Nat) : Nat → List (List (Nat × Nat)) → Memory → Layout →
    Option (Nat × Memory × Layout)
  | 0, _, memory, m => some (target, memory, m)
  | depth + 1, sequences, memory, m => do
    let groups := sequences.splitBy fun s t => s.head? == t.head?
    let (edges, memory, m) ← groups.foldlM (fun (edges, memory, m) group => do
      let rests := (group.map List.tail).filter (!·.isEmpty)
      let (next, memory, m) ←
        if rests.isEmpty then some (target, memory, m) else tree target depth rests memory m
      let (first, last) := (group.head?.bind List.head?).getD (0, 0)
      return (edges ++ [first, last, next], memory, m)) (([] : List Nat), memory, m)
    remember 10000 edges (8 * groups.length) memory m

/-- Lays out sequences of bytes against the direction of reading: each byte of each sequence is a
state of its own unless the sequence ends like another. -/
def combs (target : Nat) (sequences : List (List (Nat × Nat))) (m : Layout) : Option Layout := do
  let (_, m) ← sequences.foldlM (fun (memory, m) sequence => do
    let (_, memory, m) ← sequence.foldlM (fun (next, memory, m) (first, last) =>
      remember 1000 [next, first, last] 0 memory m) (target, memory, m)
    return (memory, ← m.grow 4)) ((∅ : Memory), m)
  return m

/-- Lays out a set of characters. -/
def characters (backward : Bool) (set : CharSet) (m : Layout) : Option Layout := do
  if set.isAscii then
    (← m.state 0).state (8 * set.ranges.length)
  else if backward then
    combs (m.states + 1) (Utf8.ofSet set) (← (← m.state 0).state 0)
  else
    let (_, _, m) ← tree m.states 4 (Utf8.ofSet set) ∅ (← m.state 0)
    return m

/-- Lays out a tree of words, which have up to `depth` letters. The words that begin alike share
states, unless a word that ends where they part stands between them. -/
def words : Nat → List (List Nat) → Layout → Option Layout
  | 0, _, m => some m
  | depth + 1, texts, m => do
    let runs := texts.splitBy fun s t => s.isEmpty == t.isEmpty
    let chunks := runs.filter (·.any (!·.isEmpty))
    let ends := (texts.filter List.isEmpty).length - ((texts.takeWhile List.isEmpty).length - 1)
    let m ← chunks.foldlM (fun m chunk => do
      let letters := (chunk.filterMap List.head?).eraseDups
      let m ← letters.foldlM (fun m letter => do
        let rests := (chunk.filter (·.head? == some letter)).map List.tail
        if rests.all List.isEmpty then some m else words depth rests m) m
      m.state (if letters.length = 1 then 0 else 8 * letters.length)) m
    m.state (4 * (chunks.length + ends))

/-- The texts of a choice between texts. -/
def texts? (e : Expr) : Option (List (List Char)) :=
  e.branches.mapM fun
    | .literal text => some text
    | _ => none

/-- A part that is laid out, and whether it ends in a state that branches. -/
abbrev Laid := Option (Bool × Layout)

/-- How a part stands in a choice: in none, as the second branch, the first having ended in a state
that branches or not, or further back. -/
inductive Rank where
  | alone
  | second (branches : Bool)
  | later

/-- What is laid out once a branch of a choice is, which ends in a state that branches or not: after
two branches the states where they part and meet, after each the edges to it and from it. -/
def Rank.finish (rank : Rank) (branches : Bool) (m : Layout) : Laid :=
  match rank with
  | alone => some (branches, m)
  | second before => do
    let m ← (← (← m.state 0).state 0).grow 8
    return (false, ← (← m.edge before).edge branches)
  | later => do return (false, ← (← m.grow 4).edge branches)

/-- Further copies of a part one after the other, the last before them having ended in a state that
branches or not. -/
def moreCopies (part : Layout → Laid) : Nat → Bool → Layout → Laid
  | 0, branches, m => some (branches, m)
  | n + 1, branches, m => do
    let (next, m) ← part m
    moreCopies part n next (← m.edge branches)

/-- Copies of a part one after the other. -/
def copies (part : Layout → Laid) (count : Nat) (m : Layout) : Laid := do
  match count with
  | 0 => return (false, ← m.state 0)
  | n + 1 =>
    let (branches, m) ← part m
    moreCopies part n branches m

/-- Further copies of a part, each of which may be passed by. -/
def optionalCopies (part : Layout → Laid) : Nat → Bool → Layout → Laid
  | 0, branches, m => some (branches, m)
  | n + 1, branches, m => do
    let (next, m) ← part (← m.state 8)
    optionalCopies part n next (← m.edge branches)

/-- A part that is repeated; `passes` if it always passes over a character. -/
def repetition (part : Layout → Laid) (passes : Bool) (least : Nat) (most : Option Nat)
    (m : Layout) : Laid := do
  match least, most with
  | 0, some 1 =>
    let (branches, m) ← part (← m.state 8)
    return (false, ← (← m.state 0).edge branches)
  | 0, none =>
    if passes then
      let (branches, m) ← part (← m.state 4)
      return (true, ← m.edge branches)
    else
      let (branches, m) ← part m
      return (false, ← (← (← (← m.edge branches).state 8).state 8).state 0)
  | 1, none =>
    let (branches, m) ← part m
    return (true, ← (← m.edge branches).state 4)
  | least, none =>
    let (before, m) ← copies part (least - 1) m
    let (branches, m) ← part m
    return (true, ← (← (← m.edge before).edge branches).state 4)
  | least, some most =>
    let (branches, m) ← copies part least m
    if most = least then return (branches, m)
    else
      let (branches, m) ← optionalCopies part (most - least) branches (← m.state 0)
      return (false, ← m.edge branches)

/-- Lays out an expression; answers whether it ends in a state that branches. -/
def lay (backward : Bool) : Expr → Rank → Layout → Laid
  | .empty, rank, m => do rank.finish false (← m.state 0)
  | .look _, rank, m => do rank.finish false (← m.state 0)
  | .literal text, rank, m => do
    rank.finish false (← m.chain (text.foldl (fun n c => n + c.utf8Size) 0))
  | .oneOf set, rank, m => do rank.finish false (← characters backward set m)
  | .group body, rank, m => do
    if backward then
      let (branches, m) ← lay backward body .alone m
      rank.finish branches m
    else
      let (branches, m) ← lay backward body .alone (← m.state 0)
      rank.finish false (← (← m.state 0).edge branches)
  | .repeated least most _ body, rank, m => do
    let (branches, m) ←
      repetition (lay backward body .alone) (body.passes?.getD false) least most m
    rank.finish branches m
  | .sequence a b, rank, m => do
    if backward then
      let (before, m) ← lay backward b .alone m
      let (branches, m) ← lay backward a .alone m
      rank.finish branches (← m.edge before)
    else
      let (before, m) ← lay backward a .alone m
      let (branches, m) ← lay backward b .alone m
      rank.finish branches (← m.edge before)
  | .choice a b, .alone, m => do
    match texts? (.choice a b) with
    | some texts =>
      let texts := texts.map fun text =>
        let bytes := text.flatMap Utf8.bytes
        if backward then bytes.reverse else bytes
      let depth := texts.foldl (fun n text => max n text.length) 0
      return (false, ← words (depth + 1) texts (← m.state 0))
    | none =>
      let (branches, m) ← lay backward a .alone m
      lay backward b (.second branches) m
  | .choice a b, rank, m => do
    let (branches, m) ← lay backward a .alone m
    let (_, m) ← rank.finish branches m
    lay backward b .later m

/-- The states before a pattern: a loop over the bytes before the match, or a single one where the
match cannot start elsewhere. -/
def entry (anchored : Bool) : Layout := if anchored then ⟨1, 32⟩ else ⟨3, 112⟩

/-- The machine of an expression in one direction, with the state that a match reaches. -/
def whole (backward : Bool) (e : Expr) : Option Layout := do
  let anchored := if backward then e.isAnchoredAtEnd else e.isAnchored
  let (branches, m) ← lay backward (if backward then e else .group e) .alone (entry anchored)
  (← m.state 0).edge branches

/-- The machines of an expression in both directions fit in their limit. -/
def fits (e : Expr) : Bool := (whole false e).isSome && (whole true e).isSome

end SwiftTuples.Pattern.Machine
