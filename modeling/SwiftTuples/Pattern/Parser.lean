import SwiftTuples.Pattern.Class
import SwiftTuples.Pattern.Machine
import SwiftTuples.Pattern.Part
import SwiftTuples.Unicode.Alphabetic
import SwiftTuples.Unicode.Number
/-!
# Reading patterns

There is neither looking around nor reference back, a backslash before a letter has to mean
something, and a brace after an operand has to be a count. A group ends the flags set inside it.
-/

namespace SwiftTuples.Pattern

namespace Parser

/-- A decimal number below 2 ^ 32 with blanks around it; none if there are no digits. -/
def decimal : Parser (Option Nat) := do
  goOn ((← rest).dropWhile Unicode.isBlank)
  let digits ← takesWhile Char.isDigit (← rest).length
  goOn ((← rest).dropWhile Unicode.isBlank)
  skipBlanks
  if digits.isEmpty then return none
  else
    let n := digits.foldl (fun n c => 10 * n + (c.toNat - 48)) 0
    if n < UInt32.size then return some n else refuse

/-- A number that has to be there. -/
def count (n : Option Nat) : Parser Nat :=
  match n with
  | some n => return n
  | none => refuse

/-- The least and the most of a count in braces. -/
def counts : Parser (Nat × Option Nat) := do
  let _ ← takeTrimmed
  let first ← decimal
  let range ←
    if (← peek) = some ',' then do
      let _ ← takeTrimmed
      let least ← count first
      if (← peek) = some '}' then pure (least, none)
      else
        let most ← count (← decimal)
        pure (least, some most)
    else do
      let n ← count first
      pure (n, some n)
  if (← peek) ≠ some '}' then refuse
  let _ ← takeTrimmed
  match range with
  | (least, some most) => if most < least then refuse else return range
  | _ => return range

/-- Takes the mark after a repetition, if there is one; answers whether the repetition is eager. -/
def eagerness : Parser Bool := do
  return (← eats ['?']) == (← flags).reluctant

/-- Takes flags up to the character that ends them and answers with that character, with the flags
that they make of `f`, and with whether there were any. None may stand twice. -/
def flagItems : Nat → Bool → List Char → Flags → Parser (Char × Flags × Bool)
  | 0, _, _, _ => refuse
  | n + 1, on, seen, f => do
    let c ← take
    if c = ':' || c = ')' then
      if seen.head? = some '-' then refuse else return (c, f, !seen.isEmpty)
    else if seen.contains c then refuse
    else if c = '-' then flagItems n false (c :: seen) f
    else
      match f.set? on c with
      | some f => flagItems n on (c :: seen) f
      | none => refuse

/-- A character of a group name. -/
def isGroupNamePart (isFirst : Bool) (c : Char) : Bool :=
  c = '_' || Unicode.isAlphabetic c ||
    (!isFirst && (c = '.' || c = '[' || c = ']' || Unicode.isNumber c))

/-- Takes the name of a group and the angle bracket after it. -/
def groupName : Parser Unit := do
  let t ← rest
  let name := t.takeWhile (· ≠ '>')
  let isName := match name with
    | [] => false
    | c :: more => isGroupNamePart true c && more.all (isGroupNamePart false)
  let known := (← get).names
  match t.drop name.length with
  | '>' :: after =>
    if !isName || known.contains name then refuse
    else set { (← get) with rest := after, names := name :: known }
  | _ => refuse

/-- What the opening of a group says: flags for what follows, or the flags inside the group and
whether its match is kept apart. -/
inductive Opening where
  | setting (flags : Flags)
  | group (flags : Flags) (kept : Bool)

/-- Takes the opening of a group. -/
def opening : Parser Opening := do
  let _ ← take
  skipBlanks
  let f ← flags
  match ← rest with
  | '?' :: '=' :: _ => refuse
  | '?' :: '!' :: _ => refuse
  | '?' :: '<' :: '=' :: _ => refuse
  | '?' :: '<' :: '!' :: _ => refuse
  | '?' :: 'P' :: '<' :: after =>
    goOn after
    groupName
    return .group f true
  | '?' :: '<' :: after =>
    goOn after
    groupName
    return .group f true
  | '?' :: after =>
    goOn after
    let (c, inner, any) ← flagItems (after.length + 1) true [] f
    if c = ')' then
      if any then return .setting inner else refuse
    else return .group inner false
  | _ => return .group f true

/-- What an atom stands for outside of classes. -/
def ofAtom (a : Atom) : Parser Part := do
  match a with
  | .literal c isByte => return ⟨.ofSet (← literalSet c isByte), 0⟩
  | .set set => return ⟨.ofSet set, 0⟩
  | .look condition => return ⟨.look condition, 0⟩

/-- A single character outside of classes. -/
def primitive : Parser Part := do
  let c ← take
  let f ← flags
  match c with
  | '\\' => ofAtom (← escape)
  | '.' =>
    if !f.unicode then refuse
    else
      let lineEnds : CharSet :=
        if f.dotAll then .empty else if f.crlf then .ofRanges [(10, 10), (13, 13)] else .single 10
      return ⟨.ofSet lineEnds.complement, 0⟩
  | '^' => return ⟨.look (if f.multiline then .lineStart f.crlf else .start), 0⟩
  | '$' => return ⟨.look (if f.multiline then .lineStop f.crlf else .stop), 0⟩
  | c => ofAtom (.literal c false)

mutual

/-- The branches of a choice, up to the end of the pattern or of a group. -/
def alternatives : Nat → Parser (Part × List Part)
  | 0 => refuse
  | n + 1 => do
    let first ← branch n []
    if ← eats ['|'] then
      let (second, others) ← alternatives n
      return (first, second :: others)
    else return (first, [])

/-- The parts of a branch; those read so far are in `done` in reverse. -/
def branch : Nat → List (Option Part) → Parser Part
  | 0, _ => refuse
  | n + 1, done => do
    skipBlanks
    match ← peek with
    | none => return .sequence done.reverse
    | some c =>
      if c = '|' || c = ')' then return .sequence done.reverse
      else if c = '(' then
        let part ← group n
        branch n (part :: done)
      else if c = '[' then
        let (set, depth) ← bracketed (← rest).length
        branch n (some ⟨.ofSet set, depth⟩ :: done)
      else if c = '?' || c = '*' || c = '+' || c = '{' then
        match done with
        | some part :: before =>
          let (least, most) ←
            if c = '{' then counts
            else do
              let _ ← take
              pure (if c = '+' then 1 else 0, if c = '?' then some 1 else none)
          let eager ← eagerness
          branch n (some (part.repeated least most eager) :: before)
        | _ => refuse
      else branch n (some (← primitive) :: done)

/-- A group, or nothing where its parentheses only set flags. -/
def group : Nat → Parser (Option Part)
  | 0 => refuse
  | n + 1 => do
    let outer ← flags
    match ← opening with
    | .setting f =>
      setFlags f
      return none
    | .group f kept =>
      setFlags f
      let (first, others) ← alternatives n
      expect ')'
      setFlags outer
      return some ((Part.choice first others).grouped kept)

end

/-- The expression that a pattern says. -/
def expression? (text : List Char) : Option Expr := do
  let ((first, others), s) ←
    (alternatives (3 * text.length + 3)).run ⟨text, Flags.initial, []⟩
  let whole := Part.choice first others
  if s.rest.isEmpty && whole.depth ≤ Part.depthLimit && Machine.fits whole.expr then
    some whole.expr
  else none

end Parser

end SwiftTuples.Pattern
