import SwiftTuples.Pattern.Look
import SwiftTuples.Pattern.Property
import SwiftTuples.Pattern.Reader
/-!
# Escapes and classes of patterns

What a single character, a backslash or a class in brackets stands for under the flags in force.
A class may hold classes, and operators between its items take them together as sets.
-/

namespace SwiftTuples.Pattern

namespace Parser

/-- What an escape or a plain character stands for. -/
inductive Atom where
  /-- A character; `isByte` if it was named by two digits. -/
  | literal (c : Char) (isByte : Bool)
  | set (set : CharSet)
  | look (condition : Look)

/-- Characters that stand for something else unless a backslash is before them. -/
def metaCharacters : List Char :=
  ['\\', '.', '+', '*', '?', '(', ')', '|', '[', ']', '{', '}', '^', '$', '#', '&', '-', '~']

/-- A backslash before the character makes it stand for itself. -/
def isEscapable (c : Char) : Bool :=
  metaCharacters.contains c ||
    (c.toNat < 128 && !c.isAlphanum && c ≠ '<' && c ≠ '>')

/-- The set with what differs in case alone, where the flags say that case does not matter. -/
def foldSet (f : Flags) (set : CharSet) : CharSet :=
  if !f.caseless then set else if f.unicode then set.caseless else set.asciiCaseless

/-- The set under the flags in force: caseless, complemented, and of ASCII alone where characters
of any script are not admitted. -/
def closeSet (negated : Bool) (set : CharSet) : Parser CharSet := do
  let f ← flags
  let set := foldSet f set
  let set := if negated then set.complement else set
  if !f.unicode && !set.isAscii then refuse else return set

/-- The set of a class that a letter names. -/
def letterClass (negated : Bool) (any ascii : CharSet) : Parser CharSet := do
  if (← flags).unicode then return if negated then any.complement else any
  else if negated then refuse
  else return ascii

/-- The set of a class that a property names, from the letter `p` on. -/
def propertyClass (negated : Bool) : Parser CharSet := do
  skipBlanks
  if !(← flags).unicode then refuse
  let name ←
    if (← peek) = some '{' then braced
    else do
      let c ← takeTrimmed
      if c = '\\' then refuse else pure [c]
  match Property.ofText? name with
  | some (isNot, set) => closeSet (negated != isNot) set
  | none => refuse

/-- The condition of a word boundary: `\b`, or with a name in braces one of its halves. A brace
that begins no name is left for a count. -/
def boundary : Parser Look := do
  let ascii := !(← flags).unicode
  let isNamePart (c : Char) : Bool := c.isAlpha || c = '-'
  match ← rest with
  | '{' :: after =>
    let inside := Flags.trim (← flags) after
    if inside.isEmpty then refuse
    else if inside.head?.any isNamePart then
      goOn inside
      let name ← takesWhile isNamePart inside.length
      expect '}'
      match String.ofList name with
      | "start" => return .wordStart ascii
      | "end" => return .wordStop ascii
      | "start-half" => return .wordStartHalf ascii
      | "end-half" => return .wordStopHalf ascii
      | _ => refuse
    else return .boundary ascii
  | _ => return .boundary ascii

/-- What the characters after a backslash stand for. -/
def escape : Parser Atom := do
  let c ← take
  let ascii := !(← flags).unicode
  match c with
  | 'x' => do
    skipBlanks
    let isByte := (← peek) ≠ some '{'
    return .literal (← hexChar 2) isByte
  | 'u' => return .literal (← hexChar 4) false
  | 'U' => return .literal (← hexChar 8) false
  | 'p' => return .set (← propertyClass false)
  | 'P' => return .set (← propertyClass true)
  | 'd' => return .set (← letterClass false Property.decimalNumber .asciiDigit)
  | 'D' => return .set (← letterClass true Property.decimalNumber .asciiDigit)
  | 's' => return .set (← letterClass false Property.whiteSpace .asciiBlank)
  | 'S' => return .set (← letterClass true Property.whiteSpace .asciiBlank)
  | 'w' => return .set (← letterClass false Property.word .asciiWord)
  | 'W' => return .set (← letterClass true Property.word .asciiWord)
  | 'a' => return .literal '\x07' false
  | 'f' => return .literal '\x0c' false
  | 't' => return .literal '\t' false
  | 'n' => return .literal '\n' false
  | 'r' => return .literal '\r' false
  | 'v' => return .literal '\x0b' false
  | 'A' => return .look .start
  | 'z' => return .look .stop
  | 'b' => return .look (← boundary)
  | 'B' => return .look (.noBoundary ascii)
  | '<' => return .look (.wordStart ascii)
  | '>' => return .look (.wordStop ascii)
  | c => if isEscapable c then return .literal c false else refuse

/-- The set of one character outside of classes. -/
def literalSet (c : Char) (isByte : Bool) : Parser CharSet := do
  let f ← flags
  if !f.unicode && isByte && 128 ≤ c.toNat then refuse
  else return foldSet f (.ofChar c)

/-- The code point of a character in a class. -/
def classMember (c : Char) : Parser Nat := do
  if (← flags).unicode || c.toNat < 128 then return c.toNat else refuse

/-- A character or a class inside a class. -/
def classAtom : Parser Atom := do
  let c ← take
  if c = '\\' then escape else return .literal c false

/-- A character, a range or a class inside a class. -/
def classRange : Parser CharSet := do
  let first ← classAtom
  skipBlanks
  match ← rest with
  | [] => refuse
  | c :: after =>
    let next := (Flags.trim (← flags) after).head?
    if c ≠ '-' || next = some ']' || next = some '-' then
      match first with
      | .literal c _ => return .single (← classMember c)
      | .set set => return set
      | .look _ => refuse
    else
      let _ ← takeTrimmed
      match first, ← classAtom with
      | .literal a _, .literal b _ =>
        if b < a then refuse else return .range (← classMember a) (← classMember b)
      | _, _ => refuse

/-- Takes a class of ASCII by its name between colons, if one is at hand. -/
def asciiClass? : Parser (Option CharSet) := do
  match ← rest with
  | '[' :: ':' :: after =>
    let (negated, named) := match after with
      | '^' :: named => (true, named)
      | named => (false, named)
    let name := named.takeWhile (· ≠ ':')
    match named.drop name.length, CharSet.named? (String.ofList name) with
    | ':' :: ']' :: after, some set =>
      goOn after
      return some (← closeSet negated set)
    | _, _ => return none
  | _ => return none

/-- An operation on the sets of a class. -/
inductive ClassOperator where
  | intersection
  | difference
  | symmetricDifference

/-- A set with the number of items it was put together from and how deeply they nest. -/
structure ClassPart where
  set : CharSet
  items : Nat
  depth : Nat

namespace ClassPart

/-- Nothing yet. -/
def none : ClassPart := ⟨.empty, 0, 0⟩

/-- The part with a further item. -/
def add (p : ClassPart) (set : CharSet) (depth : Nat) : ClassPart :=
  ⟨p.set.union set, p.items + 1, max p.depth depth⟩

/-- How deeply the part nests as a whole. -/
def level (p : ClassPart) : Nat := if 2 ≤ p.items then p.depth + 1 else p.depth

/-- The part under an operation, `left` being the part before the operator. -/
def combine (f : Flags) (pending : Option (ClassOperator × ClassPart)) (right : ClassPart) :
    ClassPart :=
  match pending with
  | Option.none => right
  | some (operator, left) =>
    let a := foldSet f left.set
    let b := foldSet f right.set
    let set := match operator with
      | .intersection => a.intersection b
      | .difference => a.difference b
      | .symmetricDifference => a.symmetricDifference b
    ⟨set, 1, max left.level right.level + 1⟩

end ClassPart

/-- Takes the hyphens at the start of a class, which stand for themselves. -/
def hyphens (part : ClassPart) : Nat → Parser ClassPart
  | 0 => return part
  | n + 1 => do
    if (← peek) = some '-' then
      let _ ← takeTrimmed
      hyphens (part.add (.ofChar '-') 0) n
    else return part

mutual

/-- A class in brackets, with how deeply it nests. -/
def bracketed : Nat → Parser (CharSet × Nat)
  | 0 => refuse
  | n + 1 => do
    let _ ← takeTrimmed
    let negated := (← peek) = some '^'
    if negated then
      let _ ← takeTrimmed
    let part ← hyphens .none (← rest).length
    let part ←
      if part.items = 0 && (← peek) = some ']' then do
        let _ ← takeTrimmed
        pure (part.add (.ofChar ']') 0)
      else pure part
    let whole ← classItems n none part
    return (← closeSet negated whole.set, whole.level + 1)

/-- The items of a class and the bracket that ends it. -/
def classItems :
    Nat → Option (ClassOperator × ClassPart) → ClassPart → Parser ClassPart
  | 0, _, _ => refuse
  | n + 1, pending, part => do
    skipBlanks
    let f ← flags
    match ← rest with
    | [] => refuse
    | ']' :: after =>
      goOn after
      return .combine f pending part
    | '[' :: _ =>
      match ← asciiClass? with
      | some set => classItems n pending (part.add set 0)
      | none =>
        let (set, depth) ← bracketed n
        classItems n pending (part.add set depth)
    | '&' :: '&' :: after =>
      goOn after
      classItems n (some (.intersection, .combine f pending part)) .none
    | '-' :: '-' :: after =>
      goOn after
      classItems n (some (.difference, .combine f pending part)) .none
    | '~' :: '~' :: after =>
      goOn after
      classItems n (some (.symmetricDifference, .combine f pending part)) .none
    | _ => classItems n pending (part.add (← classRange) 0)

end

end Parser

end SwiftTuples.Pattern
