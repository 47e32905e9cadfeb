import SwiftTuples.Unicode.Blank
/-!
# Reading patterns character by character

A pattern is read from left to right with the flags in force at hand, since they decide what a
character means and whether blanks and comments are passed over.
-/

namespace SwiftTuples.Pattern

/-- What flags say about the part of a pattern at hand. -/
structure Flags where
  caseless : Bool
  multiline : Bool
  /-- A dot stands for a line feed as well. -/
  dotAll : Bool
  /-- A carriage return and line feed end a line together. -/
  crlf : Bool
  unicode : Bool
  /-- Blanks and comments are passed over. -/
  verbose : Bool
  /-- Repetitions are eager only if they are marked. -/
  reluctant : Bool

namespace Flags

/-- The flags at the start of a pattern. -/
def initial : Flags := ⟨false, false, false, false, true, false, false⟩

/-- The flags with one of them set or taken away. -/
def set? (f : Flags) (on : Bool) (c : Char) : Option Flags :=
  match c with
  | 'i' => some { f with caseless := on }
  | 'm' => some { f with multiline := on }
  | 's' => some { f with dotAll := on }
  | 'R' => some { f with crlf := on }
  | 'u' => some { f with unicode := on }
  | 'x' => some { f with verbose := on }
  | 'U' => some { f with reluctant := on }
  | _ => none

/-- The text without the blanks and comments at its front. -/
def pastBlanks (inComment : Bool) : List Char → List Char
  | [] => []
  | c :: rest =>
    if inComment then pastBlanks (c ≠ '\n') rest
    else if Unicode.isBlank c then pastBlanks false rest
    else if c = '#' then pastBlanks true rest
    else c :: rest

/-- The text without what the flags pass over at its front. -/
def trim (flags : Flags) (t : List Char) : List Char :=
  if flags.verbose then pastBlanks false t else t

end Flags

/-- What is left of a pattern, the flags in force and the group names so far. -/
structure ParserState where
  rest : List Char
  flags : Flags
  names : List (List Char)

/-- A reader of patterns. -/
abbrev Parser (α : Type) := StateT ParserState Option α

namespace Parser

/-- The pattern cannot be read. -/
def refuse {α : Type} : Parser α := fun _ => none

/-- The characters left. -/
def rest : Parser (List Char) := fun s => some (s.rest, s)

/-- The flags in force. -/
def flags : Parser Flags := fun s => some (s.flags, s)

/-- Goes on with other characters. -/
def goOn (rest : List Char) : Parser Unit := fun s => some ((), { s with rest })

/-- Goes on with other flags. -/
def setFlags (flags : Flags) : Parser Unit := fun s => some ((), { s with flags })

/-- Passes over blanks and comments where the flags say so. -/
def skipBlanks : Parser Unit := fun s => some ((), { s with rest := Flags.trim s.flags s.rest })

/-- The character at hand. -/
def peek : Parser (Option Char) := do return (← rest).head?

/-- Takes a character. -/
def take : Parser Char := do
  match ← rest with
  | c :: rest =>
    goOn rest
    return c
  | [] => refuse

/-- Takes a character, then passes over blanks. -/
def takeTrimmed : Parser Char := do
  let c ← take
  skipBlanks
  return c

/-- Takes a given text, if it is at hand. -/
def eats (text : List Char) : Parser Bool := do
  let t ← rest
  if text.isPrefixOf t then
    goOn (t.drop text.length)
    return true
  else return false

/-- Takes a given character, which has to be at hand. -/
def expect (c : Char) : Parser Unit := do
  if (← take) = c then return () else refuse

/-- The value of a hexadecimal digit. -/
def hexValue? (c : Char) : Option Nat :=
  if c.isDigit then some (c.toNat - 48)
  else if 'a' ≤ c && c ≤ 'f' then some (c.toNat - 87)
  else if 'A' ≤ c && c ≤ 'F' then some (c.toNat - 55)
  else none

/-- The character whose number has these hexadecimal digits. -/
def ofHex? (digits : List Char) : Option Char := do
  let n ← digits.foldlM (fun n c => (hexValue? c).map (16 * n + ·)) 0
  if digits.isEmpty || !decide n.isValidChar then none else some (Char.ofNat n)

/-- Takes `n` characters with what may be passed over between them. -/
def takes : Nat → Parser (List Char)
  | 0 => return []
  | n + 1 => do
    let c ← takeTrimmed
    return c :: (← takes n)

/-- Takes up to `n` characters as long as they have a property. -/
def takesWhile (p : Char → Bool) : Nat → Parser (List Char)
  | 0 => return []
  | n + 1 => do
    if (← peek).any p then
      let c ← takeTrimmed
      return c :: (← takesWhile p n)
    else return []

/-- Takes what stands between braces and the braces. -/
def braced : Parser (List Char) := do
  let _ ← takeTrimmed
  let inside ← takesWhile (· ≠ '}') (← rest).length
  let _ ← takeTrimmed
  return inside

/-- The character that an escape names by its number, which has `count` digits or is in braces. -/
def hexChar (count : Nat) : Parser Char := do
  skipBlanks
  let digits ← if (← peek) = some '{' then braced else takes count
  match ofHex? digits with
  | some c => return c
  | none => refuse

end Parser

end SwiftTuples.Pattern
