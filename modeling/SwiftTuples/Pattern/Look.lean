import SwiftTuples.Pattern.Property.Derived
/-!
# Conditions on places

A place lies between two characters of a text, or at one of its ends. A pattern may ask that a match
passes a place of a certain kind.
-/

namespace SwiftTuples.Pattern

/-- What a place has to be. -/
inductive Look where
  | start
  | stop
  /-- The start of a line; with `crlf` a carriage return may end the line before it. -/
  | lineStart (crlf : Bool)
  | lineStop (crlf : Bool)
  /-- Word characters on one side alone. -/
  | boundary (ascii : Bool)
  | noBoundary (ascii : Bool)
  | wordStart (ascii : Bool)
  | wordStop (ascii : Bool)
  /-- No word character right before. -/
  | wordStartHalf (ascii : Bool)
  /-- No word character right after. -/
  | wordStopHalf (ascii : Bool)
deriving DecidableEq

namespace Look

/-- A word character, of ASCII alone or of any script. -/
def isWord (ascii : Bool) (c : Char) : Bool :=
  if ascii || c.toNat < 128 then CharSet.asciiWord.contains c.toNat
  else Property.word.contains c.toNat

/-- The condition holds between the characters `before` and `after`. -/
def holds (before after : Option Char) : Look → Bool
  | start => before.isNone
  | stop => after.isNone
  | lineStart crlf =>
    match before with
    | none => true
    | some '\n' => true
    | some '\r' => crlf && after != some '\n'
    | some _ => false
  | lineStop crlf =>
    match after with
    | none => true
    | some '\n' => !crlf || before != some '\r'
    | some '\r' => crlf
    | some _ => false
  | boundary ascii => before.any (isWord ascii) != after.any (isWord ascii)
  | noBoundary ascii => before.any (isWord ascii) == after.any (isWord ascii)
  | wordStart ascii => !before.any (isWord ascii) && after.any (isWord ascii)
  | wordStop ascii => before.any (isWord ascii) && !after.any (isWord ascii)
  | wordStartHalf ascii => !before.any (isWord ascii)
  | wordStopHalf ascii => !after.any (isWord ascii)

end Look

end SwiftTuples.Pattern
