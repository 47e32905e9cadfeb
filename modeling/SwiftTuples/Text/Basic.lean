import SwiftTuples.Unicode.Blank
/-!
# Texts

A text is a list of characters. Offsets into a text count bytes of its UTF-8 form; `Text.size` is
the number of those bytes. Lines end at a line feed, and a carriage return before it belongs to
the end.
-/

namespace SwiftTuples

/-- A text as a list of characters. -/
abbrev Text := List Char

namespace Text

/-- Bytes of the UTF-8 form. -/
def size : Text → Nat
  | [] => 0
  | c :: rest => c.utf8Size + size rest

@[simp] theorem size_nil : size [] = 0 := rfl

@[simp] theorem size_cons (c : Char) (t : Text) : size (c :: t) = c.utf8Size + size t := rfl

@[simp] theorem size_append (s t : Text) : size (s ++ t) = size s + size t := by
  induction s with
  | nil => simp
  | cons c s ih => simp [ih, Nat.add_assoc]

/-- A line from its characters in reverse, without the carriage return that ends it. -/
def closeLine : Text → Text
  | '\r' :: before => before.reverse
  | before => before.reverse

/-- The lines of a text, the characters of the line in progress being in `before` in reverse. -/
def linesFrom (before : Text) : Text → List Text
  | [] => if before.isEmpty then [] else [before.reverse]
  | '\n' :: rest => closeLine before :: linesFrom [] rest
  | c :: rest => linesFrom (c :: before) rest

/-- The lines of a text without their ends. A line feed at the very end opens no further line. -/
def lines (t : Text) : List Text := linesFrom [] t

/-- The text without blanks at either end. -/
def trim (t : Text) : Text :=
  ((t.dropWhile Unicode.isBlank).reverse.dropWhile Unicode.isBlank).reverse

/-- `part` stands somewhere in the text. -/
def holds : Text → Text → Bool
  | [], part => part.isEmpty
  | c :: rest, part => part.isPrefixOf (c :: rest) || holds rest part

end Text

end SwiftTuples
