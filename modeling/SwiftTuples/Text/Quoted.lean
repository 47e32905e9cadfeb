import SwiftTuples.Unicode.Printable
/-!
# Quoted texts

A text between double quotes, with a backslash before quotes and backslashes, short escapes for
common controls, and the number of a character that does not show on its own.
-/

namespace SwiftTuples.Quoted

/-- The digits of a number in base 16. -/
def hex (n : Nat) : List Char := Nat.toDigits 16 n

/-- A character as it stands between quotes. -/
def escape (c : Char) : List Char :=
  match c with
  | '\x00' => ['\\', '0']
  | '\t' => ['\\', 't']
  | '\r' => ['\\', 'r']
  | '\n' => ['\\', 'n']
  | '"' => ['\\', '"']
  | '\\' => ['\\', '\\']
  | c =>
    if Unicode.isPrintable c then [c] else ['\\', 'u', '{'] ++ hex c.toNat ++ ['}']

/-- The text between quotes. -/
def quote (text : String) : String :=
  String.ofList (['"'] ++ text.toList.flatMap escape ++ ['"'])

end SwiftTuples.Quoted
