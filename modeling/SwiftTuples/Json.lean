import SwiftTuples.Text.Basic
/-!
# JSON

Values of the format and their indented form: members and items one below the other, two spaces
deeper than what holds them. Quotes, backslashes and controls are escaped, nothing else.
-/

namespace SwiftTuples

/-- A value of the format. -/
inductive Json where
  | number (n : Nat)
  | string (t : Text)
  | list (items : List Json)
  | object (members : List (String × Json))

namespace Json

/-- A character as it stands in a string. -/
def escape (c : Char) : Text :=
  match c with
  | '"' => ['\\', '"']
  | '\\' => ['\\', '\\']
  | '\n' => ['\\', 'n']
  | '\r' => ['\\', 'r']
  | '\t' => ['\\', 't']
  | '\x08' => ['\\', 'b']
  | '\x0c' => ['\\', 'f']
  | c =>
    if c.toNat < 0x20 then
      ['\\', 'u', '0', '0', Nat.digitChar (c.toNat / 16), Nat.digitChar (c.toNat % 16)]
    else [c]

/-- A string between its quotes. -/
def quote (t : Text) : Text := ['"'] ++ t.flatMap escape ++ ['"']

/-- A line end and the indentation of a depth. -/
def newline (depth : Nat) : Text := '\n' :: List.replicate (2 * depth) ' '

mutual

/-- A value at a depth. -/
def write (depth : Nat) : Json → Text
  | number n => (toString n).toList
  | string t => quote t
  | list [] => ['[', ']']
  | list (item :: rest) =>
    ['['] ++ newline (depth + 1) ++ write (depth + 1) item ++ writeItems (depth + 1) rest ++
      newline depth ++ [']']
  | object [] => ['{', '}']
  | object ((name, value) :: rest) =>
    ['{'] ++ newline (depth + 1) ++ quote name.toList ++ [':', ' '] ++ write (depth + 1) value ++
      writeMembers (depth + 1) rest ++ newline depth ++ ['}']

/-- Further items. -/
def writeItems (depth : Nat) : List Json → Text
  | [] => []
  | item :: rest => [','] ++ newline depth ++ write depth item ++ writeItems depth rest

/-- Further members. -/
def writeMembers (depth : Nat) : List (String × Json) → Text
  | [] => []
  | (name, value) :: rest =>
    [','] ++ newline depth ++ quote name.toList ++ [':', ' '] ++ write depth value ++
      writeMembers depth rest

end

/-- The indented form of a value. -/
def text (j : Json) : Text := j.write 0

end Json

end SwiftTuples
