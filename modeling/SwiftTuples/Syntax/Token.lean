/-!
# Tokens

Blanks and comments are no tokens. A token keeps the bytes it spans and whether a line ended
between it and the token before it, which is all of the layout that matters later.
-/

namespace SwiftTuples

/-- What a token is. -/
inductive TokenKind where
  /-- A name or keyword; the backticks of an escaped name are not part of it. -/
  | ident (name : String)
  /-- A number, a string or a regular expression; what it says does not matter. -/
  | literal
  /-- The arrow before a result. -/
  | arrow
  /-- Any other character. -/
  | punct (c : Char)
deriving DecidableEq, Repr

/-- A token and the bytes from `start` up to `stop` that it spans. -/
structure Token where
  kind : TokenKind
  start : Nat
  stop : Nat
  /-- It is the first token, or a line ended since the token before it. -/
  newlineBefore : Bool
deriving DecidableEq, Repr

namespace TokenKind

/-- Words after which an operand begins. -/
def operandWords : List String := ["return", "case", "in", "try", "await", "where", "else"]

/-- Characters after which an operand begins. -/
def operandMarks : List Char :=
  ['(', '[', '{', ',', '=', ':', ';', '!', '&', '|', '?', '^', '~', '+', '-', '*', '<', '>', '%']

/-- An operand may begin right after the token, so a slash there opens a regular expression. -/
def beforeOperand : TokenKind → Bool
  | ident word => operandWords.contains word
  | literal => false
  | arrow => true
  | punct c => operandMarks.contains c

end TokenKind

namespace Token

/-- The name of an identifier token. -/
def name? (t : Token) : Option String :=
  match t.kind with
  | .ident name => some name
  | _ => none

/-- The token is the character `c`. -/
def is (t : Token) (c : Char) : Bool := t.kind = .punct c

/-- The token is the word `word`. -/
def isWord (t : Token) (word : String) : Bool := t.kind = .ident word

end Token

end SwiftTuples
