import SwiftTuples.Syntax.Literal
import SwiftTuples.Syntax.Token
/-!
# Pieces of a text

A text is cut into pieces: blanks, comments and the texts of tokens. The pieces in their order are
the text again, whatever it is; only a construct that is never closed stops the cut. A slash opens
a regular expression or is an operator by the token before it, which is all that one piece has to
know of the others.
-/

namespace SwiftTuples

/-- What a piece of a text is. -/
inductive PieceKind where
  | blank
  | comment
  | token (kind : TokenKind)
deriving DecidableEq, Repr

/-- A piece of a text. -/
structure Piece where
  kind : PieceKind
  text : Text
deriving DecidableEq, Repr

namespace PieceKind

/-- An operand may begin after the piece, if before it one may exactly when `operand` holds. -/
def beforeOperand (operand : Bool) : PieceKind → Bool
  | token kind => kind.beforeOperand
  | _ => operand

/-- The kind of the piece that starts with `c`, and how many characters of `rest` belong to it.
`operand` says that an operand may begin here. -/
def atFront (operand : Bool) (c : Char) (rest : Text) : Except Unterminated (PieceKind × Nat) :=
  if Unicode.isBlank c then .ok (.blank, 0)
  else if c = '/' && rest.head? = some '/' then
    .ok (.comment, (rest.takeWhile (· ≠ '\n')).length)
  else if c = '/' && rest.head? = some '*' then
    match Literal.blockComment 0 1 rest.tail with
    | some n => .ok (.comment, n)
    | none => .error ⟨.blockComment, c :: rest⟩
  else if isNameStart c then
    let more := rest.takeWhile isNamePart
    .ok (.token (.ident (String.ofList (c :: more))), more.length)
  else if c = '\x60' then
    let name := rest.takeWhile fun d => d ≠ '\x60' && d ≠ '\n'
    if (rest.drop name.length).head? = some '\x60' then
      .ok (.token (.ident (String.ofList name)), name.length + 1)
    else .error ⟨.escapedName, c :: rest⟩
  else if c.isDigit then .ok (.token .literal, Literal.number 0 rest)
  else if c = '"' || (c = '#' && Literal.isRawString (c :: rest)) then
    match Literal.string (c :: rest) with
    | .ok n => .ok (.token .literal, n - 1)
    | .error fault => .error fault
  else
    -- a slash that opens no expression is an operator, whatever stands before it
    match if (c = '/' || c = '#') && operand then Literal.regex (c :: rest) else none with
    | some n => .ok (.token .literal, n - 1)
    | none =>
      if c = '-' && rest.head? = some '>' then .ok (.token .arrow, 1)
      else .ok (.token (.punct c), 0)

end PieceKind

namespace Piece

/-- The pieces of a text after the pieces in `done`, which are in reverse. -/
def cutFrom (operand : Bool) (done : List Piece) (t : Text) : Except Unterminated (List Piece) :=
  match t with
  | [] => .ok done.reverse
  | c :: rest =>
    match PieceKind.atFront operand c rest with
    | .error fault => .error fault
    | .ok (kind, n) =>
      cutFrom (kind.beforeOperand operand) (⟨kind, c :: rest.take n⟩ :: done) (rest.drop n)
termination_by t.length
decreasing_by
  simp only [List.length_cons, List.length_drop]
  omega

/-- The pieces of a text. -/
def cut (t : Text) : Except Unterminated (List Piece) := cutFrom true [] t

/-- The tokens among pieces that start at `offset`; `newline` says that a line ended since the
token before them. -/
def tokensFrom (offset : Nat) (newline : Bool) : List Piece → List Token
  | [] => []
  | piece :: rest =>
    let stop := offset + piece.text.size
    match piece.kind with
    | .token kind => ⟨kind, offset, stop, newline⟩ :: tokensFrom stop false rest
    | _ => tokensFrom stop (newline || piece.text.contains '\n') rest

/-- The tokens among the pieces of a text. -/
def tokens (pieces : List Piece) : List Token := tokensFrom 0 true pieces

end Piece

/-- The tokens of a text. -/
def tokenize (source : Text) : Except SyntaxError (List Token) :=
  match Piece.cut source with
  | .ok pieces => .ok (Piece.tokens pieces)
  | .error fault => .error ⟨source.size - fault.opening.size, .unterminated fault.what⟩

end SwiftTuples
