/-!
# Syntax errors

Why a text or a part of it cannot be read. A reading error carries its place as an offset, or none
at the end of the text; a syntax error is one whose place has been resolved.
-/

namespace SwiftTuples

/-- A construct that has to be closed. -/
inductive Construct where
  | stringLiteral
  | interpolation
  | blockComment
  | escapedName
deriving DecidableEq, Repr

/-- Why a text cannot be read. -/
inductive SyntaxCause where
  | unterminated (what : Construct)
  /-- A brace closes what no brace opened. -/
  | unexpectedBrace
  /-- A brace is opened and not closed. -/
  | unclosedBrace
  /-- A block ends with the text. -/
  | missingBrace
  | expected (c : Char)
  | expectedType
  | expectedArrow
  | expectedParameterName
  | openParameterList
  | openTupleList
  | unterminatedDefault
  | unbalanced (opening : Char)
  /-- More levels than the tokens at hand can open. -/
  | tooDeep
deriving DecidableEq, Repr

/-- A reading error at an offset, or at the end of the text. -/
structure ReadError where
  position : Option Nat
  cause : SyntaxCause
deriving DecidableEq, Repr

/-- A reading error at an offset. -/
structure SyntaxError where
  offset : Nat
  cause : SyntaxCause
deriving DecidableEq, Repr

/-- The construct in words. -/
def Construct.describe : Construct → String
  | stringLiteral => "string literal"
  | interpolation => "string interpolation"
  | blockComment => "block comment"
  | escapedName => "escaped identifier"

/-- The cause in words. -/
def SyntaxCause.describe : SyntaxCause → String
  | unterminated what => "unterminated " ++ what.describe
  | unexpectedBrace => "unexpected `\x7d`"
  | unclosedBrace => "`\x7b` is never closed"
  | missingBrace => "expected `\x7d` before end of file"
  | expected c => "expected `" ++ c.toString ++ "`"
  | expectedType => "expected type"
  | expectedArrow => "expected `->` in function type"
  | expectedParameterName => "expected parameter name"
  | openParameterList => "expected `,` or `)` in parameter list"
  | openTupleList => "expected `,` or `)` in tuple type"
  | unterminatedDefault => "unterminated default value"
  | unbalanced opening => "unbalanced `" ++ opening.toString ++ "`"
  | tooDeep => "nested too deeply"

/-- The error in words. -/
def SyntaxError.message (e : SyntaxError) : String :=
  "Parse error at byte " ++ toString e.offset ++ ": " ++ e.cause.describe

/-- The error in a text of `size` bytes. -/
def ReadError.inText (e : ReadError) (size : Nat) : SyntaxError :=
  ⟨e.position.getD size, e.cause⟩

end SwiftTuples
