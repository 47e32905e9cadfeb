import SwiftTuples.Syntax.Piece
import SwiftTuples.Syntax.Item.Parser
/-!
# Reading a source file

A text is read in three steps: it is cut into tokens, its braces are matched, and its items are
read.
-/

namespace SwiftTuples

/-- Matches the braces of tokens; `pending` holds the offsets of those open, the last one first. -/
def matchBraces (pending : List Nat) : List Token → Except SyntaxError Unit
  | [] =>
    match pending with
    | [] => .ok ()
    | offset :: _ => .error ⟨offset, .unclosedBrace⟩
  | t :: rest =>
    if t.is '{' then matchBraces (t.start :: pending) rest
    else if t.is '}' then
      match pending with
      | [] => .error ⟨t.start, .unexpectedBrace⟩
      | _ :: pending => matchBraces pending rest
    else matchBraces pending rest

/-- Every brace of the tokens has a partner. -/
def checkBraces (tokens : List Token) : Except SyntaxError Unit := matchBraces [] tokens

/-- The file that tokens say; the text has `size` bytes. -/
def SourceFile.ofTokens (size : Nat) (tokens : List Token) : Except SyntaxError SourceFile :=
  match (TokenParser.items (TokenParser.depth tokens.length) false []).run
      (Placed.ofTokens tokens) with
  | .ok (items, _) => .ok ⟨items⟩
  | .error e => .error (e.inText size)

/-- The file that a text says. -/
def SourceFile.parse (source : Text) : Except SyntaxError SourceFile := do
  let tokens ← tokenize source
  checkBraces tokens
  SourceFile.ofTokens source.size tokens

/-- A text is read when all three steps succeed. -/
theorem SourceFile.parse_eq_ok {source : Text} {file : SourceFile} :
    SourceFile.parse source = .ok file ↔ ∃ tokens, tokenize source = .ok tokens ∧
      checkBraces tokens = .ok () ∧ SourceFile.ofTokens source.size tokens = .ok file := by
  simp only [SourceFile.parse, bind, Except.bind]
  cases tokenize source with
  | error e => simp
  | ok tokens => cases h : checkBraces tokens <;> simp [h]

end SwiftTuples
