import SwiftTuples.Syntax.Token
import SwiftTuples.Syntax.SyntaxError
/-!
# Parsers of token lists

A parser takes tokens from the front of a list and answers with a value and the tokens left, or
with an error at the token it stands on. Of a token's neighbours it can ask only whether the token
touches the one before it and whether that one is a dot; both are noted on the token beforehand.
-/

namespace SwiftTuples

/-- A token in its place among the others. -/
structure Placed extends Token where
  /-- Nothing stands between it and the token before it. -/
  touching : Bool
  /-- The token before it is a dot. -/
  afterDot : Bool
deriving DecidableEq, Repr

/-- Tokens in their places, after the token `before`. -/
def Placed.following (before : Option Token) : List Token → List Placed
  | [] => []
  | t :: rest =>
    { t with touching := before.any (·.stop = t.start), afterDot := before.any (·.is '.') } ::
      following (some t) rest

/-- All tokens of a text in their places. -/
def Placed.ofTokens (tokens : List Token) : List Placed := following none tokens

/-- Tokens in their places are the same tokens. -/
theorem Placed.map_toToken_following (before : Option Token) (tokens : List Token) :
    (following before tokens).map (·.toToken) = tokens := by
  induction tokens generalizing before with
  | nil => rfl
  | cons t tokens ih => exact congrArg (t :: ·) (ih (some t))

theorem Placed.length_following (before : Option Token) (tokens : List Token) :
    (following before tokens).length = tokens.length := by
  rw [← List.length_map, map_toToken_following]

/-- A parser of tokens. -/
abbrev TokenParser (α : Type) := StateT (List Placed) (Except ReadError) α

/-- The tokens start with the character `c`. -/
def startsWith (c : Char) : List Placed → Bool
  | t :: _ => t.is c
  | [] => false

/-- The tokens start with the character `c`, which touches the token before it. -/
def startsTouching (c : Char) : List Placed → Bool
  | t :: _ => t.is c && t.touching
  | [] => false

/-- The name that the tokens start with. -/
def word? : List Placed → Option String
  | t :: _ => t.name?
  | [] => none

/-- The tokens start with a name. -/
def startsWithWord (ts : List Placed) : Bool := (word? ts).isSome

namespace TokenParser

variable {α β : Type}

/-- Stops at the token at hand. -/
def fail (cause : SyntaxCause) : TokenParser α := fun ts =>
  .error ⟨ts.head?.map (·.start), cause⟩

/-- Looks at the tokens and takes none. -/
def look (f : List Placed → β) : TokenParser β := fun ts => .ok (f ts, ts)

/-- Passes over `n` tokens. -/
def skip (n : Nat) : TokenParser Unit := fun ts => .ok ((), ts.drop n)

/-- The offset of the token at hand. -/
def position : TokenParser Nat := look fun ts => (ts.head?.map (·.start)).getD 0

/-- Takes the character `c`, if it is at hand, and answers with its offset. -/
def eat (c : Char) : TokenParser (Option Nat) := fun ts =>
  match ts with
  | t :: rest => if t.is c then .ok (some t.start, rest) else .ok (none, ts)
  | [] => .ok (none, ts)

/-- Takes the character `c`, if it is at hand. -/
def eats (c : Char) : TokenParser Bool := Option.isSome <$> eat c

/-- Takes the character `c`, which has to be at hand. -/
def expect (c : Char) : TokenParser Nat := do
  match ← eat c with
  | some position => return position
  | none => fail (.expected c)

/-- Takes a name, if one is at hand. -/
def name? : TokenParser (Option String) := fun ts =>
  match ts with
  | t :: rest =>
    match t.name? with
    | some name => .ok (some name, rest)
    | none => .ok (none, ts)
  | [] => .ok (none, ts)

/-- Uses a parser if what `mark` asks for is at hand. -/
def optionally (mark : TokenParser Bool) (p : TokenParser α) : TokenParser (Option α) := do
  if ← mark then some <$> p else return none

/-- Uses a parser up to `n` times, as long as it finds something. -/
def collect (step : TokenParser (Option α)) : Nat → TokenParser (List α)
  | 0 => return []
  | n + 1 => do
    match ← step with
    | some a => return a :: (← collect step n)
    | none => return []

/-- Uses a parser as long as it finds something. What it finds has to take a token. -/
def many (step : TokenParser (Option α)) : TokenParser (List α) := fun ts =>
  collect step ts.length ts

/-- The tokens after the bracket that closes what is open: `depth` brackets, and `braces` braces
since the first of them. A brace that closes one opened earlier ends the search. -/
def closeFrom (opening closing : Char) (start : Option Nat) (depth braces : Nat) :
    List Placed → Except ReadError (List Placed)
  | [] => .error ⟨start, .unbalanced opening⟩
  | t :: rest =>
    -- such a brace closes the block that the bracket stands in
    if t.is '}' && braces = 0 then .error ⟨start, .unbalanced opening⟩
    else
      let braces := if t.is '{' then braces + 1 else if t.is '}' then braces - 1 else braces
      if t.is opening then closeFrom opening closing start (depth + 1) braces rest
      else if t.is closing then
        if depth ≤ 1 then .ok rest else closeFrom opening closing start (depth - 1) braces rest
      else closeFrom opening closing start depth braces rest

/-- Passes over the bracket at hand up to the bracket that closes it. -/
def balanced (opening closing : Char) : TokenParser Unit := fun ts =>
  match closeFrom opening closing (ts.head?.map (·.start)) 0 0 ts with
  | .ok rest => .ok ((), rest)
  | .error e => .error e

/-- Passes over parenthesised arguments that touch the token before them. -/
def arguments : TokenParser Unit := do
  if ← look (startsTouching '(') then balanced '(' ')'

/-- Passes over angle brackets, if they are at hand. -/
def angles : TokenParser Unit := do
  if ← look (startsWith '<') then balanced '<' '>'

/-- Takes an attribute, passing over its arguments. -/
def attribute? : TokenParser (Option String) := do
  match ← look fun ts => if startsWith '@' ts then word? ts.tail else none with
  | some name =>
    skip 2
    arguments
    return some name
  | none => return none

end TokenParser

end SwiftTuples
