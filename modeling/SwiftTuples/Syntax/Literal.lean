import SwiftTuples.Text.Basic
import SwiftTuples.Unicode.Alphabetic
import SwiftTuples.Unicode.Number
import SwiftTuples.Syntax.SyntaxError
/-!
# Literals and comments

How far a comment, a number, a string or a regular expression reaches. Each function counts
characters and looks at nothing else, so what follows a literal is the text less that many
characters, and a scan that goes on there is on a shorter text whatever the count was.

Strings nest: an interpolation inside a string may hold strings of its own.
-/

namespace SwiftTuples

/-- A construct that the text ends in, and the text from its opening on. -/
structure Unterminated where
  what : Construct
  opening : Text

/-- A letter, a digit or another number. -/
def isAlphanumeric (c : Char) : Bool := Unicode.isAlphabetic c || Unicode.isNumber c

/-- A character that a name starts with. -/
def isNameStart (c : Char) : Bool := c = '_' || c = '$' || Unicode.isAlphabetic c

/-- A character that a name goes on with. -/
def isNamePart (c : Char) : Bool := c = '_' || c = '$' || isAlphanumeric c

namespace Literal

/-- Characters up to the end of a block comment, inside `depth` further ones; `seen` have been
passed. Block comments nest. -/
def blockComment (depth seen : Nat) : Text → Option Nat
  | '*' :: '/' :: rest =>
    match depth with
    | 0 => some (seen + 2)
    | depth + 1 => blockComment depth (seen + 2) rest
  | '/' :: '*' :: rest => blockComment (depth + 1) (seen + 2) rest
  | _ :: rest => blockComment depth (seen + 1) rest
  | [] => none

/-- Characters of a number; a point belongs to it only before a digit. -/
def number (seen : Nat) : Text → Nat
  | [] => seen
  | c :: rest =>
    if isAlphanumeric c || c = '_' || (c = '.' && rest.head?.any Char.isDigit) then
      number (seen + 1) rest
    else seen

/-- Characters up to the end of a regular expression between slashes that carry `hashes` marks. -/
def regexBody (hashes seen : Nat) : Text → Option Nat
  | [] => none
  | ['\\'] => none
  | '\\' :: _ :: rest => regexBody hashes (seen + 2) rest
  | c :: rest =>
    -- only hash marks let an expression span lines
    if c = '\n' && hashes = 0 then none
    else if c = '/' && (List.replicate hashes '#').isPrefixOf rest then some (seen + 1 + hashes)
    else regexBody hashes (seen + 1) rest

/-- Hash marks at the front of a text. -/
def hashes (t : Text) : Nat := (t.takeWhile (· = '#')).length

/-- Characters of the regular expression at the front of a text, if it is closed. Without hash
marks it neither starts with a blank nor spans lines. -/
def regex (t : Text) : Option Nat :=
  let marks := hashes t
  match t.drop marks with
  | '/' :: body =>
    if marks = 0 && body.head?.any Unicode.isBlank then none
    else regexBody marks (marks + 1) body
  | _ => none

/-- How a string literal is delimited. -/
structure Delimiter where
  hashes : Nat
  multiline : Bool
deriving DecidableEq, Repr

namespace Delimiter

/-- The quotes on either side. -/
def quotes (d : Delimiter) : Text := if d.multiline then ['"', '"', '"'] else ['"']

/-- What closes the literal. -/
def closing (d : Delimiter) : Text := d.quotes ++ List.replicate d.hashes '#'

/-- What an escape begins with. -/
def escape (d : Delimiter) : Text := '\\' :: List.replicate d.hashes '#'

/-- Hash marks and quotes at the front of a text. -/
def atFront (t : Text) : Delimiter :=
  let marks := Literal.hashes t
  ⟨marks, ['"', '"', '"'].isPrefixOf (t.drop marks)⟩

/-- The length of what opens the literal. -/
def openingLength (d : Delimiter) : Nat := d.hashes + d.quotes.length

end Delimiter

mutual

/-- Characters up to the end of a string literal that is open; `seen` have been passed. -/
def stringBody (d : Delimiter) (opening : Text) (seen : Nat) (t : Text) :
    Except Unterminated Nat :=
  match t with
  | [] => .error ⟨.stringLiteral, opening⟩
  | c :: rest =>
    if d.closing.isPrefixOf (c :: rest) then .ok (seen + d.closing.length)
    else if d.escape.isPrefixOf (c :: rest) then
      match _h : rest.drop d.hashes with
      | [] => .error ⟨.stringLiteral, opening⟩
      | e :: after =>
        if e = '(' then
          -- what is interpolated may hold quotes, so it is passed over as a whole
          match interpolation 0 (e :: after) 0 after with
          | .error fault => .error fault
          | .ok n => stringBody d opening (seen + d.hashes + 2 + n) (after.drop n)
        else stringBody d opening (seen + d.hashes + 2) after
    else if c = '\n' && !d.multiline then .error ⟨.stringLiteral, opening⟩
    else stringBody d opening (seen + 1) rest
termination_by t.length
decreasing_by
  all_goals
    -- what follows an escape is a tail of what follows its hash marks, as `_h` says
    simp only [List.length_cons, List.length_drop]
    try have := congrArg List.length _h
    try simp only [List.length_cons, List.length_drop] at this
    omega

/-- Characters up to the end of an interpolation that is open, inside `depth` further
parentheses; `seen` have been passed. -/
def interpolation (depth : Nat) (opening : Text) (seen : Nat) (t : Text) :
    Except Unterminated Nat :=
  match t with
  | [] => .error ⟨.interpolation, opening⟩
  | c :: rest =>
    if c = '(' then interpolation (depth + 1) opening (seen + 1) rest
    else if c = ')' then
      match depth with
      | 0 => .ok (seen + 1)
      | depth + 1 => interpolation depth opening (seen + 1) rest
    else if c = '"' then
      -- hash marks before the quote were passed over as text, so the string has none
      let d := Delimiter.atFront (c :: rest)
      let quotes := d.quotes.length - 1
      match stringBody d (c :: rest) quotes (rest.drop quotes) with
      | .error fault => .error fault
      | .ok n => interpolation depth opening (seen + 1 + n) (rest.drop n)
    else interpolation depth opening (seen + 1) rest
termination_by t.length
decreasing_by
  all_goals
    simp only [List.length_cons, List.length_drop]
    omega

end

/-- Characters of the string literal at the front of a text. -/
def string (t : Text) : Except Unterminated Nat :=
  let d := Delimiter.atFront t
  stringBody d t d.openingLength (t.drop d.openingLength)

/-- A string literal with hash marks is at the front of the text. -/
def isRawString (t : Text) : Bool := (t.dropWhile (· = '#')).head? = some '"'

end Literal

end SwiftTuples
