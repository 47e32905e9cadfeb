import SwiftTuples.Text.Basic
/-!
# Styled texts

Output is made of rows, and a row of spans, each with its style. Written plainly a row is its
texts; written with colour every span that has a style stands between the codes that turn the style
on and off.
-/

namespace SwiftTuples

/-- How a span looks on a terminal. -/
inductive Style where
  | plain
  | red
  | yellow
  | green
  | boldRed
  | boldYellow
  | boldGreen
  | blue
  | cyan
  | faint
deriving DecidableEq, Repr

/-- The parameters of the control sequence that turns a style on. -/
def Style.codes? : Style → Option String
  | plain => none
  | red => some "31"
  | yellow => some "33"
  | green => some "32"
  | boldRed => some "1;31"
  | boldYellow => some "1;33"
  | boldGreen => some "1;32"
  | blue => some "34"
  | cyan => some "36"
  | faint => some "2"

/-- A text with its style. -/
structure Span where
  style : Style
  text : Text
deriving DecidableEq, Repr

/-- Spans that stand in one row. -/
abbrev Row := List Span

/-- The control sequence with the given parameters. -/
def sequence (codes : String) : Text := ['\x1b', '['] ++ codes.toList ++ ['m']

/-- The control sequence that turns every style off. -/
def reset : Text := ['\x1b', '[', '0', 'm']

/-- The text with `again` after every sequence in it that turns looks off. -/
def resume (again : Text) : Text → Text
  | '\x1b' :: '[' :: '0' :: 'm' :: rest => reset ++ again ++ resume again rest
  | c :: rest => c :: resume again rest
  | [] => []

namespace Span

/-- The span as it is written, with colour or without. -/
def write (colour : Bool) (s : Span) : Text :=
  match colour, s.style.codes? with
  | true, some codes => sequence codes ++ resume (sequence codes) s.text ++ reset
  | _, _ => s.text

/-- A span without a style. -/
def bare (text : String) : Span := ⟨.plain, text.toList⟩

end Span

/-- The row as it is written, with its end. -/
def Row.write (colour : Bool) (row : Row) : Text := row.flatMap (Span.write colour) ++ ['\n']

/-- The rows as they are written, one below the other. -/
def Row.writeAll (colour : Bool) (rows : List Row) : Text := rows.flatMap (Row.write colour)

end SwiftTuples
