import SwiftTuples.Toml.Value
/-!
# Reading the parts of a TOML document

Blanks, comments, keys, strings, numbers and dates, character by character. A reader answers with
what it found and the text after it, or with nothing.
-/

namespace SwiftTuples.Toml

/-- A reader of TOML text. -/
abbrev Reader (α : Type) := StateT (List Char) Option α

namespace Reader

variable {α : Type}

/-- The text cannot be read. -/
def refuse : Reader α := fun _ => none

/-- The text left. -/
def rest : Reader (List Char) := fun t => some (t, t)

/-- Goes on with another text. -/
def goOn (t : List Char) : Reader Unit := fun _ => some ((), t)

/-- The character at hand. -/
def peek : Reader (Option Char) := fun t => some (t.head?, t)

/-- Takes a character. -/
def take : Reader Char := fun t =>
  match t with
  | c :: rest => some (c, rest)
  | [] => none

/-- Takes the characters at hand that have a property. -/
def takeWhile (p : Char → Bool) : Reader (List Char) := fun t =>
  some (t.takeWhile p, t.dropWhile p)

/-- Takes a given text, if it is at hand. -/
def eats (text : List Char) : Reader Bool := fun t =>
  if text.isPrefixOf t then some (true, t.drop text.length) else some (false, t)

/-- Takes a given text, which has to be at hand. -/
def expect (text : List Char) : Reader Unit := fun t =>
  if text.isPrefixOf t then some ((), t.drop text.length) else none

/-- Uses a reader up to `n` times, as long as it finds something. -/
def collect (step : Reader (Option α)) : Nat → Reader (List α)
  | 0 => return []
  | n + 1 => do
    match ← step with
    | some a => return a :: (← collect step n)
    | none => return []

/-- Uses a reader as long as it finds something. What it finds has to take a character. -/
def many (step : Reader (Option α)) : Reader (List α) := fun t => collect step t.length t

/-! ## Layout -/

/-- A blank inside a line. -/
def isBlank (c : Char) : Bool := c = ' ' || c = '\t'

/-- A character that may stand in a comment. -/
def isCommentChar (c : Char) : Bool := c = '\t' || (' ' ≤ c && c ≠ '\x7f')

/-- Passes over blanks inside a line. -/
def blanks : Reader Unit := do
  let _ ← takeWhile isBlank

/-- Takes a line end, if one is at hand. -/
def lineEnd : Reader Bool := do
  if ← eats ['\n'] then return true else eats ['\r', '\n']

/-- Takes a comment, if one is at hand. -/
def comment : Reader Bool := do
  if ← eats ['#'] then
    let _ ← takeWhile isCommentChar
    return true
  else return false

/-- Passes over blanks, a comment and the end of the line, which has to come then. -/
def restOfLine : Reader Unit := do
  blanks
  let _ ← comment
  if (← rest).isEmpty then return ()
  else if ← lineEnd then return ()
  else refuse

/-- Takes a blank, a line end or a comment. -/
def layout? : Reader (Option Unit) := do
  match ← peek with
  | some c =>
    if isBlank c then
      let _ ← take
      return some ()
    else if ← comment then return some ()
    else if ← lineEnd then return some ()
    else return none
  | none => return none

/-- Passes over blanks, line ends and comments. -/
def layout : Reader Unit := do
  let _ ← many layout?

/-! ## Strings -/

/-- The value of a hexadecimal digit. -/
def hexValue? (c : Char) : Option Nat :=
  if c.isDigit then some (c.toNat - 48)
  else if 'a' ≤ c && c ≤ 'f' then some (c.toNat - 87)
  else if 'A' ≤ c && c ≤ 'F' then some (c.toNat - 55)
  else none

/-- Takes the character whose number is written with `count` digits. -/
def hexChar (count : Nat) : Reader Char := do
  let t ← rest
  let digits := t.take count
  match digits.foldlM (fun n c => (hexValue? c).map (16 * n + ·)) 0 with
  | some n =>
    if digits.length = count && decide n.isValidChar then
      goOn (t.drop count)
      return Char.ofNat n
    else refuse
  | none => refuse

/-- Takes what an escape stands for, its backslash having been taken. -/
def escape : Reader Char := do
  match ← take with
  | 'b' => return '\x08'
  | 't' => return '\t'
  | 'n' => return '\n'
  | 'f' => return '\x0c'
  | 'r' => return '\r'
  | '"' => return '"'
  | '\\' => return '\\'
  | 'u' => hexChar 4
  | 'U' => hexChar 8
  | _ => refuse

/-- Takes a character of a string of one line up to `quote`; with `escapes` a backslash escapes. -/
def lineChar? (quote : Char) (escapes : Bool) : Reader (Option Char) := do
  match ← peek with
  | none => refuse
  | some c =>
    if c = quote then return none
    else if c = '\\' && escapes then
      let _ ← take
      return some (← escape)
    else if isCommentChar c then return some (← take)
    else refuse

/-- Takes a string of one line between quotes. -/
def lineString (quote : Char) (escapes : Bool) : Reader String := do
  expect [quote]
  let text ← many (lineChar? quote escapes)
  expect [quote]
  return String.ofList text

/-- A line end, after blanks, follows a backslash. -/
def continues (t : List Char) : Bool :=
  let t := t.dropWhile isBlank
  ['\n'].isPrefixOf t || ['\r', '\n'].isPrefixOf t

/-- Takes a blank or a line end. -/
def space? : Reader (Option Unit) := do
  if ← lineEnd then return some ()
  else if (← peek).any isBlank then
    let _ ← take
    return some ()
  else return none

/-- Takes what stands in a string of several lines up to three quotes. A backslash before a line
end takes the line end away with the blanks around it. -/
def blockChars? (quote : Char) (escapes : Bool) : Reader (Option (List Char)) := do
  match ← rest with
  | [] => refuse
  | c :: after =>
    if [quote, quote, quote].isPrefixOf (c :: after) then return none
    else if c = '\\' && escapes then
      goOn after
      if continues after then
        let _ ← many space?
        return some []
      else return some [← escape]
    else if ← lineEnd then return some ['\n']
    else if isCommentChar c then return some [← take]
    else refuse

/-- Takes a string of several lines. A line end right at its start is not part of it, and up to
two quotes may stand right before those that close it. -/
def blockString (quote : Char) (escapes : Bool) : Reader String := do
  expect [quote, quote, quote]
  let _ ← lineEnd
  let text ← many (blockChars? quote escapes)
  expect [quote, quote, quote]
  let more ← takeWhile (· = quote)
  if 2 < more.length then refuse
  return String.ofList (text.flatten ++ more)

/-- Takes a string of any form. -/
def string : Reader String := do
  let t ← rest
  if ['"', '"', '"'].isPrefixOf t then blockString '"' true
  else if ['\'', '\'', '\''].isPrefixOf t then blockString '\'' false
  else if ['"'].isPrefixOf t then lineString '"' true
  else lineString '\'' false

/-! ## Keys -/

/-- A character of a key without quotes. -/
def isKeyChar (c : Char) : Bool := c.isAlphanum || c = '_' || c = '-'

/-- Takes one part of a key. -/
def keyPart : Reader String := do
  match ← peek with
  | some '"' => lineString '"' true
  | some '\'' => lineString '\'' false
  | _ =>
    let name ← takeWhile isKeyChar
    if name.isEmpty then refuse else return String.ofList name

/-- Takes a further part of a key, after a dot. -/
def nextKeyPart? : Reader (Option String) := do
  if ← eats ['.'] then
    blanks
    let part ← keyPart
    blanks
    return some part
  else return none

/-- Keys have fewer parts than this, and values nest less deeply. -/
def nestingLimit : Nat := 80

/-- Takes a key with the blanks around it. -/
def key : Reader (List String) := do
  blanks
  let first ← keyPart
  blanks
  let parts := first :: (← many nextKeyPart?)
  if parts.length < nestingLimit then return parts else refuse

/-! ## Numbers and dates -/

/-- Digits between which single underscores may stand; at least one digit. -/
def digitRun (isDigit : Char → Bool) : Reader (List Char) := do
  let t ← takeWhile fun c => isDigit c || c = '_'
  let separated := t.zip (t.drop 1)
  if t.isEmpty || t.head? = some '_' || t.getLast? = some '_' ||
      separated.any fun (a, b) => a = '_' && b = '_' then refuse
  else return t.filter (· ≠ '_')

/-- Takes a sign; true if it is a minus. -/
def sign : Reader Bool := do
  if ← eats ['-'] then return true
  else
    let _ ← eats ['+']
    return false

/-- The number that digits of a base say. -/
def ofDigits (base : Nat) (digits : List Char) : Nat :=
  digits.foldl (fun n c => base * n + (hexValue? c).getD 0) 0

/-- Takes digits without a zero at the front, unless zero is all. -/
def wholeDigits : Reader (List Char) := do
  if ← eats ['0'] then return ['0'] else digitRun Char.isDigit

/-- An integer between the bounds of 64 bits. -/
def bounded (n : Int) : Reader Value := do
  if Int64.minValue.toInt ≤ n && n ≤ Int64.maxValue.toInt then return .integer n else refuse

/-- A digit of base 8. -/
def isOctal (c : Char) : Bool := '0' ≤ c && c ≤ '7'

/-- A digit of base 2. -/
def isBinary (c : Char) : Bool := c = '0' || c = '1'

/-- Takes an integer. -/
def integer : Reader Value := do
  if ← eats ['0', 'x'] then
    bounded (ofDigits 16 (← digitRun fun c => (hexValue? c).isSome))
  else if ← eats ['0', 'o'] then bounded (ofDigits 8 (← digitRun isOctal))
  else if ← eats ['0', 'b'] then bounded (ofDigits 2 (← digitRun isBinary))
  else
    let negative ← sign
    let n : Int := ofDigits 10 (← wholeDigits)
    bounded (if negative then -n else n)

/-- Takes the digits after a point, if there is one. -/
def fraction? : Reader (Option (List Char)) := do
  if ← eats ['.'] then return some (← digitRun Char.isDigit) else return none

/-- Takes an exponent, if there is one. -/
def exponent? : Reader (Option Int) := do
  if (← peek) = some 'e' || (← peek) = some 'E' then
    let _ ← take
    let negative ← sign
    let n : Int := ofDigits 10 (← digitRun Char.isDigit)
    return some (if negative then -n else n)
  else return none

/-- Takes a float. One that is too large is refused above zero. -/
def float : Reader Value := do
  let negative ← sign
  if ← eats ['i', 'n', 'f'] then return .float (.infinite negative)
  else if ← eats ['n', 'a', 'n'] then return .float .nan
  else
    let whole ← wholeDigits
    let part ← fraction?
    let exponent ← exponent?
    if part.isNone && exponent.isNone then refuse
    let places := part.getD []
    let decimal : Decimal.Scaled :=
      ⟨ofDigits 10 (whole ++ places), exponent.getD 0 - places.length⟩
    match decimal.toBinary? with
    | some magnitude => return .float (.finite negative magnitude)
    | none => if negative then return .float (.infinite true) else refuse

/-- Takes a number of exactly `count` digits between bounds. -/
def twoBounds (count least most : Nat) : Reader Nat := do
  let t ← rest
  let digits := t.take count
  let n := ofDigits 10 digits
  if digits.length = count && digits.all Char.isDigit && least ≤ n && n ≤ most then
    goOn (t.drop count)
    return n
  else refuse

/-- The days of a month. -/
def daysOf (year month : Nat) : Nat :=
  if month = 2 then
    if year % 4 = 0 && (year % 100 ≠ 0 || year % 400 = 0) then 29 else 28
  else if month = 4 || month = 6 || month = 9 || month = 11 then 30
  else 31

/-- Takes a date. -/
def fullDate : Reader Unit := do
  let year ← twoBounds 4 0 9999
  expect ['-']
  let month ← twoBounds 2 1 12
  expect ['-']
  let _ ← twoBounds 2 1 (daysOf year month)

/-- Takes a time. -/
def fullTime : Reader Unit := do
  let _ ← twoBounds 2 0 23
  expect [':']
  let _ ← twoBounds 2 0 59
  expect [':']
  let _ ← twoBounds 2 0 60
  if ← eats ['.'] then
    let digits ← takeWhile Char.isDigit
    if digits.isEmpty then refuse

/-- Takes the offset of a time, if there is one. -/
def offset : Reader Unit := do
  match ← peek with
  | some c =>
    if c = 'Z' || c = 'z' then
      let _ ← take
    else if c = '+' || c = '-' then
      let _ ← take
      let _ ← twoBounds 2 0 23
      expect [':']
      let _ ← twoBounds 2 0 59
    else return ()
  | none => return ()

/-- Takes a time after a date, if there is one. -/
def timeAfterDate : Reader Unit := do
  match ← peek with
  | some c =>
    if c = 'T' || c = 't' || c = ' ' then
      (do
        let _ ← take
        fullTime
        offset) <|> return ()
    else return ()
  | none => return ()

/-- Takes a date, a time or both. -/
def date : Reader Value := do
  let before ← rest
  (do
    fullDate
    timeAfterDate) <|> fullTime
  let after ← rest
  return .date (String.ofList (before.take (before.length - after.length)))

end Reader

end SwiftTuples.Toml
