import SwiftTuples.Syntax.TypeExpr
import SwiftTuples.Syntax.TokenParser
/-!
# Reading types

A type is read by levels: specifiers, parts joined by `&`, suffixes, and what they are put on. A
parenthesised list is a tuple unless effects or an arrow follow; then it holds the parameters of a
function type. The number that each level takes bounds the levels below it; `TokenParser.depth`
of the tokens at hand is more than they can open.
-/

namespace SwiftTuples

/-- The token opens a bracket of any kind. -/
def Placed.opens (t : Placed) : Bool := t.is '(' || t.is '[' || t.is '{'

/-- The token closes a bracket of any kind. -/
def Placed.closes (t : Placed) : Bool := t.is ')' || t.is ']' || t.is '}'

namespace TokenParser

/-- More levels than the tokens can open, for `count` of them. -/
def depth (count : Nat) : Nat := 16 * (count + 1)

/-- The tokens from the comma or parenthesis on that ends a default value, `open` brackets of it
being open. -/
def defaultEnd (start : Option Nat) (pending : Nat) : List Placed → Except ReadError (List Placed)
  | [] => .error ⟨start, .unterminatedDefault⟩
  | t :: rest =>
    if t.opens then defaultEnd start (pending + 1) rest
    else if t.closes && 0 < pending then defaultEnd start (pending - 1) rest
    -- what ends the value belongs to the list and is left to its reader
    else if pending = 0 && (t.is ',' || t.is ')') then .ok (t :: rest)
    else if t.closes then .error ⟨start, .unterminatedDefault⟩
    else defaultEnd start pending rest

/-- Passes over the three dots of a variadic element and over a default value. -/
def trailer : TokenParser Unit := fun ts =>
  let ts :=
    if startsWith '.' ts && startsWith '.' (ts.drop 1) && startsWith '.' (ts.drop 2) then ts.drop 3
    else ts
  if startsWith '=' ts then
    match defaultEnd (ts.head?.map (·.start)) 0 ts with
    | .ok rest => .ok ((), rest)
    | .error e => .error e
  else .ok ((), ts)

/-- The label that the tokens start with, and the tokens after it. -/
def labelAt : List Placed → Option (Label × List Placed)
  | t :: u :: rest =>
    match t.name? with
    | none => none
    | some first =>
      if u.is ':' then some (⟨first, none, u.start⟩, rest)
      else
        -- two names are a label only if a colon follows them
        match u.name?, rest with
        | some second, v :: rest =>
          if v.is ':' then some (⟨first, some second, v.start⟩, rest) else none
        | _, _ => none
  | _ => none

/-- Takes the label of an element, if there is one. -/
def label? : TokenParser (Option Label) := fun ts =>
  match labelAt ts with
  | some (label, rest) => .ok (some label, rest)
  | none => .ok (none, ts)

/-- A type can begin with these tokens, for a word before them to be a specifier. -/
def startsSpecified (ts : List Placed) : Bool :=
  startsWithWord ts || startsWith '(' ts || startsWith '[' ts

/-- Takes a specifier. A word is one only if a type can follow it. -/
def specifier? : TokenParser (Option Specifier) := do
  match ← attribute? with
  | some name => return some (.attribute name)
  | none =>
    if ← look fun ts => startsWith '~' ts && startsWithWord ts.tail then
      skip 1
      return some .suppression
    else
      match ← look word? with
      | some word =>
        if Specifier.words.contains word && (← look fun ts => startsSpecified ts.tail) then
          skip 1
          return some (.word word)
        else return none
      | none => return none

/-- An effect of a function. -/
inductive Effect where
  | async
  | throws
deriving DecidableEq

/-- The effect that a word names. -/
def Effect.ofWord? (word : String) : Option Effect :=
  if word = "async" then some .async
  else if word = "throws" || word = "rethrows" then some .throws
  else none

/-- Takes an effect, passing over the type of what is thrown. -/
def effect? : TokenParser (Option Effect) := do
  match (← look word?).bind Effect.ofWord? with
  | some .async =>
    skip 1
    return some .async
  | some .throws =>
    skip 1
    arguments
    return some .throws
  | none => return none

/-- Takes all effects at hand. -/
def effects : TokenParser Effects := do
  let found ← many effect?
  return ⟨found.contains .async, found.contains .throws⟩

/-- Takes an arrow, if it is at hand. -/
def arrow : TokenParser Bool := fun ts =>
  match ts with
  | t :: rest => if t.kind = .arrow then .ok (true, rest) else .ok (false, ts)
  | [] => .ok (false, ts)

/-- An arrow is at hand, or an effect on the same line that does not begin an `async let`. -/
def startsFunction : List Placed → Bool
  | [] => false
  | t :: rest =>
    t.kind = .arrow ||
      ((t.name?.bind Effect.ofWord?).isSome && !t.newlineBefore &&
        !(word? rest = some "let" || word? rest = some "var"))

/-- Takes the mark of an optional type, which touches the type. -/
def optionalMark? : TokenParser (Option OptionalMark) := do
  if ← look (startsTouching '?') then
    skip 1
    return some .question
  else if ← look (startsTouching '!') then
    skip 1
    return some .exclamation
  else return none

/-- Takes a dot and the name after it. -/
def memberName? : TokenParser (Option String) := do
  match ← look fun ts => if startsWith '.' ts then word? ts.tail else none with
  | some name =>
    skip 2
    return some name
  | none => return none

mutual

/-- A type with its specifiers. -/
def typeExpr : Nat → TokenParser TypeExpr
  | 0 => fail .tooDeep
  | n + 1 => do
    let position ← position
    let specifiers ← many specifier?
    let base ← composition n
    return if specifiers.isEmpty then base else .attributed position specifiers base

/-- Types joined by `&`. -/
def composition : Nat → TokenParser TypeExpr
  | 0 => fail .tooDeep
  | n + 1 => do
    let position ← position
    let first ← suffixed n
    match ← conjuncts n with
    | [] => return first
    | others => return .composition position (first :: others)

/-- The parts of a composition after the first. -/
def conjuncts : Nat → TokenParser (List TypeExpr)
  | 0 => fail .tooDeep
  | n + 1 => do
    if ← eats '&' then
      let part ← suffixed n
      return part :: (← conjuncts n)
    else return []

/-- A type with its suffixes. -/
def suffixed : Nat → TokenParser TypeExpr
  | 0 => fail .tooDeep
  | n + 1 => do
    let position ← position
    let base ← primary n
    suffixes n position base

/-- The suffixes of a type that starts at `position`. -/
def suffixes : Nat → Nat → TypeExpr → TokenParser TypeExpr
  | 0, _, _ => fail .tooDeep
  | n + 1, position, base => do
    match ← optionalMark? with
    | some mark => suffixes n position (.optional position base mark)
    | none =>
      match ← memberName? with
      | some name =>
        let arguments ← genericArguments n
        suffixes n position (.member position base name arguments)
      | none => return base

/-- A name, a parenthesised list, an array or a dictionary. -/
def primary : Nat → TokenParser TypeExpr
  | 0 => fail .tooDeep
  | n + 1 => do
    let position ← position
    match ← name? with
    | some name => return .named position name (← genericArguments n)
    | none =>
      if ← eats '(' then parenthesized n position
      else if ← eats '[' then bracketed n position
      else fail .expectedType

/-- A tuple or a function type, its parenthesis having been taken. -/
def parenthesized : Nat → Nat → TokenParser TypeExpr
  | 0, _ => fail .tooDeep
  | n + 1, position => do
    let elements ← elements n
    -- before effects or an arrow the elements were the parameters of a function type
    if ← look startsFunction then
      let effects ← effects
      if ← arrow then
        return .function position elements effects (← typeExpr n)
      else fail .expectedArrow
    else return .tuple position elements

/-- An array or a dictionary, its bracket having been taken. -/
def bracketed : Nat → Nat → TokenParser TypeExpr
  | 0, _ => fail .tooDeep
  | n + 1, position => do
    let first ← typeExpr n
    let value ← optionally (eats ':') (typeExpr n)
    let _ ← expect ']'
    match value with
    | some value => return .dictionary position first value
    | none => return .array position first

/-- The generic arguments of a name, whose bracket touches it. -/
def genericArguments : Nat → TokenParser (List TypeExpr)
  | 0 => fail .tooDeep
  | n + 1 => do
    if ← look (startsTouching '<') then
      skip 1
      let arguments ← types n
      let _ ← expect '>'
      return arguments
    else return []

/-- Types between commas. -/
def types : Nat → TokenParser (List TypeExpr)
  | 0 => fail .tooDeep
  | n + 1 => do
    let first ← typeExpr n
    if ← eats ',' then return first :: (← types n)
    else return [first]

/-- The elements of a parenthesised list and the parenthesis after them. -/
def elements : Nat → TokenParser (List (Element TypeExpr))
  | 0 => fail .tooDeep
  | n + 1 => do
    if ← eats ')' then return []
    let label ← label?
    let type ← typeExpr n
    trailer
    if ← eats ',' then return ⟨label, type⟩ :: (← elements n)
    else if ← eats ')' then return [⟨label, type⟩]
    else fail .openTupleList

end

end TokenParser

end SwiftTuples
