import SwiftTuples.Syntax.Item
import SwiftTuples.Syntax.TypeExpr.Parser
/-!
# Reading items

Items are read one after the other. Where neither a declaration nor a cast can be read, one token
is passed over and reading goes on after it, so a declaration that is malformed hides nothing but
itself. Only braces stop the whole: one that closes nothing, or a block that the text ends in.
-/

namespace SwiftTuples

namespace TokenParser

/-- Words that may stand before the keyword of a declaration. -/
def modifiers : List String :=
  ["public", "private", "fileprivate", "internal", "open", "package", "static", "final",
   "override", "mutating", "nonmutating", "lazy", "weak", "unowned", "convenience", "required",
   "dynamic", "optional", "indirect", "nonisolated", "prefix", "postfix", "infix", "distributed"]

/-- Keywords of declarations. -/
def declarationWords : List String :=
  ["let", "var", "func", "init", "subscript", "typealias", "struct", "class", "enum", "protocol",
   "extension", "actor"]

/-- The tokens start with a word that can begin a declaration. -/
def startsDeclaration (ts : List Placed) : Bool :=
  (word? ts).any fun word => declarationWords.contains word || modifiers.contains word

/-- Takes an attribute or a modifier, passing over its arguments. The word `class` is a modifier
only before another word of a declaration. -/
def modifier? : TokenParser (Option Unit) := do
  match ← attribute? with
  | some _ => return some ()
  | none =>
    match ← look word? with
    | none => return none
    | some word =>
      if modifiers.contains word then
        skip 1
        arguments
        return some ()
      else if word = "class" && (← look fun ts => startsDeclaration ts.tail) then
        skip 1
        return some ()
      else return none

/-- Takes what a binding introduces. -/
def binder? : TokenParser (Option Binder) := do
  match ← name? with
  | some name => return some (.name name)
  | none =>
    if ← look (startsWith '(') then
      balanced '(' ')'
      return some .pattern
    else return none

/-- The tokens start with a colon, and a type can begin after it on the same line. -/
def startsDeclaredType : List Placed → Bool
  | t :: u :: _ =>
    t.is ':' && !u.newlineBefore && (u.name?.isSome || u.is '(' || u.is '[' || u.is '@')
  | _ => false

/-- The tokens start with a comma, and another binding can begin after it. -/
def startsNextBinding (ts : List Placed) : Bool :=
  startsWith ',' ts && (startsWithWord ts.tail || startsWith '(' ts.tail)

/-- Takes the colon before a declared type. -/
def declaredColon : TokenParser Bool := do
  if ← look startsDeclaredType then
    skip 1
    return true
  else return false

/-- The bindings of a variable declaration that starts at `position`. -/
def bindings : Nat → Nat → TokenParser (List Item)
  | 0, _ => fail .tooDeep
  | n + 1, position => do
    match ← binder? with
    | none => return []
    | some binder =>
      let declared ← optionally declaredColon (typeExpr n)
      if ← look startsNextBinding then
        skip 1
        -- all bindings of one declaration start where it starts
        return .variable position binder declared :: (← bindings n position)
      else return [.variable position binder declared]

/-- The name of an operator: characters up to a parenthesis or a brace, or up to an angle bracket
that is not its first. -/
def operatorName (isFirst : Bool) : List Placed → List Char × List Placed
  | [] => ([], [])
  | t :: rest =>
    match t.kind with
    | .punct c =>
      -- an operator may begin with an angle bracket; a later one opens generic parameters
      if c = '(' || c = '{' || (c = '<' && !isFirst) then ([], t :: rest)
      else
        let (more, left) := operatorName false rest
        (c :: more, left)
    | _ => ([], t :: rest)

/-- Takes the name of an operator; there may be none. -/
def operator : TokenParser String := fun ts =>
  let (name, rest) := operatorName true ts
  .ok (String.ofList name, rest)

/-- Takes the name of a function; `keyword` is the keyword of its declaration. -/
def functionName (keyword : String) : TokenParser String := do
  if keyword = "func" then
    match ← name? with
    | some name => return name
    | none => operator
  else
    let _ ← optionalMark?
    return keyword

/-- Takes the names of a parameter; there has to be one. -/
def parameterNames : TokenParser (List String) := do
  match ← many name? with
  | [] => fail .expectedParameterName
  | names => return names

/-- The parameters of a function declaration and the parenthesis after them. -/
def parameters : Nat → TokenParser (List Parameter)
  | 0 => fail .tooDeep
  | n + 1 => do
    if ← eats ')' then return []
    let _ ← many attribute?
    let names ← parameterNames
    let _ ← expect ':'
    let type ← typeExpr n
    trailer
    if ← eats ',' then return ⟨names, type⟩ :: (← parameters n)
    else if ← eats ')' then return [⟨names, type⟩]
    else fail .openParameterList

/-- Takes what relates both sides of a requirement; it says whether they are the same type. -/
def relation : TokenParser Bool := do
  if ← look fun ts => startsWith '=' ts && startsWith '=' ts.tail then
    skip 2
    return true
  else
    let _ ← expect ':'
    return false

/-- The requirements of a `where` clause, its keyword having been taken. -/
def requirements : Nat → TokenParser (List Requirement)
  | 0 => fail .tooDeep
  | n + 1 => do
    let subject ← typeExpr n
    let sameType ← relation
    let constraint ← typeExpr n
    if ← eats ',' then return ⟨subject, sameType, constraint⟩ :: (← requirements n)
    else return [⟨subject, sameType, constraint⟩]

/-- The requirements of a `where` clause, if there is one. -/
def whereClause (n : Nat) : TokenParser (List Requirement) := do
  if ← look fun ts => word? ts == some "where" then
    skip 1
    requirements n
  else return []

/-- The parts of a dotted name and the tokens after it. -/
def dottedName : List Placed → List String × List Placed
  | [] => ([], [])
  | t :: rest =>
    match t.name? with
    | none => ([], t :: rest)
    | some part =>
      match rest with
      | dot :: more =>
        if dot.is '.' && startsWithWord more then
          let (parts, left) := dottedName more
          (part :: parts, left)
        else ([part], rest)
      | [] => ([part], [])

/-- Takes the name of a type declaration. -/
def nominalName : TokenParser String := fun ts =>
  let (parts, rest) := dottedName ts
  .ok (".".intercalate parts, rest)

/-- The types after the colon of a type declaration. -/
def inherited (n : Nat) : TokenParser (List TypeExpr) := do
  if ← eats ':' then types n else return []

/-- A type alias that starts at `position`, its keyword being at hand. -/
def typeAlias (n position : Nat) : TokenParser (Option (List Item)) := do
  skip 1
  match ← name? with
  | none => return none
  | some name =>
    angles
    if ← eats '=' then return some [.alias position name (← typeExpr n)]
    else return none

/-- Takes the mark of a cast, if it is at hand. A type test takes none. -/
def castOperator : CastOperator → TokenParser CastOperator
  | .cast => do
    match ← optionalMark? with
    | some .question => return .optionalCast
    | some .exclamation => return .forcedCast
    | none => return .cast
  | operator => return operator

/-- A cast; `operator` is the one that its word alone means. -/
def castExpr (n : Nat) (operator : CastOperator) : TokenParser (List Item) := do
  let position ← position
  skip 1
  let operator ← castOperator operator
  return [.cast position operator (← typeExpr n)]

/-- The cast that the tokens start with, by its word alone. -/
def castWord? : List Placed → Option CastOperator
  | t :: _ =>
    if t.afterDot then none
    else if t.isWord "as" then some .cast
    else if t.isWord "is" then some .test
    else none
  | [] => none

/-- Uses a parser and, where it fails or finds nothing, passes over one token instead. -/
def orSkip (step : TokenParser (Option (List Item))) : TokenParser (List Item) := fun ts =>
  match step ts with
  | .ok (some found, rest) => .ok (found, rest)
  | _ => .ok ([], ts.tail)

mutual

/-- Items up to the end of the text or, if `closing`, up to the brace that closes their block.
Those read so far are in `done` in reverse. -/
def items : Nat → Bool → List Item → TokenParser (List Item)
  | 0, _, _ => fail .tooDeep
  | n + 1, closing, done => do
    match ← look List.head? with
    | none => if closing then fail .missingBrace else return done.reverse
    | some t =>
      if t.is '}' then
        if closing then
          skip 1
          return done.reverse
        -- all braces have partners, so an item before this one has taken the partner
        else fail .unexpectedBrace
      else if t.is '{' then
        let block ← block n
        items n closing (.block block :: done)
      else
        let found ← orSkip (item n)
        items n closing (found.reverse ++ done)

/-- A block, whose brace is at hand. -/
def block : Nat → TokenParser (Block Item)
  | 0 => fail .tooDeep
  | n + 1 => do
    let position ← expect '{'
    return ⟨position, ← items n true []⟩

/-- A cast or a declaration, if one starts here. -/
def item : Nat → TokenParser (Option (List Item))
  | 0 => fail .tooDeep
  | n + 1 => do
    match ← look castWord? with
    | some operator => some <$> castExpr n operator
    | none => declaration n

/-- A declaration, if one starts here. None starts right after a dot. -/
def declaration : Nat → TokenParser (Option (List Item))
  | 0 => fail .tooDeep
  | n + 1 => do
    if ← look fun ts => ts.head?.any (·.afterDot) then return none
    let position ← position
    let _ ← many modifier?
    let keyword := (← look word?).getD ""
    if keyword = "let" || keyword = "var" then
      skip 1
      match ← bindings n position with
      | [] => return none
      | found => return some found
    else if keyword = "func" || keyword = "init" || keyword = "subscript" then
      function n position keyword
    else if keyword = "typealias" then typeAlias n position
    else
      match NominalKind.ofKeyword? keyword with
      | some kind => nominal n position kind
      | none => return none

/-- A function declaration that starts at `position`, its keyword being at hand. -/
def function : Nat → Nat → String → TokenParser (Option (List Item))
  | 0, _, _ => fail .tooDeep
  | n + 1, position, keyword => do
    skip 1
    let name ← functionName keyword
    if name = "" then return none
    angles
    if ← eats '(' then
      let parameters ← parameters n
      let effects ← effects
      let result ← optionally arrow (typeExpr n)
      let requirements ← whereClause n
      let body ← optionally (look (startsWith '{')) (block n)
      return some [.function position name parameters effects result requirements body]
    else return none

/-- A type declaration that starts at `position`, its keyword being at hand. -/
def nominal : Nat → Nat → NominalKind → TokenParser (Option (List Item))
  | 0, _, _ => fail .tooDeep
  | n + 1, position, kind => do
    skip 1
    let name ← nominalName
    if name = "" then return none
    angles
    let inherits ← inherited n
    let requirements ← whereClause n
    if ← look (startsWith '{') then
      return some [.nominal position kind name inherits requirements (← block n)]
    else return none

end

end TokenParser

end SwiftTuples
