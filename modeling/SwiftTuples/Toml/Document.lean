import SwiftTuples.Toml.Reader
/-!
# TOML documents

A document is a list of statements: headers of tables, headers of array elements, and entries. The
statements are then put together. How a table came to be decides what may be added to it: a header
defines a table once, a longer header implies the tables on its way, and dotted keys make tables
that only dotted keys extend.
-/

namespace SwiftTuples.Toml

/-- How a table came to be. -/
inductive Origin where
  /-- A header of its own. -/
  | header
  /-- It lies on the way of a header. -/
  | implied
  /-- It lies on the way of a dotted key. -/
  | dotted
deriving DecidableEq, Repr

/-- A part of a document that is being put together. -/
inductive Entry where
  | value (value : Value)
  | table (origin : Origin) (entries : List (String × Entry))
  /-- An array of tables, the last one first. -/
  | tables (last : List (String × Entry)) (before : List (List (String × Entry)))

/-- The entries of a table that is being put together. -/
abbrev Entries := List (String × Entry)

namespace Entries

/-- The entry of a key. -/
def get? (entries : Entries) (key : String) : Option Entry := entries.lookup key

/-- The entries with that of a key replaced, or added at the end. -/
def put (entries : Entries) (key : String) (entry : Entry) : Entries :=
  if (entries.get? key).isSome then
    entries.map fun (k, e) => if k = key then (k, entry) else (k, e)
  else entries ++ [(key, entry)]

/-- The entries with an entry added below a dotted key. Tables are opened on the way; only those
that no header defined can be extended, and the last of them has to be of dotted keys. -/
def addDotted (entries : Entries) :
    List String → String → Entry → Option Entries
  | [], key, entry =>
    match entries.get? key with
    | none => some (entries ++ [(key, entry)])
    | some _ => none
  | [last], key, entry =>
    match entries.get? last with
    | none => some (entries ++ [(last, .table .dotted [(key, entry)])])
    | some (.table .dotted inner) => do
      let inner ← if (inner.lookup key).isSome then none else some (inner ++ [(key, entry)])
      some (entries.put last (.table .dotted inner))
    | some _ => none
  | step :: path, key, entry =>
    match entries.get? step with
    | none => do
      let inner ← addDotted [] path key entry
      some (entries ++ [(step, .table .dotted inner)])
    | some (.table origin inner) => do
      if origin = .header then none
      let inner ← addDotted inner path key entry
      some (entries.put step (.table origin inner))
    | some (.tables last before) => do
      let last ← addDotted last path key entry
      some (entries.put step (.tables last before))
    | some (.value _) => none

/-- Changes the table that a header's path leads to, opening tables on the way. In an array of
tables the way goes through the last one. -/
def within (entries : Entries) (change : Entries → Option Entries) :
    List String → Option Entries
  | [] => change entries
  | step :: path =>
    match entries.get? step with
    | none => do
      let inner ← within [] change path
      some (entries ++ [(step, .table .implied inner)])
    | some (.table origin inner) => do
      let inner ← within inner change path
      some (entries.put step (.table origin inner))
    | some (.tables last before) => do
      let last ← within last change path
      some (entries.put step (.tables last before))
    | some (.value _) => none

/-- Defines the table of a header. -/
def define (key : String) (entries : Entries) : Option Entries :=
  match entries.get? key with
  | none => some (entries ++ [(key, .table .header [])])
  | some (.table .implied inner) => some (entries.put key (.table .header inner))
  | some _ => none

/-- Appends a table to an array of tables. -/
def append (key : String) (entries : Entries) : Option Entries :=
  match entries.get? key with
  | none => some (entries ++ [(key, .tables [] [])])
  | some (.tables last before) => some (entries.put key (.tables [] (last :: before)))
  | some _ => none

end Entries

mutual

/-- The value that an entry has become. -/
def Entry.toValue : Entry → Value
  | .value v => v
  | .table _ entries => .table (Entries.toValues entries)
  | .tables last before => .array (tablesToValues before [.table (Entries.toValues last)])

/-- The values that entries have become. -/
def Entries.toValues : List (String × Entry) → List (String × Value)
  | [] => []
  | (key, entry) :: rest => (key, entry.toValue) :: Entries.toValues rest

/-- The values that tables in reverse have become, before those in `done`. -/
def tablesToValues : List (List (String × Entry)) → List Value → List Value
  | [], done => done
  | entries :: rest, done => tablesToValues rest (.table (Entries.toValues entries) :: done)

end

/-- A statement of a document. -/
inductive Statement where
  | header (path : List String)
  | element (path : List String)
  | entry (path : List String) (value : Value)

namespace Reader

variable {α : Type}

/-- Items between commas up to what closes them; with `trailing` a comma may end them. -/
def separated (item : Reader α) (layout : Reader Unit) (closing : Char) (trailing : Bool) :
    Nat → Reader (List α)
  | 0 => refuse
  | n + 1 => do
    let first ← item
    layout
    if ← eats [closing] then return [first]
    else
      expect [',']
      layout
      if trailing && (← peek) = some closing then
        let _ ← take
        return [first]
      else return first :: (← separated item layout closing trailing n)

/-- The table that the entries of an inline table make. -/
def inlineTable (pairs : List (List String × Value)) : Reader Value := do
  let add (entries : Entries) (pair : List String × Value) : Option Entries :=
    entries.addDotted pair.1.dropLast (pair.1.getLast?.getD "") (.value pair.2)
  match pairs.foldlM add [] with
  | some entries => return .table (Entries.toValues entries)
  | none => refuse

/-- Takes a value that nests at most `n` levels. -/
def value : Nat → Reader Value
  | 0 => scalar
  | n + 1 => do
    match ← peek with
    | some '[' => do
      let _ ← take
      layout
      if ← eats [']'] then return .array []
      else return .array (← separated (value n) layout ']' true (← rest).length)
    | some '{' => do
      let _ ← take
      blanks
      if ← eats ['}'] then return .table []
      else
        let pair : Reader (List String × Value) := do
          let path ← key
          expect ['=']
          blanks
          return (path, ← value n)
        inlineTable (← separated pair blanks '}' false (← rest).length)
    | _ => scalar
where
  /-- Takes a value that holds no other. -/
  scalar : Reader Value := do
    match ← peek with
    | some '"' => return .string (← string)
    | some '\'' => return .string (← string)
    | some 't' =>
      expect ['t', 'r', 'u', 'e']
      return .boolean true
    | some 'f' =>
      expect ['f', 'a', 'l', 's', 'e']
      return .boolean false
    | _ => date <|> float <|> integer

/-- Takes a statement and the rest of its line, or an empty line; nothing at the end of the
document. -/
def statement? : Reader (Option (Option Statement)) := do
  blanks
  match ← rest with
  | [] => return none
  | '[' :: '[' :: after =>
    goOn after
    let path ← key
    expect [']', ']']
    restOfLine
    return some (some (.element path))
  | '[' :: after =>
    goOn after
    let path ← key
    expect [']']
    restOfLine
    return some (some (.header path))
  | c :: _ =>
    if c = '#' || c = '\n' || c = '\r' then
      restOfLine
      return some none
    else
      let path ← key
      expect ['=']
      blanks
      let found ← value (nestingLimit - 1)
      restOfLine
      return some (some (.entry path found))

/-- Takes all statements of a document. A byte order mark may stand before them. -/
def statements : Reader (List Statement) := do
  let _ ← eats ['\ufeff']
  return (← many statement?).filterMap id

end Reader

/-- A document that is being put together, and the path of the table that entries go to. -/
structure Draft where
  entries : Entries
  path : List String

/-- The draft after a statement. -/
def Draft.add (d : Draft) : Statement → Option Draft
  | .header path => do
    let key ← path.getLast?
    let entries ← d.entries.within (Entries.define key) path.dropLast
    some ⟨entries, path⟩
  | .element path => do
    let key ← path.getLast?
    let entries ← d.entries.within (Entries.append key) path.dropLast
    some ⟨entries, path⟩
  | .entry path value => do
    let key ← path.getLast?
    let entries ← d.entries.within (Entries.addDotted · path.dropLast key (.value value)) d.path
    some ⟨entries, d.path⟩

/-- The entries of the document that a text says, if it says one. -/
def parse? (text : List Char) : Option (List (String × Value)) := do
  let (statements, rest) ← Reader.statements.run text
  if rest.isEmpty then
    let draft ← statements.foldlM Draft.add ⟨[], []⟩
    some (Entries.toValues draft.entries)
  else none

end SwiftTuples.Toml
