import SwiftTuples.Text.Basic
/-!
# Paths

A path is kept as it is written. What it says are its steps: the root, a leading stay, steps up
and names, where doubled slashes and later stays say nothing. Paths of the same steps are the same
path, and paths are ordered by their steps, a directory before what is inside it.
-/

namespace SwiftTuples

/-- A path as it is written. -/
structure Path where
  text : Text
deriving DecidableEq, Repr

/-- A step that a path takes. -/
inductive Path.Step where
  | root
  /-- A dot at the very start. -/
  | here
  | up
  | name (n : Text)
deriving DecidableEq, Repr

namespace Path

/-- The pieces of a text between its slashes. -/
def split : Text → List Text
  | [] => [[]]
  | '/' :: rest => [] :: split rest
  | c :: rest =>
    match split rest with
    | piece :: pieces => (c :: piece) :: pieces
    | [] => [[c]]

/-- The step that a piece takes, if it takes one. -/
def Step.ofPiece? (piece : Text) : Option Step :=
  if piece.isEmpty || piece == ['.'] then none
  else if piece == ['.', '.'] then some .up
  else some (.name piece)

/-- The pieces of a path between its slashes. -/
def pieces (p : Path) : List Text := split p.text

/-- The path starts at the root. -/
def isAbsolute (p : Path) : Bool := p.text.head? == some '/'

/-- The steps of a path. -/
def steps (p : Path) : List Step :=
  let onward := p.pieces.filterMap Step.ofPiece?
  if p.isAbsolute then .root :: onward
  else if p.pieces.head? == some ['.'] then .here :: onward
  else onward

/-- Steps compare by their keys: the root first, then stays, steps up and names. -/
def Step.key : Step → Text
  | root => ['0']
  | here => ['1']
  | up => ['2']
  | name n => '3' :: n

/-- Paths compare by their keys. -/
def key (p : Path) : List Text := p.steps.map Step.key

/-- The paths take the same steps. -/
def same (p q : Path) : Bool := p.key == q.key

/-- `p` comes no later than `q`. -/
def comesBy (p q : Path) : Bool := !decide (q.key < p.key)

/-- The name of what the path leads to, if it ends in a name. -/
def fileName? (p : Path) : Option Text :=
  match p.steps.getLast? with
  | some (.name n) => some n
  | _ => none

/-- The path of what has a name inside a directory. -/
def join (directory : Path) (name : Text) : Path :=
  if directory.text.isEmpty || directory.text.getLast? == some '/' then ⟨directory.text ++ name⟩
  else ⟨directory.text ++ '/' :: name⟩

/-- The path of what the names lead to inside a directory. -/
def joinAll (directory : Path) (names : List Text) : Path := names.foldl join directory

/-- A text from its first name or step up on. -/
def dropStays : Text → Text
  | '/' :: rest => dropStays rest
  | '.' :: '/' :: rest => dropStays rest
  | ['.'] => []
  | rest => rest

/-- The path without a stay at its start. -/
def withoutHere (p : Path) : Path :=
  match p.text with
  | ['.'] => ⟨[]⟩
  | '.' :: '/' :: rest => ⟨dropStays rest⟩
  | _ => p

/-- The path with every backslash as a slash. -/
def slashed (p : Path) : Text := p.text.map fun c => if c = '\\' then '/' else c

end Path

end SwiftTuples
