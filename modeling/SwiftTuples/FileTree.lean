import SwiftTuples.Path
/-!
# Trees of files

A tree is a file with its bytes or a directory with its entries. A workspace is a tree seen from
one of its directories, from where relative paths start. Following a path needs a directory at
every piece of it, also at those that take no step, so a path that ends in a slash never leads to
a file.
-/

namespace SwiftTuples

/-- A file or a directory. -/
inductive FileTree where
  | file (bytes : ByteArray)
  | directory (entries : List (Text × FileTree))

/-- Why a path leads to no text. -/
inductive FileError where
  | missing
  /-- A file stands where a directory has to be. -/
  | throughFile
  | isDirectory
  /-- The bytes are not UTF-8. -/
  | notText
deriving DecidableEq, Repr

/-- The cause in words. -/
def FileError.message : FileError → String
  | missing => "No such file or directory (os error 2)"
  | throughFile => "Not a directory (os error 20)"
  | isDirectory => "Is a directory (os error 21)"
  | notText => "stream did not contain valid UTF-8"

namespace FileTree

/-- What a directory holds. -/
def entries : FileTree → List (Text × FileTree)
  | file _ => []
  | directory es => es

/-- What the names lead to. -/
def get? : FileTree → List Text → Option FileTree
  | t, [] => some t
  | t, n :: names =>
    match t.entries.lookup n with
    | some inner => inner.get? names
    | none => none

/-- Entries with one of them put in or replaced. -/
def put (name : Text) (t : FileTree) : List (Text × FileTree) → List (Text × FileTree)
  | [] => [(name, t)]
  | (n, old) :: rest => if n = name then (n, t) :: rest else (n, old) :: put name t rest

/-- A tree with `leaf` where the names lead. Directories are made on the way, and a directory that
is there already stays when an empty one comes. -/
def insert : FileTree → List Text → FileTree → FileTree
  | old, [], leaf =>
    match leaf, old with
    | .directory [], .directory es => .directory es
    | leaf, _ => leaf
  | old, n :: names, leaf =>
    let inner := (old.entries.lookup n).getD (.directory [])
    .directory (put n (inner.insert names leaf) old.entries)

end FileTree

/-- A tree seen from one of its directories. -/
structure Workspace where
  tree : FileTree
  /-- The names that lead to the directory. -/
  here : List Text

namespace Workspace

/-- Follows the pieces of a path from the place that the names lead to. -/
def follow (w : Workspace) (place : List Text) : List Text → Except FileError (List Text)
  | [] => .ok place
  | piece :: rest =>
    match w.tree.get? place with
    | some (.directory entries) =>
      match Path.Step.ofPiece? piece with
      | some .up => w.follow place.dropLast rest
      | some (.name n) =>
        if (entries.lookup n).isSome then w.follow (place ++ [n]) rest else .error .missing
      | _ => w.follow place rest
    | some (.file _) => .error .throughFile
    | none => .error .missing

/-- The names that a path says, whatever stands there. -/
def place (w : Workspace) (p : Path) : List Text :=
  p.steps.foldl (fun names step =>
    match step with
    | .root => []
    | .here => names
    | .up => names.dropLast
    | .name n => names ++ [n]) w.here

/-- The names that lead to the place of a path, if all of it is there. -/
def locate (w : Workspace) (p : Path) : Except FileError (List Text) :=
  if p.text.isEmpty then .error .missing
  else w.follow (if p.isAbsolute then [] else w.here) p.pieces

/-- What a path leads to. -/
def find (w : Workspace) (p : Path) : Except FileError FileTree := do
  let place ← w.locate p
  match w.tree.get? place with
  | some t => .ok t
  | none => .error .missing

/-- The path leads to a file. -/
def isFile (w : Workspace) (p : Path) : Bool :=
  match w.find p with
  | .ok (.file _) => true
  | _ => false

/-- The path leads to a directory. -/
def isDirectory (w : Workspace) (p : Path) : Bool :=
  match w.find p with
  | .ok (.directory _) => true
  | _ => false

/-- The text of the file that a path leads to. -/
def read (w : Workspace) (p : Path) : Except FileError Text := do
  match ← w.find p with
  | .file bytes =>
    match String.fromUTF8? bytes with
    | some text => .ok text.toList
    | none => .error .notText
  | .directory _ => .error .isDirectory

end Workspace

end SwiftTuples
