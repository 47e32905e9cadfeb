import SwiftTuples.Pattern.Property.Age
import SwiftTuples.Pattern.Property.Binary
import SwiftTuples.Pattern.Property.Category
import SwiftTuples.Pattern.Property.ScriptSharing
import SwiftTuples.Pattern.Property.Segmentation
/-!
# Properties of characters by name

A class of a pattern may name a property, a general category or a script, or a property and its
value. Case, blanks, hyphens and underscores of a name do not matter, nor does `is` before it.
Patterns know the characters of version 16 of the standard.
-/

namespace SwiftTuples.Pattern.Property

/-- The letters, digits and signs of ASCII in a name, in lower case and without separators. -/
def plain (name : List Char) : List Char :=
  (name.filter fun c => c.toNat < 128 && c ≠ ' ' && c ≠ '_' && c ≠ '-').map Char.toLower

/-- A name in lower case, without separators and without `is` before it; `isc` is a name of its
own. -/
def normalize (name : List Char) : String :=
  match name with
  | i :: s :: rest =>
    if i.toLower = 'i' && s.toLower = 's' then
      let rest := plain rest
      if rest = ['c'] then "isc" else String.ofList rest
    else String.ofList (plain name)
  | _ => String.ofList (plain name)

/-- The set that one of the names of a list stands for. -/
def find? (sets : List (List String × CharSet)) (name : String) : Option CharSet :=
  (sets.find? fun (names, _) => names.contains name).map (·.2)

/-- The characters that a script uses: its own unless other scripts are said to use them, and those
of other scripts and of none that are said to be used by it. -/
def scriptExtension? (name : String) : Option CharSet := do
  let (names, own) ← scripts.find? fun (names, _) => names.contains name
  let shared := CharSet.unions (sharings.map (·.2))
  let used := sharings.filter fun (users, _) => users.any names.contains
  return CharSet.unions (own.difference shared :: used.map (·.2))

/-- The code points that had a meaning in a version of the standard. -/
def age? (name : String) : Option CharSet :=
  let (older, newer) := versions.span fun (names, _) => !names.contains name
  match newer with
  | [] => none
  | (_, last) :: _ => some (CharSet.unions (older.map (·.2) ++ [last]))

/-- The characters that a lone name stands for: a property, a category or a script. -/
def named? (name : List Char) : Option CharSet :=
  let name := normalize name
  ((find? binaries name).or (find? categories name)).or (find? scripts name)

/-- The characters whose property `key` has the value `value`. -/
def valued? (key value : List Char) : Option CharSet :=
  let value := normalize value
  match normalize key with
  | "gc" | "generalcategory" => find? categories value
  | "sc" | "script" => find? scripts value
  | "scx" | "scriptextensions" => scriptExtension? value
  | "age" => age? value
  | "gcb" | "graphemeclusterbreak" => find? graphemeBreaks value
  | "wb" | "wordbreak" => find? wordBreaks value
  | "sb" | "sentencebreak" => find? sentenceBreaks value
  | _ => none

/-- What the text between the braces of a class stands for: the characters of a set, or with `true`
those that do not belong to it. -/
def ofText? (text : List Char) : Option (Bool × CharSet) :=
  let (key, rest) := text.span fun c => c ≠ '=' && c ≠ ':'
  match rest with
  | [] => (named? text).map (false, ·)
  | '=' :: value =>
    match key.reverse with
    | '!' :: key => (valued? key.reverse value).map (true, ·)
    | _ => (valued? key value).map (false, ·)
  | _ :: value => (valued? key value).map (false, ·)

end SwiftTuples.Pattern.Property
