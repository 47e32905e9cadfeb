import SwiftTuples.Settings.Basic
import SwiftTuples.Text.Quoted
import SwiftTuples.Toml.Document
/-!
# Settings of a document

The document has a section for the rule and one for the scan. A record is read from a table by its
keys, or from an array by the order of its fields; what is missing keeps its default where it has
one. Unknown keys are refused in the section of the rule and ignored elsewhere.
-/

namespace SwiftTuples

open Toml (Value)

/-- Why a document cannot be decoded. -/
inductive DecodeError where
  | unknownField (name : String) (known : List String)
  | unknownVariant (name : String) (known : List String)
  | missingField (name : String)
  /-- A value of another type than `expected`. -/
  | invalidType (found : String) (expected : String)
  /-- A value of the type that is out of bounds. -/
  | invalidValue (found : String) (expected : String)
  /-- The text is no document, or a shape has no place here. -/
  | malformed
deriving DecidableEq, Repr

namespace DecodeError

/-- Names in words, as what was expected. -/
def expected (names : List String) : String :=
  let quoted := names.map fun name => "`" ++ name ++ "`"
  match quoted with
  | [] => "there are no names"
  | [a] => "expected " ++ a
  | [a, b] => "expected " ++ a ++ " or " ++ b
  | many => "expected one of " ++ ", ".intercalate many

/-- The error in words, unless it is one of form. -/
def message? : DecodeError → Option String
  | unknownField name known => some ("unknown field `" ++ name ++ "`, " ++ expected known)
  | unknownVariant name known => some ("unknown variant `" ++ name ++ "`, " ++ expected known)
  | missingField name => some ("missing field `" ++ name ++ "`")
  | invalidType found wanted => some ("invalid type: " ++ found ++ ", expected " ++ wanted)
  | invalidValue found wanted => some ("invalid value: " ++ found ++ ", expected " ++ wanted)
  | malformed => none

end DecodeError

/-- A value decoded, or the reason why not. -/
abbrev Decoded (α : Type) := Except DecodeError α

namespace Decode

variable {α : Type}

/-- The key under which a date presents itself as a table. -/
def dateKey : String := "$__toml_private_datetime"

/-- A value in the words of an error. -/
def describe : Value → String
  | .string text => "string " ++ Quoted.quote text
  | .integer n => "integer `" ++ toString n ++ "`"
  | .float x => "floating point `" ++ x.text ++ "`"
  | .boolean b => "boolean `" ++ toString b ++ "`"
  | .date _ => "map"
  | .array _ => "sequence"
  | .table _ => "map"

/-- The value has another type. -/
def mismatch (v : Value) (expected : String) : Decoded α :=
  .error (.invalidType (describe v) expected)

/-- A natural number. -/
def nat : Value → Decoded Nat
  | .integer n =>
    if 0 ≤ n then .ok n.toNat else .error (.invalidValue (describe (.integer n)) "usize")
  | v => mismatch v "usize"

/-- A truth value. -/
def bool : Value → Decoded Bool
  | .boolean b => .ok b
  | v => mismatch v "a boolean"

/-- A text. -/
def string : Value → Decoded String
  | .string text => .ok text
  | v => mismatch v "a string"

/-- A list of values. -/
def list (item : Value → Decoded α) : Value → Decoded (List α)
  | .array items => items.mapM item
  | v => mismatch v "a sequence"

/-- The name among `known` that a text is. -/
def variant (known : List (String × α)) (name : String) : Decoded α :=
  match known.lookup name with
  | some a => .ok a
  | none => .error (.unknownVariant name (known.map (·.1)))

/-- One of several names, as a text or as the key of a table that holds nothing but it. -/
def oneOf (known : List (String × α)) : Value → Decoded α
  | .string name => variant known name
  | .table [(name, content)] => do
    let a ← variant known name
    match content with
    | .table [] => return a
    | .array [] => return a
    | _ => throw .malformed
  | _ => .error .malformed

/-- A record on its way: a field takes a value, or the value of the field is unknown. -/
abbrev Setter (α : Type) := α → Value → Decoded α

/-- Reads the fields of a table into a record. An unknown key is an error if `strict`. -/
def fromTable (fields : List (String × Setter α)) (strict : Bool) (record : α) :
    List (String × Value) → Decoded α
  | [] => .ok record
  | (key, v) :: rest =>
    match fields.lookup key with
    | some setter => do fromTable fields strict (← setter record v) rest
    | none =>
      if strict then .error (.unknownField key (fields.map (·.1)))
      else fromTable fields strict record rest

/-- Reads the items of an array into the fields of a record in order. Items beyond the last field
are ignored. -/
def fromArray : List (String × Setter α) → α → List Value → Decoded α
  | (_, setter) :: fields, record, v :: rest => do fromArray fields (← setter record v) rest
  | _, record, _ => .ok record

/-- Reads a record whose fields all have defaults. -/
def record (name : String) (fields : List (String × Setter α)) (strict : Bool) (initial : α) :
    Value → Decoded α
  | .table entries => fromTable fields strict initial entries
  | .array items => fromArray fields initial items
  | .date text => fromTable fields strict initial [(dateKey, .string text)]
  | v => mismatch v ("struct " ++ name)

/-- The names of severities. -/
def severities : List (String × Severity) := [("warning", .warning), ("error", .error)]

/-- The names of exemptions. -/
def exemptions : List (String × Exemption) :=
  [("all-tiers", .allTiers), ("exact-limit", .exactLimit)]

/-- The fields of a tier. -/
def tierFields : List (String × Setter (Option Severity × Option Nat)) :=
  [("severity", fun t v => do return (some (← oneOf severities v), t.2)),
   ("limit", fun t v => do return (t.1, some (← nat v)))]

/-- A tier, which has to have both of its fields. -/
def tier (v : Value) : Decoded Tier := do
  match ← record "SeverityThreshold" tierFields true (none, none) v, v with
  | (some severity, some limit), _ => return ⟨severity, limit⟩
  | _, .array _ => throw .malformed
  | (none, _), _ => throw (.missingField "severity")
  | (some _, none), _ => throw (.missingField "limit")

/-- The fields of the rule's section. -/
def tupleFields : List (String × Setter TupleSettings) :=
  [("warning", fun s v => do return { s with warning := ← nat v }),
   ("error", fun s v => do return { s with error := some (← nat v) }),
   ("tiers", fun s v => do return { s with tiers := some (← list tier v) }),
   ("label_exemption", fun s v => do return { s with exemption := ← oneOf exemptions v })]

/-- The section of the rule. -/
def tuples : Value → Decoded TupleSettings := record "LargeTupleConfig" tupleFields true {}

/-- The section of the scan: pattern texts, and whether to tell more. -/
structure ScanSection where
  includes : List String := []
  excludes : List String := []
  verbose : Bool := false
deriving DecidableEq, Repr

/-- The fields of the scan's section. -/
def scanFields : List (String × Setter ScanSection) :=
  [("include", fun s v => do return { s with includes := ← list string v }),
   ("exclude", fun s v => do return { s with excludes := ← list string v }),
   ("verbose", fun s v => do return { s with verbose := ← bool v })]

/-- The section of the scan. -/
def scan : Value → Decoded ScanSection := record "ScanConfig" scanFields false {}

/-- What a document says. -/
structure Sections where
  tuples : TupleSettings := {}
  scan : ScanSection := {}
deriving DecidableEq, Repr

/-- The sections of a document. -/
def sectionFields : List (String × Setter Sections) :=
  [("large_tuple", fun s v => do return { s with tuples := ← tuples v }),
   ("scan", fun s v => do return { s with scan := ← scan v })]

/-- The sections that a document's entries say. -/
def sections (entries : List (String × Value)) : Decoded Sections :=
  fromTable sectionFields false {} entries

/-- The sections that a text says. -/
def text (source : List Char) : Decoded Sections :=
  match Toml.parse? source with
  | some entries => sections entries
  | none => .error .malformed

end Decode

end SwiftTuples
