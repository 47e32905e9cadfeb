import SwiftTuples.Syntax.TypeExpr
/-!
# Items

What stands in a source file or a block, as far as it can hold a type: declarations, casts and
blocks. All else of a program is left out of the tree.
-/

namespace SwiftTuples

/-- The keyword of a type declaration. -/
inductive NominalKind where
  | structType | classType | enumType | protocolType | extensionOf | actorType
deriving DecidableEq, Repr

/-- The operator of a cast or a type test. -/
inductive CastOperator where
  | cast
  | optionalCast
  | forcedCast
  | test
deriving DecidableEq, Repr

/-- What a binding introduces. -/
inductive Binder where
  | name (text : String)
  /-- A parenthesised pattern; its names do not matter. -/
  | pattern
deriving DecidableEq, Repr

/-- A parameter of a function declaration. -/
structure Parameter where
  names : List String
  type : TypeExpr
deriving Repr

/-- A requirement of a `where` clause: that `subject` conforms to `constraint`, or is the same
type. -/
structure Requirement where
  subject : TypeExpr
  sameType : Bool
  constraint : TypeExpr
deriving Repr

/-- Items between braces. -/
structure Block (α : Type) where
  position : Nat
  items : List α
deriving Repr

/-- A block, a declaration or a cast. -/
inductive Item where
  | block (block : Block Item)
  | variable (position : Nat) (binder : Binder) (type : Option TypeExpr)
  | function (position : Nat) (name : String) (parameters : List Parameter) (effects : Effects)
      (result : Option TypeExpr) (requirements : List Requirement) (body : Option (Block Item))
  | nominal (position : Nat) (kind : NominalKind) (name : String) (inherits : List TypeExpr)
      (requirements : List Requirement) (members : Block Item)
  | «alias» (position : Nat) (name : String) (target : TypeExpr)
  | cast (position : Nat) (operator : CastOperator) (target : TypeExpr)
deriving Repr

/-- A whole source file. -/
structure SourceFile where
  items : List Item
deriving Repr

namespace NominalKind

/-- The keyword as it is written. -/
def keyword : NominalKind → String
  | structType => "struct"
  | classType => "class"
  | enumType => "enum"
  | protocolType => "protocol"
  | extensionOf => "extension"
  | actorType => "actor"

/-- All of them. -/
def all : List NominalKind :=
  [structType, classType, enumType, protocolType, extensionOf, actorType]

/-- The kind that a keyword names. -/
def ofKeyword? (word : String) : Option NominalKind := all.find? (·.keyword = word)

end NominalKind

/-- The operator as it is written. -/
def CastOperator.text : CastOperator → String
  | cast => "as"
  | optionalCast => "as?"
  | forcedCast => "as!"
  | test => "is"

/-- The name of a binding in a listing of the tree. -/
def Binder.text : Binder → String
  | name text => text
  | pattern => "(pattern)"

namespace Requirement

/-- Both types of a requirement, in source order. -/
def types (r : Requirement) : List TypeExpr := [r.subject, r.constraint]

end Requirement

namespace Item

/-- The offset of the first token. -/
def position : Item → Nat
  | block b => b.position
  | «variable» p .. | function p .. | nominal p .. | «alias» p .. | cast p .. => p

end Item

end SwiftTuples
