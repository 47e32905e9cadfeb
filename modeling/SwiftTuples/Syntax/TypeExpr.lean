/-!
# Type expressions

The tree of a type as it is written. Every node keeps the offset of its first token. A tuple and
the parameters of a function type share one form of element.
-/

namespace SwiftTuples

/-- What a function may do besides returning. -/
structure Effects where
  isAsync : Bool
  throws : Bool
deriving DecidableEq, Repr

/-- A word or mark before a type. -/
inductive Specifier where
  /-- `@name`. -/
  | attribute (name : String)
  /-- `~`, which takes a conformance away. -/
  | suppression
  | word (text : String)
deriving DecidableEq, Repr

/-- The mark of an optional type. -/
inductive OptionalMark where
  /-- `?`. -/
  | question
  /-- `!`: unwrapped where it is used. -/
  | exclamation
deriving DecidableEq, Repr

/-- The names before the type of an element, and the offset of the colon after them. -/
structure Label where
  first : String
  second : Option String
  colon : Nat
deriving DecidableEq, Repr

/-- A slot of a tuple, or a parameter of a function type. -/
structure Element (α : Type) where
  label : Option Label
  type : α
deriving Repr

/-- A type. -/
inductive TypeExpr where
  | named (position : Nat) (name : String) (arguments : List TypeExpr)
  | member (position : Nat) (base : TypeExpr) (name : String) (arguments : List TypeExpr)
  | tuple (position : Nat) (elements : List (Element TypeExpr))
  | function (position : Nat) (parameters : List (Element TypeExpr)) (effects : Effects)
      (result : TypeExpr)
  | optional (position : Nat) (wrapped : TypeExpr) (mark : OptionalMark)
  | array (position : Nat) (element : TypeExpr)
  | dictionary (position : Nat) (key value : TypeExpr)
  /-- Types joined by `&`. -/
  | composition (position : Nat) (parts : List TypeExpr)
  | attributed (position : Nat) (specifiers : List Specifier) (base : TypeExpr)
deriving Repr

namespace Specifier

/-- The words that specify a type. -/
def words : List String :=
  ["inout", "some", "any", "borrowing", "consuming", "sending", "__owned", "__shared", "repeat",
   "each"]

/-- The specifier as it is written, less the arguments of an attribute. -/
def text : Specifier → String
  | .attribute name => "@" ++ name
  | .suppression => "~"
  | .word text => text

end Specifier

namespace Label

/-- The names of a label in order. -/
def names (l : Label) : List String := l.first :: l.second.toList

end Label

namespace TypeExpr

/-- The offset of the first token. -/
def position : TypeExpr → Nat
  | named p .. | member p .. | tuple p .. | function p .. | optional p .. | array p ..
  | dictionary p .. | composition p .. | attributed p .. => p

/-- The types directly inside, in source order. -/
def children : TypeExpr → List TypeExpr
  | named _ _ arguments => arguments
  | member _ base _ arguments => base :: arguments
  | tuple _ elements => elements.map (·.type)
  | function _ parameters _ result => parameters.map (·.type) ++ [result]
  | optional _ wrapped _ => [wrapped]
  | array _ element => [element]
  | dictionary _ key value => [key, value]
  | composition _ parts => parts
  | attributed _ _ base => [base]

end TypeExpr

end SwiftTuples
