import SwiftTuples.Pattern.Parser
import SwiftTuples.Pattern.Route
/-!
# Patterns

A pattern keeps the text it was read from beside what it means.
-/

namespace SwiftTuples

/-- A regular expression as it was written. -/
structure Pattern where
  text : String
  expr : Pattern.Expr

namespace Pattern

/-- The pattern that a text says, if it says one. -/
def ofText? (text : String) : Option Pattern :=
  (Parser.expression? text.toList).map fun expr => ⟨text, expr⟩

/-- The pattern matches somewhere in a text. -/
def occursIn (p : Pattern) (text : String) : Bool := p.expr.occursIn text.toList

end Pattern

end SwiftTuples
