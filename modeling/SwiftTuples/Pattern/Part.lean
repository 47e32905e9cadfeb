import SwiftTuples.Pattern.Expr
/-!
# Parts of patterns

An expression together with how deeply the text that says it nests. Patterns nest only so deeply,
and the nesting counts what was written, not what an expression makes of it.
-/

namespace SwiftTuples.Pattern

/-- An expression with how deeply its text nests. -/
structure Part where
  expr : Expr
  depth : Nat

namespace Part

/-- Patterns nest no deeper than this. -/
def depthLimit : Nat := 250

/-- A part that is repeated. -/
def repeated (p : Part) (least : Nat) (most : Option Nat) (eager : Bool) : Part :=
  ⟨p.expr.times least most eager, p.depth + 1⟩

/-- Parts one after the other; those that only set flags are none. -/
def sequence (parts : List (Option Part)) : Part :=
  match parts with
  | [] => ⟨.empty, 0⟩
  | [none] => ⟨.empty, 0⟩
  | [some p] => p
  | parts =>
    let found := parts.filterMap id
    ⟨.join (found.map (·.expr)), found.foldl (fun d p => max d p.depth) 0 + 1⟩

/-- Parts of which one has to match. -/
def choice (first : Part) (others : List Part) : Part :=
  match others with
  | [] => first
  | others =>
    ⟨.choose (first.expr :: others.map (·.expr)),
      others.foldl (fun d p => max d p.depth) first.depth + 1⟩

/-- A part in parentheses, which keep its match apart or not. -/
def grouped (p : Part) (kept : Bool) : Part :=
  ⟨if kept then .group p.expr else p.expr, p.depth + 1⟩

end Part

end SwiftTuples.Pattern
