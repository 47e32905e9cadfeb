import SwiftTuples.Syntax.Node
/-!
# Tuples of a tree

An observation is made of every tuple type of a tree, outer tuples before those inside them. The
parameters of a function type are no tuple.
-/

namespace SwiftTuples

/-- What matters about a tuple type. -/
structure Observation where
  position : Nat
  members : Nat
  labelled : Nat
deriving DecidableEq, Repr

/-- Every member has a label. -/
def Observation.fullyLabelled (o : Observation) : Bool := o.labelled == o.members

/-- The observation that a node is, if it is a tuple type. -/
def Node.observation? : Node → Option Observation
  | .type (.tuple position elements) =>
    some ⟨position, elements.length, elements.countP (·.label.isSome)⟩
  | _ => none

/-- The tuple types at or inside a node, in preorder. -/
def Node.observations (n : Node) : List Observation :=
  (n.preorder 0).filterMap fun (_, m) => m.observation?

/-- The tuple types of a file, in preorder. -/
def SourceFile.observations (f : SourceFile) : List Observation := (Node.file f).observations

end SwiftTuples
