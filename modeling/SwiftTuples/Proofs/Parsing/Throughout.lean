import Mathlib.Data.List.Basic
import SwiftTuples.Syntax.Node
/-!
# What holds throughout a tree

A property holds throughout a tree when it holds of every node that the walk over the tree meets.
It does when it holds of the root and throughout what is directly inside (`throughout_iff`), so
a reader's answer is judged node by node.
-/

namespace SwiftTuples

namespace Node

/-- What holds of a node when it holds of its children holds of every node. -/
theorem of_children {P : Node → Prop} (h : ∀ n, (∀ m ∈ n.children, P m) → P n) (n : Node) :
    P n := by
  induction hm : n.measure using Nat.strongRecOn generalizing n with
  | _ k ih =>
    subst hm
    exact h n fun m hmem => ih _ (measure_lt_of_mem_children hmem) m rfl

/-- The nodes that a walk meets do not depend on the depth it starts at. -/
theorem map_snd_preorder (n : Node) (depth depth' : Nat) :
    (n.preorder depth).map (·.2) = (n.preorder depth').map (·.2) := by
  induction n using of_children generalizing depth depth' with
  | h n ih =>
    rw [preorder, preorder]
    simp only [List.map_cons, List.map_flatMap]
    congr 1
    exact List.flatMap_congr fun ⟨m, hmem⟩ _ => ih m hmem _ _

/-- `P` holds of a node and of all nodes inside it. -/
def Throughout (P : Node → Prop) (n : Node) : Prop := ∀ x ∈ n.preorder 0, P x.2

variable {P Q : Node → Prop} {n : Node}

theorem throughout_iff : n.Throughout P ↔ P n ∧ ∀ m ∈ n.children, m.Throughout P := by
  have hdepth : ∀ m : Node, (∀ x ∈ m.preorder 1, P x.2) ↔ m.Throughout P := by
    intro m
    have hmap : ∀ d, (∀ x ∈ m.preorder d, P x.2) ↔ ∀ u ∈ (m.preorder d).map (·.2), P u :=
      fun d => List.forall_mem_map.symm
    rw [Throughout, hmap, hmap, map_snd_preorder m 1 0]
  rw [Throughout, preorder, List.forall_mem_cons]
  refine and_congr Iff.rfl ⟨fun h m hm => (hdepth m).1 fun x hx => ?_, fun h x hx => ?_⟩
  · exact h x (List.mem_flatMap.2 ⟨⟨m, hm⟩, List.mem_attach _ _, hx⟩)
  · obtain ⟨⟨m, hm⟩, -, hmem⟩ := List.mem_flatMap.1 hx
    exact (hdepth m).2 (h m hm) x hmem

/-- What passes from a node to the nodes directly inside it holds throughout. -/
theorem Throughout.of_children (h : Q n) (hpass : ∀ m, Q m → ∀ u ∈ m.children, Q u) :
    n.Throughout Q := by
  induction n using Node.of_children with
  | h n ih => exact throughout_iff.2 ⟨h, fun u hu => ih u hu (hpass n h u hu)⟩

theorem Throughout.mono (h : n.Throughout P) (himp : ∀ m, P m → Q m) : n.Throughout Q :=
  fun x hx => himp x.2 (h x hx)

end Node

/-- What holds of a type when it holds of the types directly inside holds of every type. -/
theorem TypeExpr.of_children {P : TypeExpr → Prop} (h : ∀ t, (∀ u ∈ t.children, P u) → P t)
    (t : TypeExpr) : P t := by
  induction hm : sizeOf t using Nat.strongRecOn generalizing t with
  | _ k ih =>
    subst hm
    exact h t fun u hu => ih _ (Node.sizeOf_lt_of_mem_types hu) u rfl

end SwiftTuples
