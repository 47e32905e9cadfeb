import SwiftTuples.Syntax.Item
/-!
# Nodes of a tree

One view of the whole tree: a node is a source file, an item or a type, and its children are the
nodes directly inside it in source order. `Node.preorder` lists a tree, a node before what is
inside it.
-/

namespace SwiftTuples

/-- A part of a tree. -/
inductive Node where
  | file (file : SourceFile)
  | item (item : Item)
  | type (type : TypeExpr)

namespace Node

/-- The node of a block. -/
def ofBlock (b : Block Item) : Node := item (.block b)

/-- The types of requirements, in source order. -/
def ofRequirements (requirements : List Requirement) : List Node :=
  (requirements.flatMap (·.types)).map type

/-- The nodes directly inside an item. -/
def insideItem : Item → List Node
  | .block b => b.items.map item
  | .variable _ _ declared => declared.toList.map type
  | .function _ _ parameters _ result requirements body =>
    parameters.map (fun p => type p.type) ++ result.toList.map type ++
      ofRequirements requirements ++ body.toList.map ofBlock
  | .nominal _ _ _ inherits requirements members =>
    inherits.map type ++ ofRequirements requirements ++ [ofBlock members]
  | .alias _ _ target => [type target]
  | .cast _ _ target => [type target]

/-- The nodes directly inside, in source order. -/
def children : Node → List Node
  | file f => f.items.map item
  | item i => insideItem i
  | type t => t.children.map type

/-- The offset of the first token; a file without items starts at 0. -/
def position : Node → Nat
  | file f => (f.items.head?.map (·.position)).getD 0
  | item i => i.position
  | type t => t.position

/-- The size of a node, which shrinks towards its children. -/
noncomputable def measure : Node → Nat
  | file f => sizeOf f.items + 1
  | item i => sizeOf i
  | type t => sizeOf t

theorem sizeOf_lt_of_mem_elements {es : List (Element TypeExpr)} {t : TypeExpr}
    (h : t ∈ es.map (·.type)) : sizeOf t < sizeOf es := by
  obtain ⟨e, he, rfl⟩ := List.mem_map.1 h
  have := List.sizeOf_lt_of_mem he
  cases e
  simp only [Element.mk.sizeOf_spec] at this ⊢
  omega

theorem sizeOf_lt_of_mem_types {t : TypeExpr} {u : TypeExpr} (h : u ∈ t.children) :
    sizeOf u < sizeOf t := by
  cases t <;> simp only [TypeExpr.children, List.mem_append, List.mem_cons, List.not_mem_nil,
    or_false] at h
  case named =>
    have := List.sizeOf_lt_of_mem h
    simp only [TypeExpr.named.sizeOf_spec]
    omega
  case member =>
    simp only [TypeExpr.member.sizeOf_spec]
    rcases h with rfl | h
    · omega
    · have := List.sizeOf_lt_of_mem h
      omega
  case tuple =>
    have := sizeOf_lt_of_mem_elements h
    simp only [TypeExpr.tuple.sizeOf_spec]
    omega
  case function =>
    simp only [TypeExpr.function.sizeOf_spec]
    rcases h with h | rfl
    · have := sizeOf_lt_of_mem_elements h
      omega
    · omega
  case optional =>
    subst h
    simp only [TypeExpr.optional.sizeOf_spec]
    omega
  case array =>
    subst h
    simp only [TypeExpr.array.sizeOf_spec]
    omega
  case dictionary =>
    simp only [TypeExpr.dictionary.sizeOf_spec]
    rcases h with rfl | rfl <;> omega
  case composition =>
    have := List.sizeOf_lt_of_mem h
    simp only [TypeExpr.composition.sizeOf_spec]
    omega
  case attributed =>
    subst h
    simp only [TypeExpr.attributed.sizeOf_spec]
    omega

theorem sizeOf_lt_of_mem_requirements {rs : List Requirement} {t : TypeExpr}
    (h : t ∈ rs.flatMap (·.types)) : sizeOf t < sizeOf rs := by
  obtain ⟨r, hr, ht⟩ := List.mem_flatMap.1 h
  have := List.sizeOf_lt_of_mem hr
  cases r
  simp only [Requirement.types, List.mem_cons, List.not_mem_nil, or_false] at ht
  simp only [Requirement.mk.sizeOf_spec] at this
  rcases ht with rfl | rfl <;> omega

theorem measure_lt_of_mem_children {n m : Node} (h : m ∈ n.children) : m.measure < n.measure := by
  cases n with
  | file f =>
    obtain ⟨i, hi, rfl⟩ := List.mem_map.1 h
    have := List.sizeOf_lt_of_mem hi
    simp only [measure]
    omega
  | type t =>
    obtain ⟨u, hu, rfl⟩ := List.mem_map.1 h
    exact sizeOf_lt_of_mem_types hu
  | item i =>
    cases i with
    | block b =>
      obtain ⟨i, hi, rfl⟩ := List.mem_map.1 h
      have := List.sizeOf_lt_of_mem hi
      cases b
      simp only [measure, Item.block.sizeOf_spec, Block.mk.sizeOf_spec] at this ⊢
      omega
    | «variable» p b declared =>
      cases declared with
      | none => simp [children, insideItem] at h
      | some t =>
        simp only [children, insideItem, Option.toList_some, List.map_cons, List.map_nil,
          List.mem_cons, List.not_mem_nil, or_false] at h
        subst h
        simp only [measure, Item.variable.sizeOf_spec, Option.some.sizeOf_spec]
        omega
    | function p name parameters effects result requirements body =>
      simp only [children, insideItem, List.mem_append] at h
      rcases h with ((h | h) | h) | h
      · obtain ⟨q, hq, rfl⟩ := List.mem_map.1 h
        have := List.sizeOf_lt_of_mem hq
        cases q
        simp only [measure, Item.function.sizeOf_spec, Parameter.mk.sizeOf_spec] at this ⊢
        omega
      · cases result with
        | none => simp at h
        | some t =>
          simp only [Option.toList_some, List.map_cons, List.map_nil, List.mem_cons,
            List.not_mem_nil, or_false] at h
          subst h
          simp only [measure, Item.function.sizeOf_spec, Option.some.sizeOf_spec]
          omega
      · obtain ⟨t, ht, rfl⟩ := List.mem_map.1 h
        have := sizeOf_lt_of_mem_requirements ht
        simp only [measure, Item.function.sizeOf_spec]
        omega
      · cases body with
        | none => simp at h
        | some b =>
          simp only [Option.toList_some, List.map_cons, List.map_nil, List.mem_cons,
            List.not_mem_nil, or_false] at h
          subst h
          simp only [measure, ofBlock, Item.function.sizeOf_spec, Item.block.sizeOf_spec,
            Option.some.sizeOf_spec]
          omega
    | nominal p kind name inherits requirements members =>
      simp only [children, insideItem, List.mem_append, List.mem_singleton] at h
      rcases h with (h | h) | rfl
      · obtain ⟨t, ht, rfl⟩ := List.mem_map.1 h
        have := List.sizeOf_lt_of_mem ht
        simp only [measure, Item.nominal.sizeOf_spec]
        omega
      · obtain ⟨t, ht, rfl⟩ := List.mem_map.1 h
        have := sizeOf_lt_of_mem_requirements ht
        simp only [measure, Item.nominal.sizeOf_spec]
        omega
      · simp only [measure, ofBlock, Item.nominal.sizeOf_spec, Item.block.sizeOf_spec]
        have : 0 < sizeOf kind := by cases kind <;> simp
        omega
    | «alias» p name t =>
      simp only [children, insideItem, List.mem_singleton] at h
      subst h
      simp only [measure, Item.alias.sizeOf_spec]
      omega
    | cast p op t =>
      simp only [children, insideItem, List.mem_singleton] at h
      subst h
      simp only [measure, Item.cast.sizeOf_spec]
      omega

/-- The node and all nodes inside it, each with its depth, a node before what is inside it. -/
def preorder (depth : Nat) (n : Node) : List (Nat × Node) :=
  (depth, n) :: n.children.attach.flatMap fun ⟨m, _h⟩ => preorder (depth + 1) m
termination_by n.measure
decreasing_by exact measure_lt_of_mem_children _h

end Node

end SwiftTuples
