import SwiftTuples.Proofs.Parsing.TupleOrder
/-!
# Trees of any shape

A node that is read stands only where one of its kind can: a body is a block, a tuple holds types.
The walk over a tree does not rely on it. A raw tree may hold any node wherever it holds one, and in
a slot of it there may be names without a colon or a colon without names. The trees that are read
are among these once the kinds are forgotten (`Node.raw`), and what is observed of them is what the
walk over the raw tree finds (`Node.observations_eq_scan`).
-/

namespace SwiftTuples

/-- A slot of a tuple, or a parameter of a function type. -/
structure Slot (α : Type) where
  names : List String
  colon : Option Nat
  type : α

/-- A parameter of a function declaration. -/
structure RawParameter (α : Type) where
  names : List String
  type : α

/-- A requirement of a `where` clause. -/
structure RawRequirement (α : Type) where
  subject : α
  sameType : Bool
  constraint : α

/-- Both sides of a requirement, in source order. -/
def RawRequirement.sides {α : Type} (r : RawRequirement α) : List α := [r.subject, r.constraint]

/-- A tree in which any node may stand wherever there is one. -/
inductive RawTree where
  | file (items : List RawTree)
  | block (position : Nat) (items : List RawTree)
  | «variable» (position : Nat) (name : String) (type : Option RawTree)
  | function (position : Nat) (name : String) (parameters : List (RawParameter RawTree))
      (effects : Effects) (result : Option RawTree) (requirements : List (RawRequirement RawTree))
      (body : Option RawTree)
  | nominal (position : Nat) (keyword name : String) (inherits : List RawTree)
      (requirements : List (RawRequirement RawTree)) (members : RawTree)
  | «alias» (position : Nat) (name : String) (target : RawTree)
  | cast (position : Nat) (operator : String) (target : RawTree)
  | named (position : Nat) (name : String) (arguments : List RawTree)
  | member (position : Nat) (base : RawTree) (name : String) (arguments : List RawTree)
  | tuple (position : Nat) (elements : List (Slot RawTree))
  | functionType (position : Nat) (parameters : List (Slot RawTree)) (effects : Effects)
      (result : RawTree)
  | optional (position : Nat) (wrapped : RawTree) (implicitlyUnwrapped : Bool)
  | array (position : Nat) (element : RawTree)
  | dictionary (position : Nat) (key value : RawTree)
  | composition (position : Nat) (parts : List RawTree)
  | attributed (position : Nat) (specifiers : List String) (base : RawTree)

namespace RawTree

/-- The nodes directly inside, in source order. -/
def children : RawTree → List RawTree
  | file items => items
  | block _ items => items
  | «variable» _ _ type => type.toList
  | function _ _ parameters _ result requirements body =>
    parameters.map (·.type) ++ result.toList ++
      requirements.flatMap (·.sides) ++ body.toList
  | nominal _ _ _ inherits requirements members =>
    inherits ++ requirements.flatMap (·.sides) ++ [members]
  | «alias» _ _ target => [target]
  | cast _ _ target => [target]
  | named _ _ arguments => arguments
  | member _ base _ arguments => base :: arguments
  | tuple _ elements => elements.map (·.type)
  | functionType _ parameters _ result => parameters.map (·.type) ++ [result]
  | optional _ wrapped _ => [wrapped]
  | array _ element => [element]
  | dictionary _ key value => [key, value]
  | composition _ parts => parts
  | attributed _ _ base => [base]

section Size

variable {t u : RawTree}

theorem sizeOf_lt_of_mem_option {found : Option RawTree} (h : u ∈ found.toList) :
    sizeOf u < sizeOf found := by
  cases found with
  | none => cases h
  | some t =>
    obtain rfl := List.mem_singleton.1 h
    simp only [Option.some.sizeOf_spec]
    omega

theorem sizeOf_lt_of_mem_slots {slots : List (Slot RawTree)} (h : u ∈ slots.map (·.type)) :
    sizeOf u < sizeOf slots := by
  obtain ⟨s, hs, rfl⟩ := List.mem_map.1 h
  have hlt := List.sizeOf_lt_of_mem hs
  cases s
  simp only [Slot.mk.sizeOf_spec] at hlt ⊢
  omega

theorem sizeOf_lt_of_mem_parameters {parameters : List (RawParameter RawTree)}
    (h : u ∈ parameters.map (·.type)) : sizeOf u < sizeOf parameters := by
  obtain ⟨p, hp, rfl⟩ := List.mem_map.1 h
  have hlt := List.sizeOf_lt_of_mem hp
  cases p
  simp only [RawParameter.mk.sizeOf_spec] at hlt ⊢
  omega

theorem sizeOf_lt_of_mem_sides {requirements : List (RawRequirement RawTree)}
    (h : u ∈ requirements.flatMap (·.sides)) : sizeOf u < sizeOf requirements := by
  obtain ⟨r, hr, hu⟩ := List.mem_flatMap.1 h
  have hlt := List.sizeOf_lt_of_mem hr
  cases r
  simp only [RawRequirement.mk.sizeOf_spec] at hlt
  simp only [RawRequirement.sides, List.mem_cons, List.not_mem_nil, or_false] at hu
  rcases hu with rfl | rfl <;> omega

theorem sizeOf_lt_of_mem_children (h : u ∈ t.children) : sizeOf u < sizeOf t := by
  cases t with
  | file | block | named | composition =>
    rw [children] at h
    have hlt := List.sizeOf_lt_of_mem h
    simp only [file.sizeOf_spec, block.sizeOf_spec, named.sizeOf_spec, composition.sizeOf_spec]
    omega
  | «variable» =>
    have hlt := sizeOf_lt_of_mem_option h
    simp only [variable.sizeOf_spec]
    omega
  | function =>
    simp only [children, List.mem_append] at h
    simp only [function.sizeOf_spec]
    rcases h with ((h | h) | h) | h
    · have hlt := sizeOf_lt_of_mem_parameters h
      omega
    · have hlt := sizeOf_lt_of_mem_option h
      omega
    · have hlt := sizeOf_lt_of_mem_sides h
      omega
    · have hlt := sizeOf_lt_of_mem_option h
      omega
  | nominal =>
    simp only [children, List.mem_append, List.mem_singleton] at h
    simp only [nominal.sizeOf_spec]
    rcases h with (h | h) | rfl
    · have hlt := List.sizeOf_lt_of_mem h
      omega
    · have hlt := sizeOf_lt_of_mem_sides h
      omega
    · omega
  | member =>
    simp only [children, List.mem_cons] at h
    simp only [member.sizeOf_spec]
    rcases h with rfl | h
    · omega
    · have hlt := List.sizeOf_lt_of_mem h
      omega
  | tuple =>
    have hlt := sizeOf_lt_of_mem_slots h
    simp only [tuple.sizeOf_spec]
    omega
  | functionType =>
    simp only [children, List.mem_append, List.mem_singleton] at h
    simp only [functionType.sizeOf_spec]
    rcases h with h | rfl
    · have hlt := sizeOf_lt_of_mem_slots h
      omega
    · omega
  | dictionary =>
    simp only [children, List.mem_cons, List.not_mem_nil, or_false] at h
    simp only [dictionary.sizeOf_spec]
    rcases h with rfl | rfl <;> omega
  | «alias» | cast | optional | array | attributed =>
    obtain rfl := List.mem_singleton.1 h
    simp only [alias.sizeOf_spec, cast.sizeOf_spec, optional.sizeOf_spec, array.sizeOf_spec,
      attributed.sizeOf_spec]
    omega

end Size

/-- What holds of a tree when it holds of its children holds of every tree. -/
theorem of_children {P : RawTree → Prop} (h : ∀ t, (∀ u ∈ t.children, P u) → P t) (t : RawTree) :
    P t := by
  induction hm : sizeOf t using Nat.strongRecOn generalizing t with
  | _ k ih =>
    subst hm
    exact h t fun u hu => ih _ (sizeOf_lt_of_mem_children hu) u rfl

/-- The observation that a node is, if it is a tuple. -/
def observation? : RawTree → Option Observation
  | tuple position elements =>
    some ⟨position, elements.length, elements.countP (·.colon.isSome)⟩
  | _ => none

/-- The walk: a node is looked at, and then each node directly inside it is walked over. -/
def scan (t : RawTree) : List Observation :=
  t.observation?.toList ++ t.children.attach.flatMap fun ⟨u, _h⟩ => scan u
termination_by t
decreasing_by exact sizeOf_lt_of_mem_children _h

theorem scan_eq (t : RawTree) : t.scan = t.observation?.toList ++ t.children.flatMap scan := by
  rw [scan, List.flatMap_subtype fun _ _ => rfl, List.unattach_attach]

end RawTree

/-! ## Kinds forgotten -/

namespace TypeExpr

mutual

/-- A type as a raw tree. -/
def raw : TypeExpr → RawTree
  | named position name arguments => .named position name (rawList arguments)
  | member position base name arguments => .member position base.raw name (rawList arguments)
  | tuple position elements => .tuple position (rawSlots elements)
  | function position parameters effects result =>
    .functionType position (rawSlots parameters) effects result.raw
  | optional position wrapped mark => .optional position wrapped.raw (mark == .exclamation)
  | array position element => .array position element.raw
  | dictionary position key value => .dictionary position key.raw value.raw
  | composition position parts => .composition position (rawList parts)
  | attributed position specifiers base =>
    .attributed position (specifiers.map Specifier.text) base.raw

def rawList : List TypeExpr → List RawTree
  | [] => []
  | t :: rest => t.raw :: rawList rest

def rawSlots : List (Element TypeExpr) → List (Slot RawTree)
  | [] => []
  | ⟨label, type⟩ :: rest =>
    ⟨label.toList.flatMap Label.names, label.map (·.colon), type.raw⟩ :: rawSlots rest

end

/-- An element as a slot. -/
def slot (e : Element TypeExpr) : Slot RawTree :=
  ⟨e.label.toList.flatMap Label.names, e.label.map (·.colon), e.type.raw⟩

@[simp] theorem rawList_eq_map (types : List TypeExpr) : rawList types = types.map raw := by
  induction types with
  | nil => rfl
  | cons t types ih => rw [rawList, ih, List.map_cons]

@[simp] theorem rawSlots_eq_map (elements : List (Element TypeExpr)) :
    rawSlots elements = elements.map slot := by
  induction elements with
  | nil => rfl
  | cons e elements ih =>
    rw [rawSlots, ih, List.map_cons]
    rfl

end TypeExpr

/-- A parameter as one of a raw tree. -/
def Parameter.raw (p : Parameter) : RawParameter RawTree := ⟨p.names, p.type.raw⟩

/-- A requirement as one of a raw tree. -/
def Requirement.raw (r : Requirement) : RawRequirement RawTree :=
  ⟨r.subject.raw, r.sameType, r.constraint.raw⟩

namespace Item

mutual

/-- An item as a raw tree. -/
def raw : Item → RawTree
  | block b => rawBlock b
  | «variable» position binder type => .variable position binder.text (type.map TypeExpr.raw)
  | function position name parameters effects result requirements body =>
    .function position name (parameters.map Parameter.raw) effects (result.map TypeExpr.raw)
      (requirements.map Requirement.raw) (rawBody body)
  | nominal position kind name inherits requirements members =>
    .nominal position kind.keyword name (inherits.map TypeExpr.raw)
      (requirements.map Requirement.raw) (rawBlock members)
  | «alias» position name target => .alias position name target.raw
  | cast position operator target => .cast position operator.text target.raw

def rawBlock : Block Item → RawTree
  | ⟨position, items⟩ => .block position (rawList items)

def rawBody : Option (Block Item) → Option RawTree
  | none => none
  | some body => some (rawBlock body)

def rawList : List Item → List RawTree
  | [] => []
  | i :: rest => i.raw :: rawList rest

end

@[simp] theorem rawList_eq_map (items : List Item) : rawList items = items.map raw := by
  induction items with
  | nil => rfl
  | cons i items ih => rw [rawList, ih, List.map_cons]

theorem rawBlock_eq (b : Block Item) :
    rawBlock b = .block b.position (b.items.map raw) := by
  rw [rawBlock, rawList_eq_map]

@[simp] theorem rawBody_eq_map (body : Option (Block Item)) :
    rawBody body = body.map rawBlock := by
  cases body <;> rfl

end Item

namespace Node

/-- A node as a raw tree. -/
def raw : Node → RawTree
  | file f => .file (f.items.map Item.raw)
  | item i => i.raw
  | type t => t.raw

theorem map_raw_ofRequirements (requirements : List Requirement) :
    (ofRequirements requirements).map raw =
      (requirements.map Requirement.raw).flatMap (·.sides) := by
  rw [ofRequirements, List.map_map, List.map_flatMap, List.flatMap_map]
  rfl

/-- **The raw tree has the children of the tree.** -/
theorem children_raw (n : Node) : n.raw.children = n.children.map raw := by
  cases n with
  | file f => simp [raw, RawTree.children, children]
  | type t =>
    cases t <;>
      simp [raw, TypeExpr.raw, TypeExpr.slot, RawTree.children, children, TypeExpr.children]
  | item i =>
    cases i <;>
      simp [raw, Item.raw, Item.rawBlock_eq, Parameter.raw, RawTree.children, children, insideItem,
        ofBlock, map_raw_ofRequirements, Function.comp_def, Option.toList_map]

theorem observation?_raw (n : Node) : n.raw.observation? = n.observation? := by
  cases n with
  | file f => rfl
  | item i => cases i <;> simp [raw, Item.raw, Item.rawBlock_eq, RawTree.observation?, observation?]
  | type t =>
    cases t <;>
      simp [raw, TypeExpr.raw, TypeExpr.slot, RawTree.observation?, observation?, List.countP_map,
        Function.comp_def]

/-- **What is observed of a tree is what the walk over the raw tree finds.** -/
theorem observations_eq_scan (n : Node) : n.observations = n.raw.scan := by
  induction n using of_children with
  | h n ih =>
    rw [observations_eq, RawTree.scan_eq, observation?_raw, children_raw, List.flatMap_map,
      List.flatMap_congr ih]

end Node

end SwiftTuples
