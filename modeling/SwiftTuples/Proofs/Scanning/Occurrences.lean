import SwiftTuples.Proofs.Scanning.RawTree
/-!
# Every tuple is observed

What is observed of a tree is found by a walk from children to children. Here the tuples of a tree
are listed without it, by recursion over everything that a tree is made of: the lists, options and
records in its nodes, field by field, a tuple before what is inside it. The walk observes just
these, of trees of any shape (`RawTree.scan_exact`).
-/

namespace SwiftTuples

/-- A tuple where it stands in a tree. -/
structure TupleType where
  position : Nat
  elements : List (Slot RawTree)

/-- What there is to observe of a tuple. -/
def TupleType.observation (t : TupleType) : Observation where
  position := t.position
  members := t.elements.length
  labelled := (t.elements.filter fun e => e.colon.isSome).length

namespace RawTree

/-! ## The tuples of a tree, field by field -/

mutual

/-- The tuples of a tree, a tuple before those inside it. -/
def tuples : RawTree → List TupleType
  | file items => tuplesOfList items
  | block _ items => tuplesOfList items
  | «variable» _ _ type => tuplesOfOption type
  | function _ _ parameters _ result requirements body =>
    tuplesOfParameters parameters ++ tuplesOfOption result ++ tuplesOfRequirements requirements ++
      tuplesOfOption body
  | nominal _ _ _ inherits requirements members =>
    tuplesOfList inherits ++ tuplesOfRequirements requirements ++ members.tuples
  | «alias» _ _ target => target.tuples
  | cast _ _ target => target.tuples
  | named _ _ arguments => tuplesOfList arguments
  | member _ base _ arguments => base.tuples ++ tuplesOfList arguments
  | tuple position elements => ⟨position, elements⟩ :: tuplesOfSlots elements
  | functionType _ parameters _ result => tuplesOfSlots parameters ++ result.tuples
  | optional _ wrapped _ => wrapped.tuples
  | array _ element => element.tuples
  | dictionary _ key value => key.tuples ++ value.tuples
  | composition _ parts => tuplesOfList parts
  | attributed _ _ base => base.tuples

def tuplesOfList : List RawTree → List TupleType
  | [] => []
  | t :: rest => t.tuples ++ tuplesOfList rest

def tuplesOfOption : Option RawTree → List TupleType
  | none => []
  | some t => t.tuples

def tuplesOfSlots : List (Slot RawTree) → List TupleType
  | [] => []
  | ⟨_, _, type⟩ :: rest => type.tuples ++ tuplesOfSlots rest

def tuplesOfParameters : List (RawParameter RawTree) → List TupleType
  | [] => []
  | ⟨_, type⟩ :: rest => type.tuples ++ tuplesOfParameters rest

def tuplesOfRequirements : List (RawRequirement RawTree) → List TupleType
  | [] => []
  | ⟨subject, _, constraint⟩ :: rest =>
    subject.tuples ++ constraint.tuples ++ tuplesOfRequirements rest

end

@[simp] theorem tuplesOfList_eq_flatMap (trees : List RawTree) :
    tuplesOfList trees = trees.flatMap tuples := by
  induction trees with
  | nil => rfl
  | cons t trees ih => rw [tuplesOfList, ih, List.flatMap_cons]

@[simp] theorem tuplesOfOption_eq_flatMap (found : Option RawTree) :
    tuplesOfOption found = found.toList.flatMap tuples := by
  cases found <;> simp [tuplesOfOption]

@[simp] theorem tuplesOfSlots_eq_flatMap (slots : List (Slot RawTree)) :
    tuplesOfSlots slots = slots.flatMap fun s => s.type.tuples := by
  induction slots with
  | nil => rfl
  | cons s slots ih => rw [tuplesOfSlots, ih, List.flatMap_cons]

@[simp] theorem tuplesOfParameters_eq_flatMap (parameters : List (RawParameter RawTree)) :
    tuplesOfParameters parameters = parameters.flatMap fun p => p.type.tuples := by
  induction parameters with
  | nil => rfl
  | cons p parameters ih => rw [tuplesOfParameters, ih, List.flatMap_cons]

@[simp] theorem tuplesOfRequirements_eq_flatMap (requirements : List (RawRequirement RawTree)) :
    tuplesOfRequirements requirements =
      (requirements.flatMap (·.sides)).flatMap tuples := by
  induction requirements with
  | nil => rfl
  | cons r requirements ih =>
    rw [tuplesOfRequirements, ih, List.flatMap_cons, List.flatMap_append]
    simp [RawRequirement.sides]

/-- The tuple that a node is. -/
def tuple? : RawTree → Option TupleType
  | tuple position elements => some ⟨position, elements⟩
  | _ => none

/-- **The children of a node leave no field out.** -/
theorem tuples_eq (t : RawTree) : t.tuples = t.tuple?.toList ++ t.children.flatMap tuples := by
  cases t <;> simp [tuples, tuple?, children, List.flatMap_map]

theorem observation?_eq (t : RawTree) :
    t.observation? = t.tuple?.map TupleType.observation := by
  cases t with
  | tuple => simp [observation?, tuple?, TupleType.observation, List.countP_eq_length_filter]
  | _ => rfl

/-- The walk observes the tuples that there are, in their order. -/
theorem scan_eq_tuples (t : RawTree) : t.scan = t.tuples.map TupleType.observation := by
  induction t using of_children with
  | h t ih =>
    rw [scan_eq, tuples_eq, observation?_eq, List.map_append, List.map_flatMap,
      List.flatMap_congr ih]
    cases t.tuple? <;> rfl

end RawTree

/-! ## Outer before inner -/

/-- The tuples inside a tuple. -/
def TupleType.inside (t : TupleType) : List TupleType := RawTree.tuplesOfSlots t.elements

/-- Each tuple is followed at once by all those inside it. -/
def OuterFirst (ts : List TupleType) : Prop :=
  ∀ before t after, ts = before ++ t :: after → t.inside <+: after

namespace OuterFirst

variable {t : TupleType} {ts us : List TupleType}

theorem nil : OuterFirst [] := by
  intro before t after h
  simp at h

theorem append (ht : OuterFirst ts) (hu : OuterFirst us) : OuterFirst (ts ++ us) := by
  intro before t after h
  obtain ⟨mid, rfl, hmid⟩ | ⟨mid, rfl, hmid⟩ := List.append_eq_append_iff.1 h
  · exact hu mid t after hmid
  · -- a tuple of the former list has all that is inside it in that list
    cases mid with
    | nil => exact hu [] t after hmid.symm
    | cons u mid =>
      cases hmid
      exact (ht before t mid rfl).trans (List.prefix_append mid us)

theorem flatMap {α : Type} {f : α → List TupleType} {as : List α} (h : ∀ a ∈ as, OuterFirst (f a)) :
    OuterFirst (as.flatMap f) := by
  induction as with
  | nil => exact nil
  | cons a as ih =>
    obtain ⟨ha, has⟩ := List.forall_mem_cons.1 h
    exact ha.append (ih has)

theorem cons (h : OuterFirst t.inside) : OuterFirst (t :: t.inside) := by
  rintro (_ | ⟨u, before⟩) v after heq
  · cases heq
    exact List.prefix_rfl
  · exact h before v after (List.cons.inj heq).2

end OuterFirst

namespace RawTree

theorem outerFirst_tuples (t : RawTree) : OuterFirst t.tuples := by
  induction t using of_children with
  | h t ih =>
    have hinside : OuterFirst (t.children.flatMap tuples) := .flatMap ih
    rw [tuples_eq]
    cases htuple : t.tuple? with
    | none => exact hinside
    | some u =>
      have hchildren : t.children.flatMap tuples = u.inside := by
        unfold tuple? at htuple
        split at htuple <;> cases htuple
        simp [children, TupleType.inside, List.flatMap_map]
      rw [hchildren] at hinside ⊢
      exact .cons hinside

/-- **Nothing is missed, and nothing is counted twice.** Of every tree, of whatever shape, the walk
observes exactly the tuples that occur in it, each once, an outer one before those inside it. Each
observation says where its tuple stands, how many members it has and how many of them have a colon.
What is observed of a tree that has been read is found so. -/
theorem scan_exact :
    (∀ t : RawTree, t.scan = t.tuples.map TupleType.observation ∧ OuterFirst t.tuples ∧
      ∀ o ∈ t.scan, o.labelled ≤ o.members) ∧
    ∀ n : Node, n.observations = n.raw.scan := by
  refine ⟨fun t => ⟨scan_eq_tuples t, outerFirst_tuples t, fun o ho => ?_⟩,
    Node.observations_eq_scan⟩
  rw [scan_eq_tuples] at ho
  obtain ⟨u, -, rfl⟩ := List.mem_map.1 ho
  exact List.length_filter_le ..

/-- A tree that no text has: all of it stands at one offset, a file is inside a tuple and a tuple is
a body, a name has no colon and a colon no name. -/
theorem misplaced_tuples_observed :
    let unit : RawTree := .tuple 0 []
    let pair : RawTree := .tuple 0 [⟨["a"], none, .file [unit]⟩, ⟨[], some 0, .array 0 unit⟩]
    let requirement : RawRequirement RawTree := ⟨.named 0 "T" [unit], true, .optional 0 pair false⟩
    (function 0 "f" [⟨["g"], .functionType 0 [⟨[], none, pair⟩] ⟨true, false⟩ unit⟩] ⟨false, false⟩
        none [requirement] (some unit)).scan =
      [⟨0, 2, 1⟩, ⟨0, 0, 0⟩, ⟨0, 0, 0⟩, ⟨0, 0, 0⟩, ⟨0, 0, 0⟩, ⟨0, 2, 1⟩, ⟨0, 0, 0⟩, ⟨0, 0, 0⟩,
        ⟨0, 0, 0⟩] :=
  (scan_exact.1 _).1

end RawTree

end SwiftTuples
