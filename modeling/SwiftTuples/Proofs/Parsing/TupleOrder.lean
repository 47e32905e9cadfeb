import Mathlib.Data.List.Basic
import SwiftTuples.Rule
import SwiftTuples.Syntax.Source
import SwiftTuples.Proofs.Lexing.Tiling
import SwiftTuples.Proofs.Parsing.Advance
import SwiftTuples.Proofs.Parsing.Throughout
/-!
# Tuples are found in source order

A tuple is observed at its parenthesis. The walk over a tree meets the tuples in the order in which
their parentheses stand in the text, and none of them twice, whatever was tried and given up in
between: what a reader answers with is made of the tokens it took, in their order, and the tokens
that recovery passes over are in no answer.

`Finds before p f` carries this through a reader. The offsets `before` are those of the tuples
found so far; what `p` adds to them comes from the parentheses it took.
-/

namespace SwiftTuples

/-! ## The tuples of a tree, node by node -/

namespace Node

/-- The depth of a walk does not matter for what it observes. -/
theorem observations_preorder (depth : Nat) (n : Node) :
    ((n.preorder depth).filterMap fun (_, m) => m.observation?) = n.observations := by
  -- an observation reads the node and not its depth
  have hsnd : ∀ l : List (Nat × Node),
      (l.filterMap fun (_, m) => m.observation?) = (l.map (·.2)).filterMap observation? := by
    intro l
    rw [List.filterMap_map]
    rfl
  rw [observations, hsnd, hsnd, map_snd_preorder n depth 0]

/-- What is observed of a node is observed at it or inside it. -/
theorem observations_eq (n : Node) :
    n.observations = n.observation?.toList ++ n.children.flatMap observations := by
  have hchildren : (n.children.attach.flatMap fun m => (m.1.preorder 1).filterMap
      fun (_, u) => u.observation?) = n.children.flatMap observations := by
    simp only [observations_preorder]
    rw [List.flatMap_subtype fun _ _ => rfl, List.unattach_attach]
  rw [observations, preorder, List.filterMap_cons, List.filterMap_flatMap, hchildren]
  dsimp only
  cases n.observation? <;> rfl

/-- What is observed of a child is observed of the node, in one piece. -/
theorem observations_infix {n m : Node} (h : m ∈ n.children) :
    m.observations <:+: n.observations := by
  rw [observations_eq n]
  exact (List.infix_of_mem_flatten (List.mem_map_of_mem h)).trans
    (List.suffix_append _ _).isInfix

/-- What is observed of an item is observed of the file. -/
theorem item_observations_infix {i : Item} {file : SourceFile} (h : i ∈ file.items) :
    (Node.item i).observations <:+: file.observations :=
  observations_infix (List.mem_map_of_mem h)

/-- The offsets of the tuples at or inside a node, in the order of the walk. -/
def tupleOffsets (n : Node) : List Nat := n.observations.map (·.position)

theorem tupleOffsets_eq (n : Node) : n.tupleOffsets =
    n.observation?.toList.map (·.position) ++ n.children.flatMap tupleOffsets := by
  rw [tupleOffsets, observations_eq, List.map_append, List.map_flatMap]
  rfl

end Node

namespace TypeExpr

/-- The offsets of the tuples at or inside a type. -/
def tupleOffsets (t : TypeExpr) : List Nat := (Node.type t).tupleOffsets

theorem tupleOffsets_tuple (position : Nat) (elements : List (Element TypeExpr)) :
    (tuple position elements).tupleOffsets =
      position :: elements.flatMap fun e => e.type.tupleOffsets := by
  rw [tupleOffsets, Node.tupleOffsets_eq]
  simp [Node.observation?, Node.children, children, List.flatMap_map, tupleOffsets]

/-- A type that is no tuple holds the tuples inside it. -/
theorem tupleOffsets_eq_children {t : TypeExpr} (h : (Node.type t).observation? = none) :
    t.tupleOffsets = t.children.flatMap tupleOffsets := by
  rw [tupleOffsets, Node.tupleOffsets_eq, h, Node.children, List.flatMap_map]
  rfl

variable (position : Nat)

@[simp] theorem tupleOffsets_named (name : String) (arguments : List TypeExpr) :
    (named position name arguments).tupleOffsets = arguments.flatMap tupleOffsets :=
  tupleOffsets_eq_children rfl

@[simp] theorem tupleOffsets_member (base : TypeExpr) (name : String) (arguments : List TypeExpr) :
    (member position base name arguments).tupleOffsets =
      base.tupleOffsets ++ arguments.flatMap tupleOffsets :=
  tupleOffsets_eq_children rfl

@[simp] theorem tupleOffsets_function (parameters : List (Element TypeExpr)) (effects : Effects)
    (result : TypeExpr) : (function position parameters effects result).tupleOffsets =
      (parameters.flatMap fun e => e.type.tupleOffsets) ++ result.tupleOffsets := by
  rw [tupleOffsets_eq_children rfl]
  simp [children, List.flatMap_map]

@[simp] theorem tupleOffsets_optional (wrapped : TypeExpr) (mark : OptionalMark) :
    (optional position wrapped mark).tupleOffsets = wrapped.tupleOffsets := by
  rw [tupleOffsets_eq_children rfl]
  simp [children]

@[simp] theorem tupleOffsets_array (element : TypeExpr) :
    (array position element).tupleOffsets = element.tupleOffsets := by
  rw [tupleOffsets_eq_children rfl]
  simp [children]

@[simp] theorem tupleOffsets_dictionary (key value : TypeExpr) :
    (dictionary position key value).tupleOffsets = key.tupleOffsets ++ value.tupleOffsets := by
  rw [tupleOffsets_eq_children rfl]
  simp [children]

@[simp] theorem tupleOffsets_composition (parts : List TypeExpr) :
    (composition position parts).tupleOffsets = parts.flatMap tupleOffsets :=
  tupleOffsets_eq_children rfl

@[simp] theorem tupleOffsets_attributed (specifiers : List Specifier) (base : TypeExpr) :
    (attributed position specifiers base).tupleOffsets = base.tupleOffsets := by
  rw [tupleOffsets_eq_children rfl]
  simp [children]

end TypeExpr

/-- The offsets of the tuples in the types of a requirement. -/
def Requirement.tupleOffsets (r : Requirement) : List Nat :=
  r.subject.tupleOffsets ++ r.constraint.tupleOffsets

namespace Item

/-- The offsets of the tuples inside an item. -/
def tupleOffsets (i : Item) : List Nat := (Node.item i).tupleOffsets

theorem tupleOffsets_eq (i : Item) :
    i.tupleOffsets = (Node.insideItem i).flatMap Node.tupleOffsets := by
  rw [tupleOffsets, Node.tupleOffsets_eq]
  rfl

theorem flatMap_ofRequirements (requirements : List Requirement) :
    (Node.ofRequirements requirements).flatMap Node.tupleOffsets =
      requirements.flatMap Requirement.tupleOffsets := by
  rw [Node.ofRequirements, List.flatMap_map, List.flatMap_assoc]
  refine List.flatMap_congr fun r _ => ?_
  rw [Requirement.types, List.flatMap_cons, List.flatMap_cons, List.flatMap_nil, List.append_nil]
  rfl

@[simp] theorem tupleOffsets_block (b : Block Item) :
    (block b).tupleOffsets = b.items.flatMap tupleOffsets := by
  rw [tupleOffsets_eq, Node.insideItem, List.flatMap_map]
  rfl

variable (position : Nat)

@[simp] theorem tupleOffsets_variable (binder : Binder) (type : Option TypeExpr) :
    («variable» position binder type).tupleOffsets = type.toList.flatMap (·.tupleOffsets) := by
  rw [tupleOffsets_eq, Node.insideItem, List.flatMap_map]
  rfl

@[simp] theorem tupleOffsets_function (name : String) (parameters : List Parameter)
    (effects : Effects) (result : Option TypeExpr) (requirements : List Requirement)
    (body : Option (Block Item)) :
    (function position name parameters effects result requirements body).tupleOffsets =
      (parameters.flatMap fun p => p.type.tupleOffsets) ++ result.toList.flatMap (·.tupleOffsets) ++
        requirements.flatMap (·.tupleOffsets) ++
        body.toList.flatMap fun b => b.items.flatMap tupleOffsets := by
  have hbody : (body.toList.map Node.ofBlock).flatMap Node.tupleOffsets =
      body.toList.flatMap fun b => b.items.flatMap tupleOffsets := by
    rw [List.flatMap_map]
    exact List.flatMap_congr fun b _ => tupleOffsets_block b
  rw [tupleOffsets_eq, Node.insideItem]
  simp only [List.flatMap_append, flatMap_ofRequirements, hbody, List.flatMap_map]
  rfl

@[simp] theorem tupleOffsets_nominal (kind : NominalKind) (name : String)
    (inherits : List TypeExpr) (requirements : List Requirement) (members : Block Item) :
    (nominal position kind name inherits requirements members).tupleOffsets =
      inherits.flatMap (·.tupleOffsets) ++ requirements.flatMap (·.tupleOffsets) ++
        members.items.flatMap tupleOffsets := by
  have hmembers : [Node.ofBlock members].flatMap Node.tupleOffsets =
      members.items.flatMap tupleOffsets := by
    rw [List.flatMap_cons, List.flatMap_nil, List.append_nil]
    exact tupleOffsets_block members
  rw [tupleOffsets_eq, Node.insideItem]
  simp only [List.flatMap_append, flatMap_ofRequirements, hmembers, List.flatMap_map]
  rfl

@[simp] theorem tupleOffsets_alias (name : String) (target : TypeExpr) :
    («alias» position name target).tupleOffsets = target.tupleOffsets := by
  rw [tupleOffsets_eq, Node.insideItem, List.flatMap_cons, List.flatMap_nil, List.append_nil]
  rfl

@[simp] theorem tupleOffsets_cast (operator : CastOperator) (target : TypeExpr) :
    (cast position operator target).tupleOffsets = target.tupleOffsets := by
  rw [tupleOffsets_eq, Node.insideItem, List.flatMap_cons, List.flatMap_nil, List.append_nil]
  rfl

end Item

/-! ## What readers find -/

namespace TokenParser

variable {α β : Type}

/-- The offsets of the opening parentheses among tokens. -/
def parens (ts : List Placed) : List Nat := (ts.filter (·.is '(')).map (·.start)

theorem parens_append (ts us : List Placed) : parens (ts ++ us) = parens ts ++ parens us := by
  simp [parens]

/-- The offsets that `f` says of the answer are, in order, from `before` and from the parentheses
taken. -/
def Finds (before : List Nat) (p : TokenParser α) (f : α → List Nat) : Prop :=
  Takes p fun a used => (f a).Sublist (before ++ parens used)

namespace Finds

variable {before : List Nat} {p : TokenParser α} {f : α → List Nat}

theorem pure {a : α} (h : (f a).Sublist before) : Finds before (pure a : TokenParser α) f :=
  fun _ => .pure (by simpa [parens] using h)

theorem fail {cause : SyntaxCause} : Finds before (fail cause : TokenParser α) f :=
  fun _ => .fail

/-- **What is found first stands first.** -/
theorem bind {g : α → TokenParser β} {h : β → List Nat} (hp : Finds before p f)
    (hg : ∀ a, Finds (f a) (g a) h) : Finds before (p >>= g) h := by
  refine fun ts => (hp ts).bind fun a used rest _ ha => (hg a rest).mono fun b more hb => ?_
  rw [parens_append, ← List.append_assoc]
  exact hb.trans (ha.append (List.Sublist.refl _))

theorem map {g : α → β} {h : β → List Nat} (hp : Finds before p fun a => h (g a)) :
    Finds before (g <$> p) h :=
  hp.bind fun _ => .pure (List.Sublist.refl _)

/-- Where a reader is used makes no difference to what it finds. -/
theorem after (hp : Finds [] p f) (before : List Nat) :
    Finds before p fun a => before ++ f a :=
  fun ts => (hp ts).mono fun _ _ ha => (List.Sublist.refl before).append ha

/-- A parser whose answer holds no tuple changes nothing. -/
theorem of_splits (hp : Splits p) : Finds before p fun _ => before :=
  fun ts => (hp ts).mono fun _ _ _ => List.sublist_append_left ..

theorem look {f : List Placed → α} : Finds before (look f) fun _ => before :=
  of_splits fun _ => .look trivial

theorem ite {c : Prop} [Decidable c] {q : TokenParser α} (hp : c → Finds before p f)
    (hq : ¬ c → Finds before q f) : Finds before (if c then p else q) f :=
  fun ts => .ite (fun h => hp h ts) fun h => hq h ts

theorem optionally {mark : TokenParser Bool} (hmark : Splits mark)
    (hp : Finds [] p f) : Finds [] (optionally mark p) fun o => o.toList.flatMap f := by
  refine (of_splits hmark).bind fun _ => .ite (fun _ => ?_) fun _ => .pure (by simp)
  exact .map (by simpa using hp)

end Finds

/-! ## Types -/

/-- The readers of types at bound `n` find tuples in the order of their parentheses. -/
structure TypeReadersFind (n : Nat) : Prop where
  typeExpr : Finds [] (typeExpr n) (·.tupleOffsets)
  composition : Finds [] (composition n) (·.tupleOffsets)
  conjuncts : Finds [] (conjuncts n) (·.flatMap (·.tupleOffsets))
  suffixed : Finds [] (suffixed n) (·.tupleOffsets)
  suffixes : ∀ position base,
    Finds base.tupleOffsets (suffixes n position base) (·.tupleOffsets)
  primary : Finds [] (primary n) (·.tupleOffsets)
  parenthesized : ∀ position, Finds [position] (parenthesized n position) (·.tupleOffsets)
  bracketed : ∀ position, Finds [] (bracketed n position) (·.tupleOffsets)
  genericArguments : Finds [] (genericArguments n) (·.flatMap (·.tupleOffsets))
  types : Finds [] (types n) (·.flatMap (·.tupleOffsets))
  elements : Finds [] (elements n) (·.flatMap fun e => e.type.tupleOffsets)

namespace TypeReadersFind

variable {n : Nat} (h : TypeReadersFind n)
include h

theorem succ_typeExpr : Finds [] (TokenParser.typeExpr (n + 1)) (·.tupleOffsets) := by
  refine Finds.look.bind fun position => ?_
  refine (Finds.of_splits (splits_many advancesIfFound_specifier?.splits)).bind fun specifiers => ?_
  refine h.composition.bind fun base => .pure ?_
  split <;> simp

theorem succ_composition : Finds [] (TokenParser.composition (n + 1)) (·.tupleOffsets) := by
  refine Finds.look.bind fun position => ?_
  refine h.suffixed.bind fun first => ?_
  refine (h.conjuncts.after _).bind fun others => ?_
  cases others with
  | nil => exact .pure (by simp)
  | cons => exact .pure (by simp)

theorem succ_conjuncts :
    Finds [] (TokenParser.conjuncts (n + 1)) (·.flatMap (·.tupleOffsets)) := by
  refine (Finds.of_splits (takes_eats '&').splits).bind fun joined => ?_
  refine .ite (fun _ => ?_) fun _ => .pure (by simp)
  refine h.suffixed.bind fun part => ?_
  exact (h.conjuncts.after _).bind fun others => .pure (by simp)

theorem succ_suffixed : Finds [] (TokenParser.suffixed (n + 1)) (·.tupleOffsets) := by
  refine Finds.look.bind fun position => ?_
  exact h.primary.bind fun base => h.suffixes position base

theorem succ_suffixes (position : Nat) (base : TypeExpr) :
    Finds base.tupleOffsets (TokenParser.suffixes (n + 1) position base) (·.tupleOffsets) := by
  refine (Finds.of_splits advancesIfFound_optionalMark?.splits).bind fun mark => ?_
  cases mark with
  | some mark => simpa using h.suffixes position (.optional position base mark)
  | none =>
    refine (Finds.of_splits advancesIfFound_memberName?.splits).bind fun name => ?_
    cases name with
    | some name =>
      refine (h.genericArguments.after _).bind fun arguments => ?_
      simpa using h.suffixes position (.member position base name arguments)
    | none => exact .pure (by simp)

/-- The one place where an offset is noted that a tuple may get: that of the token at hand, which
is the parenthesis then taken. -/
theorem succ_primary : Finds [] (TokenParser.primary (n + 1)) (·.tupleOffsets) := by
  intro ts
  refine .look_bind ((takes_name? ts).bind fun found used rest hts hused => ?_)
  cases found with
  | some name =>
    refine (h.genericArguments rest).bind fun arguments more _ _ hmore => .pure ?_
    simp only [TypeExpr.tupleOffsets_named, List.nil_append, List.append_nil, parens_append]
      at hmore ⊢
    exact hmore.trans (List.sublist_append_right ..)
  | none =>
    -- no name was taken, so the parenthesis is the token whose offset was noted
    obtain ⟨-, rfl⟩ | ⟨t, hname, hnone, -⟩ := hused
    · rw [List.nil_append] at hts
      subst hts
      refine (takes_eats '(' ts).bind fun paren more rest hmid hparen =>
        .ite (fun htrue => ?_) fun _ => ?_
      · obtain ⟨rfl, -⟩ | ⟨-, t, ht, rfl⟩ := hparen
        · cases htrue
        · subst hmid
          refine (h.parenthesized t.start rest).mono fun found inner hinner => ?_
          simpa [parens, ht] using hinner
      · refine (takes_eats '[' rest).bind fun bracket used rest _ _ =>
          .ite (fun _ => ?_) fun _ => .fail
        refine (h.bracketed _ rest).mono fun found inner hinner => ?_
        simp only [List.nil_append, parens_append] at hinner ⊢
        exact hinner.trans ((List.sublist_append_right ..).trans (List.sublist_append_right ..))
    · rw [← hnone] at hname
      cases hname

theorem succ_parenthesized (position : Nat) :
    Finds [position] (TokenParser.parenthesized (n + 1) position) (·.tupleOffsets) := by
  refine (h.elements.after _).bind fun elements => ?_
  refine Finds.look.bind fun isFunction => .ite (fun _ => ?_) fun _ => ?_
  · refine (Finds.of_splits splits_effects).bind fun effects => ?_
    refine (Finds.of_splits splits_arrow).bind fun hasArrow => .ite (fun _ => ?_) fun _ => .fail
    refine (h.typeExpr.after _).bind fun result => .pure ?_
    -- the parenthesis of a function type is no tuple's
    rw [TypeExpr.tupleOffsets_function, List.append_assoc]
    exact List.sublist_append_right ..
  · exact .pure (by rw [TypeExpr.tupleOffsets_tuple]; rfl)

theorem succ_bracketed (position : Nat) :
    Finds [] (TokenParser.bracketed (n + 1) position) (·.tupleOffsets) := by
  refine h.typeExpr.bind fun first => ?_
  refine ((Finds.optionally (takes_eats ':').splits h.typeExpr).after _).bind fun value => ?_
  refine (Finds.of_splits (advances_expect ']').splits).bind fun _ => ?_
  cases value with
  | some value => exact .pure (by simp)
  | none => exact .pure (by simp)

theorem succ_genericArguments :
    Finds [] (TokenParser.genericArguments (n + 1)) (·.flatMap (·.tupleOffsets)) := by
  refine Finds.look.bind fun opens => .ite (fun _ => ?_) fun _ => .pure (by simp)
  refine (Finds.of_splits (splits_skip 1)).bind fun _ => ?_
  refine h.types.bind fun arguments => ?_
  exact (Finds.of_splits (advances_expect '>').splits).bind fun _ => .pure (List.Sublist.refl _)

theorem succ_types : Finds [] (TokenParser.types (n + 1)) (·.flatMap (·.tupleOffsets)) := by
  refine h.typeExpr.bind fun first => ?_
  refine (Finds.of_splits (takes_eats ',').splits).bind fun goesOn =>
    .ite (fun _ => ?_) fun _ => .pure (by simp)
  exact (h.types.after _).bind fun others => .pure (by simp)

theorem succ_elements :
    Finds [] (TokenParser.elements (n + 1)) (·.flatMap fun e => e.type.tupleOffsets) := by
  refine (Finds.of_splits (takes_eats ')').splits).bind fun closed =>
    .ite (fun _ => .pure (by simp)) fun _ => ?_
  refine (Finds.of_splits splits_label?).bind fun label => ?_
  refine h.typeExpr.bind fun type => ?_
  refine (Finds.of_splits splits_trailer).bind fun _ => ?_
  refine (Finds.of_splits (takes_eats ',').splits).bind fun goesOn =>
    .ite (fun _ => ?_) fun _ => ?_
  · exact (h.elements.after _).bind fun others => .pure (by simp)
  · refine (Finds.of_splits (takes_eats ')').splits).bind fun closed => ?_
    exact .ite (fun _ => .pure (by simp)) fun _ => .fail

theorem succ : TypeReadersFind (n + 1) where
  typeExpr := h.succ_typeExpr
  composition := h.succ_composition
  conjuncts := h.succ_conjuncts
  suffixed := h.succ_suffixed
  suffixes := h.succ_suffixes
  primary := h.succ_primary
  parenthesized := h.succ_parenthesized
  bracketed := h.succ_bracketed
  genericArguments := h.succ_genericArguments
  types := h.succ_types
  elements := h.succ_elements

end TypeReadersFind

/-- **The readers of types find tuples in source order**, whatever their bound. -/
theorem typeReadersFind (n : Nat) : TypeReadersFind n := by
  induction n with
  | zero => constructor <;> intros <;> exact .fail
  | succ n ih => exact ih.succ

/-! ## Items -/

theorem finds_typeExpr (n : Nat) : Finds [] (typeExpr n) (·.tupleOffsets) :=
  (typeReadersFind n).typeExpr

theorem finds_bindings (n position : Nat) :
    Finds [] (bindings n position) (·.flatMap Item.tupleOffsets) := by
  induction n with
  | zero => exact .fail
  | succ n ih =>
    refine (Finds.of_splits advancesIfFound_binder?.splits).bind fun binder => ?_
    cases binder with
    | none => exact .pure (by simp)
    | some binder =>
      refine (Finds.optionally splits_declaredColon (finds_typeExpr n)).bind fun declared => ?_
      refine Finds.look.bind fun goesOn => .ite (fun _ => ?_) fun _ => .pure (by simp)
      refine (Finds.of_splits (splits_skip 1)).bind fun _ => ?_
      exact (ih.after _).bind fun others => .pure (by simp)

theorem finds_parameters (n : Nat) :
    Finds [] (parameters n) (·.flatMap fun p => p.type.tupleOffsets) := by
  induction n with
  | zero => exact .fail
  | succ n ih =>
    refine (Finds.of_splits (takes_eats ')').splits).bind fun closed =>
      .ite (fun _ => .pure (by simp)) fun _ => ?_
    refine (Finds.of_splits (splits_many advancesIfFound_attribute?.splits)).bind fun _ => ?_
    refine (Finds.of_splits splits_parameterNames).bind fun names => ?_
    refine (Finds.of_splits (advances_expect ':').splits).bind fun _ => ?_
    refine (finds_typeExpr n).bind fun type => ?_
    refine (Finds.of_splits splits_trailer).bind fun _ => ?_
    refine (Finds.of_splits (takes_eats ',').splits).bind fun goesOn =>
      .ite (fun _ => ?_) fun _ => ?_
    · exact (ih.after _).bind fun others => .pure (by simp)
    · refine (Finds.of_splits (takes_eats ')').splits).bind fun closed => ?_
      exact .ite (fun _ => .pure (by simp)) fun _ => .fail

theorem finds_requirements (n : Nat) :
    Finds [] (requirements n) (·.flatMap (·.tupleOffsets)) := by
  induction n with
  | zero => exact .fail
  | succ n ih =>
    refine (finds_typeExpr n).bind fun subject => ?_
    refine (Finds.of_splits advances_relation.splits).bind fun sameType => ?_
    refine ((finds_typeExpr n).after _).bind fun constraint => ?_
    refine (Finds.of_splits (takes_eats ',').splits).bind fun goesOn =>
      .ite (fun _ => ?_) fun _ => .pure (by simp [Requirement.tupleOffsets])
    exact (ih.after _).bind fun others => .pure (by simp [Requirement.tupleOffsets])

theorem finds_whereClause (n : Nat) :
    Finds [] (whereClause n) (·.flatMap (·.tupleOffsets)) := by
  refine Finds.look.bind fun opens => .ite (fun _ => ?_) fun _ => .pure (by simp)
  exact (Finds.of_splits (splits_skip 1)).bind fun _ => finds_requirements n

theorem finds_inherited (n : Nat) : Finds [] (inherited n) (·.flatMap (·.tupleOffsets)) := by
  refine (Finds.of_splits (takes_eats ':').splits).bind fun opens =>
    .ite (fun _ => ?_) fun _ => .pure (by simp)
  exact (typeReadersFind n).types

theorem finds_castExpr (n : Nat) (operator : CastOperator) :
    Finds [] (castExpr n operator) (·.flatMap Item.tupleOffsets) := by
  refine Finds.look.bind fun position => ?_
  refine (Finds.of_splits (splits_skip 1)).bind fun _ => ?_
  refine (Finds.of_splits (splits_castOperator operator)).bind fun operator => ?_
  exact (finds_typeExpr n).bind fun target => .pure (by simp)

/-- The offsets of the tuples in the items that a reader may have found. -/
def foundOffsets (found : Option (List Item)) : List Nat :=
  (found.getD []).flatMap Item.tupleOffsets

theorem finds_typeAlias (n position : Nat) : Finds [] (typeAlias n position) foundOffsets := by
  refine (Finds.of_splits (splits_skip 1)).bind fun _ => ?_
  refine (Finds.of_splits advancesIfFound_name?.splits).bind fun name => ?_
  cases name with
  | none => exact .pure (by simp [foundOffsets])
  | some name =>
    refine (Finds.of_splits splits_angles).bind fun _ => ?_
    refine (Finds.of_splits (takes_eats '=').splits).bind fun assigned =>
      .ite (fun _ => ?_) fun _ => .pure (by simp [foundOffsets])
    exact (finds_typeExpr n).bind fun target => .pure (by simp [foundOffsets])

/-- What was tried and given up leaves nothing behind. -/
theorem finds_orSkip {step : TokenParser (Option (List Item))} (h : Finds [] step foundOffsets) :
    Finds [] (orSkip step) (·.flatMap Item.tupleOffsets) := by
  intro ts found rest hp
  simp only [orSkip] at hp
  split at hp
  · next found rest hstep =>
    cases hp
    exact h ts hstep
  · cases hp
    exact ⟨ts.take 1, by cases ts <;> rfl, by simp⟩

/-- The readers of items at bound `n` find tuples in the order of their parentheses. -/
structure ItemReadersFind (n : Nat) : Prop where
  items : ∀ closing done, Finds (done.reverse.flatMap Item.tupleOffsets) (items n closing done)
    (·.flatMap Item.tupleOffsets)
  block : Finds [] (block n) (·.items.flatMap Item.tupleOffsets)
  item : Finds [] (item n) foundOffsets
  declaration : Finds [] (declaration n) foundOffsets
  function : ∀ position keyword, Finds [] (function n position keyword) foundOffsets
  nominal : ∀ position kind, Finds [] (nominal n position kind) foundOffsets

namespace ItemReadersFind

variable {n : Nat} (h : ItemReadersFind n)
include h

theorem succ_items (closing : Bool) (done : List Item) :
    Finds (done.reverse.flatMap Item.tupleOffsets) (TokenParser.items (n + 1) closing done)
      (·.flatMap Item.tupleOffsets) := by
  refine Finds.look.bind fun head => ?_
  cases head with
  | none => exact .ite (fun _ => .fail) fun _ => .pure (List.Sublist.refl _)
  | some t =>
    refine .ite (fun _ => .ite (fun _ => ?_) fun _ => .fail) fun _ => .ite (fun _ => ?_) fun _ => ?_
    · exact (Finds.of_splits (splits_skip 1)).bind fun _ => .pure (List.Sublist.refl _)
    · refine (h.block.after _).bind fun block => ?_
      simpa using h.items closing (.block block :: done)
    · refine ((finds_orSkip h.item).after _).bind fun found => ?_
      simpa using h.items closing (found.reverse ++ done)

theorem succ_block :
    Finds [] (TokenParser.block (n + 1)) (·.items.flatMap Item.tupleOffsets) := by
  refine (Finds.of_splits (advances_expect '{').splits).bind fun position => ?_
  exact (h.items true []).bind fun items => .pure (List.Sublist.refl _)

theorem succ_item : Finds [] (TokenParser.item (n + 1)) foundOffsets := by
  refine Finds.look.bind fun word => ?_
  cases word with
  | some operator => exact .map (finds_castExpr n operator)
  | none => exact h.declaration

theorem succ_declaration : Finds [] (TokenParser.declaration (n + 1)) foundOffsets := by
  have hnone : Finds [] (Pure.pure none) foundOffsets := .pure (List.nil_sublist _)
  refine Finds.look.bind fun afterDot => .ite (fun _ => hnone) fun _ => ?_
  refine Finds.look.bind fun position => ?_
  refine (Finds.of_splits (splits_many advancesIfFound_modifier?.splits)).bind fun _ => ?_
  refine Finds.look.bind fun word => ?_
  refine .ite (fun _ => ?_) fun _ => .ite (fun _ => h.function _ _) fun _ =>
    .ite (fun _ => finds_typeAlias n position) fun _ => ?_
  · refine (Finds.of_splits (splits_skip 1)).bind fun _ => ?_
    refine (finds_bindings n position).bind fun found => ?_
    cases found with
    | nil => exact hnone
    | cons => exact .pure (List.Sublist.refl _)
  · split
    · exact h.nominal _ _
    · exact hnone

theorem succ_function (position : Nat) (keyword : String) :
    Finds [] (TokenParser.function (n + 1) position keyword) foundOffsets := by
  have hnone : Finds [] (Pure.pure none) foundOffsets := .pure (List.nil_sublist _)
  refine (Finds.of_splits (splits_skip 1)).bind fun _ => ?_
  refine (Finds.of_splits (splits_functionName keyword)).bind fun name =>
    .ite (fun _ => hnone) fun _ => ?_
  refine (Finds.of_splits splits_angles).bind fun _ => ?_
  refine (Finds.of_splits (takes_eats '(').splits).bind fun opened =>
    .ite (fun _ => ?_) fun _ => hnone
  refine (finds_parameters n).bind fun parameters => ?_
  refine (Finds.of_splits splits_effects).bind fun effects => ?_
  refine ((Finds.optionally splits_arrow (finds_typeExpr n)).after _).bind fun result => ?_
  refine ((finds_whereClause n).after _).bind fun requirements => ?_
  refine ((Finds.optionally (fun _ => .look trivial) h.block).after _).bind fun body => ?_
  exact .pure (by simp [foundOffsets])

theorem succ_nominal (position : Nat) (kind : NominalKind) :
    Finds [] (TokenParser.nominal (n + 1) position kind) foundOffsets := by
  have hnone : Finds [] (Pure.pure none) foundOffsets := .pure (List.nil_sublist _)
  refine (Finds.of_splits (splits_skip 1)).bind fun _ => ?_
  refine (Finds.of_splits splits_nominalName).bind fun name => .ite (fun _ => hnone) fun _ => ?_
  refine (Finds.of_splits splits_angles).bind fun _ => ?_
  refine (finds_inherited n).bind fun inherits => ?_
  refine ((finds_whereClause n).after _).bind fun requirements => ?_
  refine Finds.look.bind fun opened => .ite (fun _ => ?_) fun _ => .pure (List.nil_sublist _)
  exact (h.block.after _).bind fun members => .pure (by simp [foundOffsets])

theorem succ : ItemReadersFind (n + 1) where
  items := h.succ_items
  block := h.succ_block
  item := h.succ_item
  declaration := h.succ_declaration
  function := h.succ_function
  nominal := h.succ_nominal

end ItemReadersFind

/-- **The readers of items find tuples in source order**, whatever their bound. -/
theorem itemReadersFind (n : Nat) : ItemReadersFind n := by
  induction n with
  | zero => constructor <;> intros <;> exact .fail
  | succ n ih => exact ih.succ

/-! ## Files -/

theorem parens_following (before : Option Token) (tokens : List Token) :
    parens (Placed.following before tokens) =
      (tokens.filter (·.is '(')).map (·.start) := by
  induction tokens generalizing before with
  | nil => rfl
  | cons t tokens ih =>
    have := ih (some t)
    simp only [parens] at this ⊢
    simp only [Placed.following, List.filter_cons]
    split
    · simpa using this
    · simpa using this

end TokenParser

open TokenParser in
/-- The tuples of a file that tokens say are at parentheses of the tokens, in order. -/
theorem SourceFile.sublist_of_ofTokens {size : Nat} {tokens : List Token} {file : SourceFile}
    (h : SourceFile.ofTokens size tokens = .ok file) :
    (file.observations.map (·.position)).Sublist ((tokens.filter (·.is '(')).map (·.start)) := by
  unfold SourceFile.ofTokens at h
  split at h
  · next found rest hrun =>
    cases h
    -- what is left unread holds no tuple of the tree, so the order is that of all parentheses
    obtain ⟨used, hused, hfinds⟩ := (itemReadersFind _).items false [] _ hrun
    have hfile : (Node.file ⟨found⟩).tupleOffsets = found.flatMap Item.tupleOffsets := by
      rw [Node.tupleOffsets_eq, Node.children, List.flatMap_map]
      rfl
    rw [← parens_following none, ← Placed.ofTokens, hused, parens_append]
    exact (hfile.symm ▸ hfinds : (Node.file ⟨found⟩).tupleOffsets.Sublist (parens used)).trans
      (List.sublist_append_left ..)
  · cases h

/-- **Tuples are observed in source order.** In a text that can be read, the tuples of the tree
are listed by strictly increasing offset, so none is listed twice; each is at a parenthesis of the
text; and sorting them by offset, as the rule does, changes nothing. -/
theorem observations_in_source_order {source : Text} {file : SourceFile}
    (h : SourceFile.parse source = .ok file) :
    (file.observations.map (·.position)).Pairwise (· < ·) ∧
      (∃ tokens, tokenize source = .ok tokens ∧
        ∀ o ∈ file.observations, ∃ t ∈ tokens, t.is '(' ∧ t.start = o.position) ∧
      (file.observations.mergeSort fun a b => decide (a.position ≤ b.position)) =
        file.observations ∧
      ∀ rule : Rule, rule.validate file = file.observations.filterMap rule.judge := by
  obtain ⟨tokens, htokens, -, hfile⟩ := SourceFile.parse_eq_ok.1 h
  have htiles := tiles_of_tokenize htokens
  -- a token spans something and ends before the next one starts, so starts increase
  have hstarts : tokens.Pairwise fun a b => a.start < b.start :=
    htiles.ordered.imp_of_mem fun ha _ hle => (htiles.within _ ha).2.1.trans_le hle
  have hsub := SourceFile.sublist_of_ofTokens hfile
  have hincreasing : (file.observations.map (·.position)).Pairwise (· < ·) :=
    .sublist hsub (List.pairwise_map.2 (hstarts.filter _))
  have hsorted : (file.observations.mergeSort fun a b => decide (a.position ≤ b.position)) =
      file.observations :=
    List.mergeSort_of_pairwise
      ((List.pairwise_map.1 hincreasing).imp fun hlt => decide_eq_true hlt.le)
  refine ⟨hincreasing, ⟨tokens, htokens, fun o ho => ?_⟩, hsorted, fun rule => ?_⟩
  · obtain ⟨t, ht, hstart⟩ := List.mem_map.1 (hsub.subset (List.mem_map_of_mem ho))
    obtain ⟨hmem, hparen⟩ := List.mem_filter.1 ht
    exact ⟨t, hmem, hparen, hstart⟩
  · rw [Rule.validate, Rule.evaluate, hsorted]

/-- Two bindings of one declaration, a tuple inside a tuple, and a type alias that is given up
after its tuple has been read. -/
theorem given_up_alias_in_source_order :
    ∃ file, SourceFile.parse
        "let a: (A, B), b: (C, (D, E))\ntypealias F = (G, let c: (H, I)".toList = .ok file ∧
      (file.observations.map (·.position)).Pairwise (· < ·) := by
  have hok : (SourceFile.parse
      "let a: (A, B), b: (C, (D, E))\ntypealias F = (G, let c: (H, I)".toList).isOk := by
    decide +kernel
  revert hok
  generalize hparse : SourceFile.parse _ = result
  intro hok
  cases result with
  | ok file => exact ⟨file, rfl, (observations_in_source_order hparse).1⟩
  | error e => cases hok

end SwiftTuples
