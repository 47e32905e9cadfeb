import SwiftTuples.Proofs.Parsing.Deriving
/-!
# Nodes anchored in tokens

A node that is read begins with a token, and what is inside it stands in the tokens from that one
on, before the next node begins. `Anchored ns used` says so of the nodes `ns` and the tokens `used`,
of which some may belong to no node. Only the bindings of one declaration begin together.

For types this is read off their phrases. For items `Anchors before p R` carries it through the
readers: the nodes `before` are those found so far, and what `p` tries and gives up is nowhere among
them. A declaration begins before its keyword, with its attributes and modifiers; so what is inside
it is anchored first (`Declared`), and the node itself where all its tokens are known.
-/

namespace SwiftTuples

/-- The node is a binding of a variable declaration. -/
def Node.isBinding : Node → Bool
  | item (.variable ..) => true
  | _ => false

/-- The nodes stand in the tokens one after the other: a node, or some bindings that begin together,
with what is inside, and then those that follow. -/
inductive Anchored : List Node → List Placed → Prop
  | nil {used : List Placed} : Anchored [] used
  | group {n : Node} {others ns : List Node} {first : Placed} {used : List Placed}
      (before inner more : List Placed) (split : used = before ++ first :: (inner ++ more))
      (starts : ∀ m ∈ n :: others, m.position = first.start)
      (bindings : others ≠ [] → ∀ m ∈ n :: others, m.isBinding)
      (inside : Anchored ((n :: others).flatMap Node.children) (first :: inner))
      (following : Anchored ns more) : Anchored (n :: (others ++ ns)) used

namespace Anchored

variable {n : Node} {ns ms : List Node} {used more : List Placed}

theorem prepend (h : Anchored ns used) (front : List Placed) : Anchored ns (front ++ used) := by
  cases h with
  | nil => exact .nil
  | group before inner more split starts bindings inside following =>
    exact .group (front ++ before) inner more (by simp [split]) starts bindings inside following

/-- **What is anchored in a row is anchored in the row.** -/
theorem append (h : Anchored ns used) (h' : Anchored ms more) :
    Anchored (ns ++ ms) (used ++ more) := by
  induction h with
  | nil => exact h'.prepend _
  | group before inner after split starts bindings inside _ _ ih =>
    rw [List.cons_append, List.append_assoc]
    exact .group before inner (after ++ more) (by simp [split]) starts bindings inside ih

theorem extend (h : Anchored ns used) (more : List Placed) : Anchored ns (used ++ more) := by
  have hnone : Anchored [] more := .nil
  simpa using h.append hnone

/-- Nodes that begin together are anchored where they begin and hold their children. -/
theorem together {others : List Node} (starts : ∀ m ∈ n :: others, StartsAt used m.position)
    (bindings : others ≠ [] → ∀ m ∈ n :: others, m.isBinding)
    (inside : Anchored ((n :: others).flatMap Node.children) used) :
    Anchored (n :: others) used := by
  cases used with
  | nil => cases starts n List.mem_cons_self
  | cons first inner =>
    have hfirst : ∀ m ∈ n :: others, m.position = first.start :=
      fun m hm => (Option.some.inj (starts m hm)).symm
    have hanchored : Anchored (n :: (others ++ [])) (first :: inner) :=
      .group [] inner [] (by simp) hfirst bindings inside .nil
    rwa [List.append_nil] at hanchored

theorem node (starts : StartsAt used n.position) (inside : Anchored n.children used) :
    Anchored [n] used :=
  .together (by simpa using starts) (by simp) (by simpa using inside)

end Anchored

/-! ## Types -/

namespace Phrase

variable {part : Part} {t : TypeExpr} {used rest : List Placed}

theorem anchored_type (h : Phrase part used rest) (ht : part.type? = some t)
    (inside : Anchored (part.inside.map Node.type) used) : Anchored [.type t] used :=
  .node (h.startsAt ht) (by rwa [Part.inside_eq_children ht] at inside)

/-- The types directly inside a phrase are anchored in its tokens. -/
theorem anchored_inside (h : Phrase part used rest) :
    Anchored (part.inside.map Node.type) used := by
  induction h with
  | plain _ ih | single _ _ ih | suffixed _ _ ih => exact ih
  | noConjunct | noArguments | closed => exact .nil
  | attributed _ _ _ base ih => exact (base.anchored_type rfl ih).prepend _
  | composition _ first _ _ ihfirst ihothers =>
    exact (first.anchored_type rfl ihfirst).append ihothers
  | @conjunct sign _ _ _ _ _ _ type _ ihtype ihothers =>
    exact ((type.anchored_type rfl ihtype).append ihothers).prepend [sign]
  | @named word _ _ _ _ _ _ ih => exact ih.prepend [word]
  | @tuple paren _ _ _ _ _ _ ih => exact ih.prepend [paren]
  | @function paren arrow _ _ _ _ words more _ _ _ _ _ result ih ihresult =>
    have hresult := (result.anchored_type rfl ihresult).prepend (words ++ [arrow])
    simpa [Part.inside, TypeExpr.children] using (ih.append hresult).prepend [paren]
  | @array bracket close _ _ _ _ element _ ih =>
    exact ((element.anchored_type rfl ih).extend [close]).prepend [bracket]
  | @dictionary bracket colon close _ _ _ _ _ _ key _ value _ ihkey ihvalue =>
    have hvalue := ((value.anchored_type rfl ihvalue).extend [close]).prepend [colon]
    exact ((key.anchored_type rfl ihkey).append hvalue).prepend [bracket]
  | @optional _ _ _ sign _ _ _ wrapped _ _ ih => exact (wrapped.anchored_type rfl ih).extend [sign]
  | @member _ _ dot word _ _ _ _ _ _ base _ _ _ ihbase ih =>
    exact (base.anchored_type rfl ihbase).append (ih.prepend [dot, word])
  | @arguments bracket close _ _ _ _ _ _ _ ih => exact (ih.extend [close]).prepend [bracket]
  | lastType type _ ih => exact type.anchored_type rfl ih
  | @nextType _ comma _ _ _ _ type _ _ ihtype ih =>
    exact (type.anchored_type rfl ihtype).append (ih.prepend [comma])
  | @lastElement _ _ close names _ trailer _ _ type _ _ ih =>
    exact ((type.anchored_type rfl ih).extend (trailer ++ [close])).prepend names
  | @nextElement _ _ comma _ names _ trailer _ _ _ type _ _ _ ihtype ih =>
    have hothers := ih.prepend (trailer ++ [comma])
    simpa [Part.inside] using ((type.anchored_type rfl ihtype).append hothers).prepend names

end Phrase

namespace TokenParser

variable {α β : Type}

theorem anchored_typeExpr (n : Nat) : Takes (typeExpr n) fun t => Anchored [.type t] := by
  intro ts t rest h
  obtain ⟨used, rfl, phrase⟩ := phrase_of_typeExpr h
  exact ⟨used, rfl, phrase.anchored_type rfl phrase.anchored_inside⟩

theorem anchored_types (n : Nat) : Takes (types n) fun ts => Anchored (ts.map Node.type) := by
  intro ts found rest h
  obtain ⟨used, rfl, phrase⟩ := (typeReadersDerive n).types h
  exact ⟨used, rfl, phrase.anchored_inside⟩

/-! ## What readers anchor -/

/-- Where the nodes `before` are anchored in the tokens before, `R` holds of the answer and of all
tokens up to where the parser stops. -/
def Anchors (before : List Node) (p : TokenParser α) (R : α → List Placed → Prop) : Prop :=
  Takes p fun a used => ∀ front, Anchored before front → R a (front ++ used)

namespace Anchors

variable {before : List Node} {p q : TokenParser α} {R : α → List Placed → Prop}
  {S : β → List Placed → Prop}

theorem pure {a : α} (h : ∀ front, Anchored before front → R a front) :
    Anchors before (pure a : TokenParser α) R :=
  fun _ => .pure fun front hfront => by simpa using h front hfront

theorem fail {cause : SyntaxCause} : Anchors before (fail cause : TokenParser α) R :=
  fun _ => .fail

/-- **What is found first stands first.** -/
theorem bind {f : α → List Node} {g : α → TokenParser β}
    (hp : Anchors before p fun a => Anchored (f a)) (hg : ∀ a, Anchors (f a) (g a) S) :
    Anchors before (p >>= g) S := by
  refine fun ts => (hp ts).bind fun a used rest _ ha => (hg a rest).mono fun b more hb => ?_
  intro front hfront
  rw [← List.append_assoc]
  exact hb _ (ha front hfront)

theorem map {g : α → β} (hp : Anchors before p fun a => S (g a)) : Anchors before (g <$> p) S :=
  fun ts => (hp ts).map fun _ _ ha => ha

theorem ite {c : Prop} [Decidable c] (hp : c → Anchors before p R) (hq : ¬ c → Anchors before q R) :
    Anchors before (if c then p else q) R :=
  fun ts => .ite (fun h => hp h ts) fun h => hq h ts

/-- A parser whose answer holds no node leaves those before it as they are. -/
theorem of_splits (hp : Splits p) : Anchors before p fun _ => Anchored before :=
  fun ts => (hp ts).mono fun _ _ _ _ hfront => hfront.extend _

theorem look {f : List Placed → α} : Anchors before (look f) fun _ => Anchored before :=
  of_splits fun _ => .look trivial

/-- What a parser finds comes after what is there. -/
theorem of_takes {f : α → List Node} (hp : Takes p fun a => Anchored (f a)) :
    Anchors before p fun a => Anchored (before ++ f a) :=
  fun ts => (hp ts).mono fun _ _ ha _ hfront => hfront.append ha

theorem optionally {f : α → List Node} {mark : TokenParser Bool} (hmark : Splits mark)
    (hp : Takes p fun a => Anchored (f a)) :
    Anchors before (optionally mark p) fun found =>
      Anchored (before ++ found.toList.flatMap f) := by
  refine (of_splits hmark).bind fun _ => .ite (fun _ => ?_) fun _ => .pure (by simp)
  exact .map (by simpa using of_takes hp)

theorem takes (hp : Anchors [] p R) : Takes p R :=
  fun ts => (hp ts).mono fun _ _ ha => by simpa using ha [] .nil

end Anchors

/-- Two facts on what a parser takes hold together. -/
theorem TakesAt.and {p : TokenParser α} {ts : List Placed} {R S : α → List Placed → Prop}
    (h : TakesAt p ts R) (h' : TakesAt p ts S) :
    TakesAt p ts fun a used => R a used ∧ S a used := by
  intro a rest hp
  obtain ⟨used, rfl, hR⟩ := h hp
  obtain ⟨used', hsplit, hS⟩ := h' hp
  obtain rfl := List.append_cancel_right hsplit
  exact ⟨used, rfl, hR, hS⟩

/-! ## Parts of items -/

theorem anchored_bindings (n position : Nat) :
    Takes (bindings n position) fun found => Anchored (found.flatMap Node.insideItem) := by
  induction n with
  | zero => exact fun _ => .fail
  | succ n ih =>
    refine Anchors.takes ((Anchors.of_splits advancesIfFound_binder?.splits).bind fun binder => ?_)
    cases binder with
    | none => exact .pure (by simp)
    | some binder =>
      refine (Anchors.optionally splits_declaredColon (anchored_typeExpr n)).bind fun declared => ?_
      refine Anchors.look.bind fun goesOn => .ite (fun _ => ?_) fun _ => .pure ?_
      · refine (Anchors.of_splits (splits_skip 1)).bind fun _ => ?_
        refine (Anchors.of_takes ih).bind fun others => .pure ?_
        simp [Node.insideItem, List.map_eq_flatMap]
      · simp [Node.insideItem, List.map_eq_flatMap]

/-- Bindings are bindings of the declaration that starts at the offset. -/
theorem takes_bindings_at (n position : Nat) : Takes (bindings n position) fun found _ =>
    ∀ i ∈ found, i.position = position ∧ (Node.item i).isBinding := by
  induction n with
  | zero => exact fun _ => .fail
  | succ n ih =>
    refine fun ts => (advancesIfFound_binder? ts).bind fun binder _ rest _ _ => ?_
    cases binder with
    | none => exact .pure (by simp)
    | some binder =>
      refine (splits_optionally splits_declaredColon (typeReadersAdvance n).typeExpr.splits
        rest).bind fun declared _ rest _ _ => ?_
      have hitem : (Item.variable position binder declared).position = position ∧
          (Node.item (.variable position binder declared)).isBinding := ⟨rfl, rfl⟩
      refine .look_bind (.ite (fun _ => ?_) fun _ => .pure (List.forall_mem_singleton.2 hitem))
      refine (splits_skip 1 rest).bind fun _ _ rest _ _ => ?_
      exact (ih rest).bind fun others _ _ _ hothers =>
        .pure (List.forall_mem_cons.2 ⟨hitem, hothers⟩)

theorem anchored_parameters (n : Nat) :
    Takes (parameters n) fun ps => Anchored (ps.map fun p => Node.type p.type) := by
  induction n with
  | zero => exact fun _ => .fail
  | succ n ih =>
    refine Anchors.takes ((Anchors.of_splits (takes_eats ')').splits).bind fun closed =>
      .ite (fun _ => .pure (by simp)) fun _ => ?_)
    refine (Anchors.of_splits (splits_many advancesIfFound_attribute?.splits)).bind fun _ => ?_
    refine (Anchors.of_splits splits_parameterNames).bind fun names => ?_
    refine (Anchors.of_splits (advances_expect ':').splits).bind fun _ => ?_
    refine (Anchors.of_takes (anchored_typeExpr n)).bind fun type => ?_
    refine (Anchors.of_splits splits_trailer).bind fun _ => ?_
    refine (Anchors.of_splits (takes_eats ',').splits).bind fun goesOn =>
      .ite (fun _ => ?_) fun _ => ?_
    · exact (Anchors.of_takes ih).bind fun others => .pure (by simp)
    · refine (Anchors.of_splits (takes_eats ')').splits).bind fun closed => ?_
      exact .ite (fun _ => .pure (by simp)) fun _ => .fail

theorem anchored_requirements (n : Nat) :
    Takes (requirements n) fun rs => Anchored (Node.ofRequirements rs) := by
  induction n with
  | zero => exact fun _ => .fail
  | succ n ih =>
    refine Anchors.takes ((Anchors.of_takes (anchored_typeExpr n)).bind fun subject => ?_)
    refine (Anchors.of_splits advances_relation.splits).bind fun sameType => ?_
    refine (Anchors.of_takes (anchored_typeExpr n)).bind fun constraint => ?_
    refine (Anchors.of_splits (takes_eats ',').splits).bind fun goesOn =>
      .ite (fun _ => ?_) fun _ => .pure (by simp [Node.ofRequirements, Requirement.types])
    exact (Anchors.of_takes ih).bind fun others =>
      .pure (by simp [Node.ofRequirements, Requirement.types])

theorem anchored_whereClause (n : Nat) :
    Takes (whereClause n) fun rs => Anchored (Node.ofRequirements rs) := by
  refine Anchors.takes (Anchors.look.bind fun opens => .ite (fun _ => ?_) fun _ => .pure (by
    simp [Node.ofRequirements]))
  exact (Anchors.of_splits (splits_skip 1)).bind fun _ => Anchors.of_takes (anchored_requirements n)

theorem anchored_inherited (n : Nat) :
    Takes (inherited n) fun ts => Anchored (ts.map Node.type) := by
  refine Anchors.takes ((Anchors.of_splits (takes_eats ':').splits).bind fun opens =>
    .ite (fun _ => ?_) fun _ => .pure (by simp))
  exact Anchors.of_takes (anchored_types n)

/-! ## Declarations -/

/-- Items that begin together at the offset: one, or bindings. What is inside them is anchored in
the tokens. -/
structure Declared (position : Nat) (found : List Item) (used : List Placed) : Prop where
  starts : ∀ i ∈ found, i.position = position
  bindings : found.length ≤ 1 ∨ ∀ i ∈ found, (Node.item i).isBinding
  inside : Anchored (found.flatMap Node.insideItem) used

namespace Declared

variable {position : Nat} {i : Item} {found : List Item} {used : List Placed}

theorem nil : Declared position [] used := ⟨by simp, by simp, .nil⟩

theorem singleton (starts : i.position = position) (inside : Anchored (Node.insideItem i) used) :
    Declared position [i] used :=
  ⟨by simpa using starts, by simp, by simpa using inside⟩

/-- What is found inside a declaration's tokens is found in all of them. -/
theorem prepend (h : Declared position found used) (front : List Placed) :
    Declared position found (front ++ used) :=
  ⟨h.starts, h.bindings, h.inside.prepend front⟩

/-- Items that begin where the tokens do are anchored in them. -/
theorem anchored (h : Declared position found used) (starts : found ≠ [] → StartsAt used position) :
    Anchored (found.map Node.item) used := by
  cases found with
  | nil => exact .nil
  | cons i others =>
    refine .together ?starts ?bindings (by simpa [List.flatMap_map, Node.children] using h.inside)
    case starts =>
      rw [← List.map_cons]
      refine List.forall_mem_map.2 fun j hj => ?_
      rw [Node.position, h.starts j hj]
      exact starts (List.cons_ne_nil _ _)
    case bindings =>
      intro hne
      rw [← List.map_cons]
      refine List.forall_mem_map.2 fun j hj => ?_
      rcases h.bindings with hlength | hbindings
      · exact absurd (by simpa using hlength) hne
      · exact hbindings j hj

end Declared

/-- The items that a reader may have found, from the offset on. -/
def DeclaredIfFound (position : Nat) (found : Option (List Item)) (used : List Placed) : Prop :=
  Declared position (found.getD []) used

theorem anchors_none {before : List Node} {position : Nat} :
    Anchors before (pure none) (DeclaredIfFound position) :=
  .pure fun _ _ => .nil

theorem anchors_typeAlias (n position : Nat) :
    Anchors [] (typeAlias n position) (DeclaredIfFound position) := by
  refine (Anchors.of_splits (splits_skip 1)).bind fun _ => ?_
  refine (Anchors.of_splits advancesIfFound_name?.splits).bind fun name => ?_
  cases name with
  | none => exact anchors_none
  | some name =>
    refine (Anchors.of_splits splits_angles).bind fun _ => ?_
    refine (Anchors.of_splits (takes_eats '=').splits).bind fun assigned =>
      .ite (fun _ => ?_) fun _ => anchors_none
    exact (Anchors.of_takes (anchored_typeExpr n)).bind fun target =>
      .pure fun _ hfront => .singleton rfl hfront

/-- The items begin where the tokens do. -/
theorem TakesAt.anchored {p : TokenParser α} {ts : List Placed} {items : α → List Item}
    (h : TakesAt p ts fun a => Declared ((ts.head?.map (·.start)).getD 0) (items a))
    (hused : TakesAt p ts fun a used => items a ≠ [] → used ≠ []) :
    TakesAt p ts fun a => Anchored ((items a).map Node.item) := by
  intro a rest hp
  obtain ⟨used, rfl, hdeclared, hne⟩ := (h.and hused) hp
  exact ⟨used, rfl, hdeclared.anchored fun hfound => startsAt_of_ne_nil (hne hfound) rest⟩

theorem anchored_castExpr (n : Nat) (operator : CastOperator) :
    Takes (castExpr n operator) fun found => Anchored (found.map Node.item) := by
  refine fun ts => TakesAt.anchored (.look_bind ?_) ((advances_castExpr n operator ts).mono
    fun _ _ hused _ => hused)
  refine Anchors.takes ((Anchors.of_splits (splits_skip 1)).bind fun _ => ?_) ts
  refine (Anchors.of_splits (splits_castOperator operator)).bind fun operator => ?_
  exact (Anchors.of_takes (anchored_typeExpr n)).bind fun target =>
    .pure fun _ hfront => .singleton rfl hfront

/-- What was tried and given up is anchored nowhere. -/
theorem anchored_orSkip {step : TokenParser (Option (List Item))}
    (h : Takes step fun found => Anchored ((found.getD []).map Node.item)) :
    Takes (orSkip step) fun found => Anchored (found.map Node.item) := by
  intro ts found rest hp
  simp only [orSkip] at hp
  split at hp
  · next found rest hstep =>
    cases hp
    exact h ts hstep
  · cases hp
    exact ⟨ts.take 1, by cases ts <;> rfl, .nil⟩

/-! ## Readers of items -/

/-- The readers of items at bound `n` anchor what they find. -/
structure ItemReadersAnchor (n : Nat) : Prop where
  items : ∀ closing done, Anchors (done.reverse.map Node.item) (items n closing done)
    fun found => Anchored (found.map Node.item)
  block : Takes (block n) fun b => Anchored [Node.ofBlock b]
  item : Takes (item n) fun found => Anchored ((found.getD []).map Node.item)
  declaration : Takes (declaration n) fun found => Anchored ((found.getD []).map Node.item)
  function : ∀ position keyword, Anchors [] (function n position keyword) (DeclaredIfFound position)
  nominal : ∀ position kind, Anchors [] (nominal n position kind) (DeclaredIfFound position)

namespace ItemReadersAnchor

variable {n : Nat} (h : ItemReadersAnchor n)
include h

theorem succ_items (closing : Bool) (done : List Item) :
    Anchors (done.reverse.map Node.item) (TokenParser.items (n + 1) closing done)
      fun found => Anchored (found.map Node.item) := by
  refine Anchors.look.bind fun head => ?_
  cases head with
  | none => exact .ite (fun _ => .fail) fun _ => .pure fun _ hfront => hfront
  | some t =>
    refine .ite (fun _ => .ite (fun _ => ?_) fun _ => .fail) fun _ => .ite (fun _ => ?_) fun _ => ?_
    · exact (Anchors.of_splits (splits_skip 1)).bind fun _ => .pure fun _ hfront => hfront
    · refine (Anchors.of_takes h.block).bind fun block => ?_
      simpa [Node.ofBlock] using h.items closing (.block block :: done)
    · refine (Anchors.of_takes (anchored_orSkip h.item)).bind fun found => ?_
      simpa using h.items closing (found.reverse ++ done)

theorem succ_block : Takes (TokenParser.block (n + 1)) fun b => Anchored [Node.ofBlock b] := by
  intro ts
  refine (takes_expect '{' ts).bind fun position used rest _ hused => ?_
  obtain ⟨t, -, rfl, rfl⟩ := hused
  refine ((h.items true []).takes rest).bind fun items more _ _ hmore => .pure ?_
  rw [List.append_nil]
  exact .node (startsAt_cons t more) (hmore.prepend [t])

theorem succ_item : Takes (TokenParser.item (n + 1)) fun found =>
    Anchored ((found.getD []).map Node.item) := by
  intro ts
  refine .look_bind ?_
  split
  · next operator _ => exact (anchored_castExpr n operator ts).map fun _ _ hfound => hfound
  · exact h.declaration ts

theorem succ_declaration : Takes (TokenParser.declaration (n + 1)) fun found =>
    Anchored ((found.getD []).map Node.item) := by
  intro ts
  have hused := (itemReadersAdvance (n + 1)).declaration ts
  refine TakesAt.anchored ?_ (hused.mono fun found used hused hfound => hused ?_)
  · refine .look_bind (.ite (fun _ => .pure .nil) fun _ => .look_bind ?_)
    generalize (ts.head?.map (·.start)).getD 0 = position
    refine Anchors.takes (R := DeclaredIfFound position)
      ((Anchors.of_splits (splits_many advancesIfFound_modifier?.splits)).bind fun _ => ?_) ts
    refine Anchors.look.bind fun word => ?_
    refine .ite (fun _ => ?_) fun _ => .ite (fun _ => h.function _ _) fun _ =>
      .ite (fun _ => anchors_typeAlias n position) fun _ => ?_
    · refine (Anchors.of_splits (splits_skip 1)).bind fun _ => ?_
      intro ts
      refine ((anchored_bindings n position ts).and (takes_bindings_at n position ts)).bind
        fun found used _ _ hfound => ?_
      have hdeclared : Declared position found used :=
        ⟨fun i hi => (hfound.2 i hi).1, .inr fun i hi => (hfound.2 i hi).2, hfound.1⟩
      cases found with
      | nil => exact .pure fun _ _ => .nil
      | cons => exact .pure fun front _ => by simpa [DeclaredIfFound] using hdeclared.prepend front
    · split
      · exact h.nominal _ _
      · exact anchors_none
  · cases found with
    | none => exact absurd rfl hfound
    | some => rfl

theorem succ_function (position : Nat) (keyword : String) :
    Anchors [] (TokenParser.function (n + 1) position keyword) (DeclaredIfFound position) := by
  refine (Anchors.of_splits (splits_skip 1)).bind fun _ => ?_
  refine (Anchors.of_splits (splits_functionName keyword)).bind fun name =>
    .ite (fun _ => anchors_none) fun _ => ?_
  refine (Anchors.of_splits splits_angles).bind fun _ => ?_
  refine (Anchors.of_splits (takes_eats '(').splits).bind fun opened =>
    .ite (fun _ => ?_) fun _ => anchors_none
  refine (Anchors.of_takes (anchored_parameters n)).bind fun parameters => ?_
  refine (Anchors.of_splits splits_effects).bind fun effects => ?_
  refine (Anchors.optionally splits_arrow (anchored_typeExpr n)).bind fun result => ?_
  refine (Anchors.of_takes (anchored_whereClause n)).bind fun requirements => ?_
  refine (Anchors.optionally (fun _ => .look trivial) h.block).bind fun body => ?_
  refine .pure fun _ hfront => .singleton rfl ?_
  simpa [Node.insideItem, List.map_eq_flatMap] using hfront

theorem succ_nominal (position : Nat) (kind : NominalKind) :
    Anchors [] (TokenParser.nominal (n + 1) position kind) (DeclaredIfFound position) := by
  refine (Anchors.of_splits (splits_skip 1)).bind fun _ => ?_
  refine (Anchors.of_splits splits_nominalName).bind fun name =>
    .ite (fun _ => anchors_none) fun _ => ?_
  refine (Anchors.of_splits splits_angles).bind fun _ => ?_
  refine (Anchors.of_takes (anchored_inherited n)).bind fun inherits => ?_
  refine (Anchors.of_takes (anchored_whereClause n)).bind fun requirements => ?_
  refine Anchors.look.bind fun opened => .ite (fun _ => ?_) fun _ => anchors_none
  refine (Anchors.of_takes h.block).bind fun members => .pure fun _ hfront => .singleton rfl ?_
  simpa [Node.insideItem] using hfront

theorem succ : ItemReadersAnchor (n + 1) where
  items := h.succ_items
  block := h.succ_block
  item := h.succ_item
  declaration := h.succ_declaration
  function := h.succ_function
  nominal := h.succ_nominal

end ItemReadersAnchor

/-- **The readers of items anchor what they find**, whatever their bound. -/
theorem itemReadersAnchor (n : Nat) : ItemReadersAnchor n := by
  induction n with
  | zero => constructor <;> intros <;> exact fun _ => .fail
  | succ n ih => exact ih.succ

end TokenParser

end SwiftTuples
