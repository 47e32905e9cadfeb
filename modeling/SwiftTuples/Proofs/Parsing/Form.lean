import SwiftTuples.Proofs.Lexing.Tiling
import SwiftTuples.Proofs.Parsing.Deriving
import SwiftTuples.Syntax.Source
/-!
# The form of a tree

A tree that was read from a text has a form that its type does not give it, whether the text makes
sense or not (`parse_wellFormed`): what stands under `?`, before a dot and between `&` is never a
type that would have taken these for itself, and colons, names and specifiers are there where they
are needed. For types this is read off their phrases; for items `Yields` carries it through the
readers, which also pass over what they cannot read.
-/

namespace SwiftTuples

open TokenParser

/-! ## Nodes -/

namespace Element

/-- The names of an element in order. -/
def names (e : Element TypeExpr) : List String := (e.label.map (·.names)).getD []

/-- The offset of the colon of an element. -/
def colon? (e : Element TypeExpr) : Option Nat := e.label.map (·.colon)

/-- An element has at most two names, and a colon before its type if it has any. -/
structure WellFormed (e : Element TypeExpr) : Prop where
  names_le : e.names.length ≤ 2
  colon_iff : e.colon?.isSome ↔ e.names ≠ []
  colon_lt : ∀ offset ∈ e.colon?, offset < e.type.position

end Element

namespace TypeExpr

/-- The type is a function type. -/
def isFunction : TypeExpr → Bool
  | function .. => true
  | _ => false

/-- The type is made of types joined by `&`. -/
def isComposition : TypeExpr → Bool
  | composition .. => true
  | _ => false

/-- The type has specifiers. -/
def isAttributed : TypeExpr → Bool
  | attributed .. => true
  | _ => false

/-- What the parts directly inside a type have to be. -/
def WellFormed : TypeExpr → Prop
  | tuple _ elements => ∀ e ∈ elements, e.WellFormed
  | function _ parameters _ _ => ∀ e ∈ parameters, e.WellFormed
  | optional _ base _ | member _ base _ _ =>
    ¬ base.isFunction ∧ ¬ base.isComposition ∧ ¬ base.isAttributed
  | composition _ parts =>
    2 ≤ parts.length ∧ (∀ t ∈ parts, ¬ t.isAttributed ∧ ¬ t.isComposition) ∧
      ∀ t ∈ parts.dropLast, ¬ t.isFunction
  | attributed _ specifiers base => specifiers ≠ [] ∧ ¬ base.isAttributed
  | named .. | array .. | dictionary .. => True

end TypeExpr

/-- What the parts directly inside an item have to be. -/
def Item.WellFormed : Item → Prop
  | function _ name parameters _ _ _ _ => name ≠ "" ∧ ∀ p ∈ parameters, p.names ≠ []
  | nominal _ _ name _ _ _ => name ≠ ""
  | cast _ operator _ => operator.text ∈ ["as", "as?", "as!", "is"]
  | block .. | «variable» .. | «alias» .. => True

namespace Node

def isItem : Node → Bool
  | item _ => true
  | _ => false

def isBlock : Node → Bool
  | item (.block _) => true
  | _ => false

def isType : Node → Bool
  | type _ => true
  | _ => false

/-- What the parts directly inside a node have to be. -/
def WellFormed : Node → Prop
  | file _ => True
  | item i => i.WellFormed
  | type t => t.WellFormed

/-- The second node may stand directly inside the first. -/
def Admits : Node → Node → Prop
  | file _, m | item (.block _), m => m.isItem
  | item (.function ..), m | item (.nominal ..), m => m.isType ∨ m.isBlock
  | item (.variable ..), m | item (.alias ..), m | item (.cast ..), m | type _, m => m.isType

/-- What stands directly inside a node is of a kind that the node admits, and never a file. -/
theorem admits_of_mem_children {n m : Node} (h : m ∈ n.children) : n.Admits m := by
  have htypes : ∀ {ts : List TypeExpr}, m ∈ ts.map type → m.isType := by
    intro ts hm
    obtain ⟨t, -, rfl⟩ := List.mem_map.1 hm
    rfl
  have hitems : ∀ {is : List Item}, m ∈ is.map item → m.isItem := by
    intro is hm
    obtain ⟨i, -, rfl⟩ := List.mem_map.1 hm
    rfl
  cases n with
  | file f => exact hitems h
  | type t => exact htypes h
  | item i =>
    cases i with
    | block b => exact hitems h
    | «variable» => exact htypes h
    | «alias» | cast =>
      obtain rfl := List.mem_singleton.1 h
      rfl
    | function p name parameters effects result requirements body =>
      simp only [children, insideItem, List.mem_append] at h
      rcases h with ((h | h) | h) | h
      · obtain ⟨_, -, rfl⟩ := List.mem_map.1 h
        exact .inl rfl
      · exact .inl (htypes h)
      · exact .inl (htypes h)
      · obtain ⟨_, -, rfl⟩ := List.mem_map.1 h
        exact .inr rfl
    | nominal p kind name inherits requirements members =>
      simp only [children, insideItem, List.mem_append, List.mem_singleton] at h
      rcases h with (h | h) | rfl
      · exact .inl (htypes h)
      · exact .inl (htypes h)
      · exact .inr rfl

end Node

/-! ## Phrases -/

/-- Each token starts after the one before it. -/
def Rising (used : List Placed) : Prop := used.Pairwise fun t u => t.start < u.start

namespace Rising

variable {list used : List Placed}

theorem mid (h : Rising used) (before after : List Placed)
    (hused : used = before ++ (list ++ after)) : Rising list :=
  h.sublist (List.IsInfix.sublist ⟨before, after, by simp [hused]⟩)

end Rising

/-- The colon of a label is the last token before the type of its element. -/
theorem Labelled.wellFormed {label : Option Label} {t : TypeExpr} {names used rest : List Placed}
    (h : Labelled label names rest) (starts : StartsAt used t.position)
    (rising : Rising (names ++ used)) : Element.WellFormed ⟨label, t⟩ := by
  obtain ⟨first, more, rfl, hfirst⟩ : ∃ first more, used = first :: more ∧
      first.start = t.position := by
    cases used with
    | nil => cases starts
    | cons first more => exact ⟨first, more, rfl, Option.some.inj starts⟩
  cases h with
  | unlabelled =>
    exact ⟨by simp [Element.names], by simp [Element.names, Element.colon?],
      by simp [Element.colon?]⟩
  | @one word colon =>
    have hpair : Rising [colon, first] := rising.mid [word] more (by simp)
    exact ⟨by simp [Element.names, Label.names],
      by simp [Element.names, Element.colon?, Label.names],
      by simpa [Rising, Element.colon?, hfirst] using hpair⟩
  | @two word word' colon =>
    have hpair : Rising [colon, first] := rising.mid [word, word'] more (by simp)
    exact ⟨by simp [Element.names, Label.names],
      by simp [Element.names, Element.colon?, Label.names],
      by simpa [Rising, Element.colon?, hfirst] using hpair⟩

/-- How far the type of a part goes at most. -/
def Part.Limited : Part → Prop
  | whole _ | arguments _ | types _ | elements _ => True
  | composed t => ¬ t.isAttributed
  | suffixed t | chain t => ¬ t.isAttributed ∧ ¬ t.isComposition
  | conjuncts ts => ∀ t ∈ ts, ¬ t.isAttributed ∧ ¬ t.isComposition

/-- What the parts directly inside a part have to be. -/
def Part.WellFormed : Part → Prop
  | whole t | composed t | suffixed t | chain t => t.WellFormed
  | conjuncts ts => ∀ t ∈ ts.dropLast, ¬ t.isFunction
  | arguments _ | types _ => True
  | elements es => ∀ e ∈ es, e.WellFormed

namespace Phrase

variable {part : Part} {t : TypeExpr} {used rest : List Placed}

theorem limited (h : Phrase part used rest) : part.Limited := by
  induction h with
  | single _ _ ih => exact ih.1
  | suffixed _ _ ih => exact ih
  | noConjunct => exact List.forall_mem_nil _
  | conjunct _ _ _ ihtype ihfollowing => exact List.forall_mem_cons.2 ⟨ihtype, ihfollowing⟩
  | composition => simp [Part.Limited, TypeExpr.isAttributed]
  | named | tuple | function | array | dictionary | optional | member =>
    simp [Part.Limited, TypeExpr.isAttributed, TypeExpr.isComposition]
  | plain | attributed | noArguments | arguments | lastType | nextType | closed | lastElement
  | nextElement => trivial

/-- A function type has taken the suffixes and the conjuncts that could follow it. -/
theorem not_isFunction_of_chain (h : Phrase (.chain t) used rest)
    (hrest : ¬ (EndsChain rest ∧ ¬ startsWith '&' rest)) : ¬ t.isFunction := by
  intro hfunction
  cases t with
  | function => exact hrest h.ends
  | _ => cases hfunction

theorem not_isFunction_of_suffixed (h : Phrase (.suffixed t) used rest)
    (hrest : startsWith '&' rest) : ¬ t.isFunction := by
  cases h with
  | suffixed type _ => exact type.not_isFunction_of_chain fun hends => hends.2 hrest

theorem startsWith_of_conjuncts {ts : List TypeExpr} (h : Phrase (.conjuncts ts) used rest)
    (hne : ts ≠ []) : startsWith '&' (used ++ rest) := by
  cases h with
  | noConjunct => exact absurd rfl hne
  | conjunct marked _ _ => exact marked

/-- **What a phrase says is well formed.** -/
theorem wellFormed (h : Phrase part used rest) (rising : Rising used) : part.WellFormed := by
  induction h with
  | plain _ ih | single _ _ ih | suffixed _ _ ih => exact ih rising
  | attributed _ some_specifier _ base _ => exact ⟨some_specifier, base.limited⟩
  | @composition _ t others used more _ _ first some_other following _ ih =>
    have hfollowing := ih (rising.mid used [] (by simp))
    have hfirst := first.not_isFunction_of_suffixed (following.startsWith_of_conjuncts some_other)
    refine ⟨?_, List.forall_mem_cons.2 ⟨first.limited, following.limited⟩, ?_⟩
    · have := List.length_pos_iff.2 some_other
      rw [List.length_cons]
      omega
    · rw [List.dropLast_cons_of_ne_nil some_other]
      exact List.forall_mem_cons.2 ⟨hfirst, hfollowing⟩
  | noConjunct => exact List.forall_mem_nil _
  | @conjunct sign t others used more _ _ type following _ ih =>
    have hfollowing := ih (rising.mid (sign :: used) [] (by simp))
    by_cases hne : others = []
    · subst hne
      exact List.forall_mem_nil _
    · rw [Part.WellFormed, List.dropLast_cons_of_ne_nil hne]
      have htype := type.not_isFunction_of_suffixed (following.startsWith_of_conjuncts hne)
      exact List.forall_mem_cons.2 ⟨htype, hfollowing⟩
  | named | array | dictionary | noArguments | arguments | lastType | nextType => trivial
  | @tuple paren _ used _ _ _ _ ih => exact ih (rising.mid [paren] [] (by simp))
  | @function paren arrow _ _ _ used words more _ _ _ _ _ _ ih _ =>
    exact ih (rising.mid [paren] (words ++ arrow :: more) (by simp))
  | optional _ wrapped marked touching _ =>
    refine ⟨wrapped.not_isFunction_of_chain fun hends => ?_, wrapped.limited.2,
      wrapped.limited.1⟩
    rcases marked with ⟨-, marked⟩ | ⟨-, marked⟩
    · exact hends.1.question (by simp [startsTouching, marked, touching])
    · exact hends.1.exclamation (by simp [startsTouching, marked, touching])
  | member _ base marked named _ _ _ =>
    refine ⟨base.not_isFunction_of_chain fun hends => ?_, base.limited.2, base.limited.1⟩
    exact hends.1.member ⟨marked, by simp [startsWithWord, word?, named]⟩
  | closed => exact List.forall_mem_nil _
  | @lastElement _ _ close names used trailer _ labelled type _ _ _ =>
    exact List.forall_mem_singleton.2
      (labelled.wellFormed (type.startsAt rfl) (rising.mid [] (trailer ++ [close]) (by simp)))
  | @nextElement _ _ comma _ names used trailer more _ labelled type _ _ _ _ ih =>
    refine List.forall_mem_cons.2 ⟨?_, ih (rising.mid (names ++ (used ++ (trailer ++ [comma]))) []
      (by simp))⟩
    exact labelled.wellFormed (type.startsAt rfl)
      (rising.mid [] (trailer ++ comma :: more) (by simp))

end Phrase

/-! ## Trees -/

/-- The node and all nodes inside it are well formed. -/
def Node.Formed (n : Node) : Prop := n.Throughout WellFormed

/-- The type and all types inside it are well formed. -/
def TypeExpr.Formed (t : TypeExpr) : Prop := (Node.type t).Formed

/-- The item and all that is inside it are well formed. -/
def Item.Formed (i : Item) : Prop := (Node.item i).Formed

theorem Item.formed_iff {i : Item} :
    i.Formed ↔ i.WellFormed ∧ ∀ m ∈ Node.insideItem i, m.Formed := Node.throughout_iff

theorem Item.formed_block {b : Block Item} (h : ∀ i ∈ b.items, i.Formed) :
    (Item.block b).Formed :=
  formed_iff.2 ⟨trivial, List.forall_mem_map.2 h⟩

/-- A type that tokens hold is well formed throughout. -/
theorem Holds.formed {t : TypeExpr} {used rest : List Placed} (h : Holds t used rest)
    (rising : Rising used) : t.Formed := by
  obtain ⟨part, before, list, more, rfl, ht, phrase⟩ := h
  have risingList : Rising list := rising.mid before more rfl
  refine (phrase.throughout ht).mono ?_
  rintro _ ⟨u, rfl, part, before, list, more, rfl, hu, inner⟩
  have hinner := inner.wellFormed (risingList.mid before more rfl)
  cases part <;> cases hu <;> exact hinner

/-! ## What readers yield -/

namespace TokenParser

variable {α β : Type}

/-- What the parser answers with, on tokens of which each starts after the one before it, is as `P`
says. -/
def Yields (p : TokenParser α) (P : α → Prop) : Prop :=
  ∀ ts, Rising ts → TakesAt p ts fun a _ => P a

namespace Yields

variable {p : TokenParser α} {P : α → Prop} {Q : β → Prop}

theorem pure {a : α} (h : P a) : Yields (pure a : TokenParser α) P := fun _ _ => .pure h

theorem fail {cause : SyntaxCause} : Yields (fail cause : TokenParser α) P := fun _ _ => .fail

theorem bind {f : α → TokenParser β} (hp : Yields p P) (hf : ∀ a, P a → Yields (f a) Q) :
    Yields (p >>= f) Q := by
  intro ts rising
  refine (hp ts rising).bind fun a used rest hts ha => hf a ha rest ?_
  exact rising.mid used [] (by simp [hts])

theorem map {f : α → β} (hp : Yields p P) (h : ∀ a, P a → Q (f a)) : Yields (f <$> p) Q :=
  hp.bind fun a ha => .pure (h a ha)

theorem of_splits (hp : Splits p) : Yields p fun _ => True := fun ts _ => hp ts

theorem look {f : List Placed → α} : Yields (look f) fun _ => True :=
  of_splits fun _ => .look trivial

theorem ite {c : Prop} [Decidable c] {q : TokenParser α} (hp : c → Yields p P)
    (hq : ¬ c → Yields q P) : Yields (if c then p else q) P :=
  fun ts rising => .ite (fun h => hp h ts rising) fun h => hq h ts rising

theorem optionally {mark : TokenParser Bool} (hmark : Splits mark) (hp : Yields p P) :
    Yields (optionally mark p) fun found => ∀ a ∈ found, P a :=
  (of_splits hmark).bind fun _ _ =>
    .ite (fun _ => hp.map fun a ha => by simpa using ha) fun _ => .pure (by simp)

end Yields

theorem yields_typeExpr (n : Nat) : Yields (typeExpr n) (·.Formed) := by
  intro ts rising t rest h
  obtain ⟨used, rfl, phrase⟩ := phrase_of_typeExpr h
  exact ⟨used, rfl, (Holds.of_phrase rfl phrase).formed (rising.mid [] rest (by simp))⟩

theorem yields_types (n : Nat) : Yields (types n) fun ts => ∀ t ∈ ts, t.Formed := by
  intro ts rising types rest h
  obtain ⟨used, rfl, phrase⟩ := (typeReadersDerive n).types h
  have risingUsed : Rising used := rising.mid [] rest (by simp)
  exact ⟨used, rfl, fun t ht => (phrase.inside t ht).formed risingUsed⟩

/-! ## Parts of items -/

theorem yields_bindings (n position : Nat) :
    Yields (bindings n position) fun found => ∀ i ∈ found, i.Formed := by
  induction n with
  | zero => exact .fail
  | succ n ih =>
    refine (Yields.of_splits advancesIfFound_binder?.splits).bind fun binder _ => ?_
    cases binder with
    | none => exact .pure (by simp)
    | some binder =>
      refine (Yields.optionally splits_declaredColon (yields_typeExpr n)).bind
        fun declared hdeclared => ?_
      have hitem : (Item.variable position binder declared).Formed :=
        Item.formed_iff.2 ⟨trivial, List.forall_mem_map.2 fun t ht =>
          hdeclared t (Option.mem_toList.1 ht)⟩
      refine Yields.look.bind fun goesOn _ =>
        .ite (fun _ => ?_) fun _ => .pure (List.forall_mem_singleton.2 hitem)
      refine (Yields.of_splits (splits_skip 1)).bind fun _ _ => ?_
      exact ih.bind fun found hfound => .pure (List.forall_mem_cons.2 ⟨hitem, hfound⟩)

theorem yields_parameterNames : Yields parameterNames (· ≠ []) := by
  refine (Yields.of_splits (splits_many advancesIfFound_name?.splits)).bind fun names _ => ?_
  cases names with
  | nil => exact .fail
  | cons => exact .pure (List.cons_ne_nil _ _)

theorem yields_parameters (n : Nat) :
    Yields (parameters n) fun found => ∀ p ∈ found, p.names ≠ [] ∧ p.type.Formed := by
  induction n with
  | zero => exact .fail
  | succ n ih =>
    refine (Yields.of_splits (takes_eats ')').splits).bind fun closed _ =>
      .ite (fun _ => .pure (by simp)) fun _ => ?_
    refine (Yields.of_splits (splits_many advancesIfFound_attribute?.splits)).bind fun _ _ => ?_
    refine yields_parameterNames.bind fun names hnames => ?_
    refine (Yields.of_splits (advances_expect ':').splits).bind fun _ _ => ?_
    refine (yields_typeExpr n).bind fun type htype => ?_
    refine (Yields.of_splits splits_trailer).bind fun _ _ => ?_
    refine (Yields.of_splits (takes_eats ',').splits).bind fun goesOn _ =>
      .ite (fun _ => ?_) fun _ => ?_
    · exact ih.bind fun found hfound => .pure (List.forall_mem_cons.2 ⟨⟨hnames, htype⟩, hfound⟩)
    · exact (Yields.of_splits (takes_eats ')').splits).bind fun closed _ =>
        .ite (fun _ => .pure (by simpa using ⟨hnames, htype⟩)) fun _ => .fail

theorem formed_ofRequirements_cons {r : Requirement} {rs : List Requirement}
    (hsubject : r.subject.Formed) (hconstraint : r.constraint.Formed)
    (h : ∀ m ∈ Node.ofRequirements rs, m.Formed) :
    ∀ m ∈ Node.ofRequirements (r :: rs), m.Formed := by
  have hcons : Node.ofRequirements (r :: rs) =
      .type r.subject :: .type r.constraint :: Node.ofRequirements rs := rfl
  rw [hcons]
  exact List.forall_mem_cons.2 ⟨hsubject, List.forall_mem_cons.2 ⟨hconstraint, h⟩⟩

theorem yields_requirements (n : Nat) :
    Yields (requirements n) fun rs => ∀ m ∈ Node.ofRequirements rs, m.Formed := by
  induction n with
  | zero => exact .fail
  | succ n ih =>
    refine (yields_typeExpr n).bind fun subject hsubject => ?_
    refine (Yields.of_splits advances_relation.splits).bind fun sameType _ => ?_
    refine (yields_typeExpr n).bind fun constraint hconstraint => ?_
    refine (Yields.of_splits (takes_eats ',').splits).bind fun goesOn _ =>
      .ite (fun _ => ?_) fun _ => ?_
    · exact ih.bind fun rs hrs => .pure (formed_ofRequirements_cons hsubject hconstraint hrs)
    · exact .pure (formed_ofRequirements_cons hsubject hconstraint fun _ hm => nomatch hm)

theorem yields_whereClause (n : Nat) :
    Yields (whereClause n) fun rs => ∀ m ∈ Node.ofRequirements rs, m.Formed := by
  refine Yields.look.bind fun _ _ => .ite (fun _ => ?_) fun _ => .pure fun _ hm => nomatch hm
  exact (Yields.of_splits (splits_skip 1)).bind fun _ _ => yields_requirements n

theorem yields_inherited (n : Nat) : Yields (inherited n) fun ts => ∀ t ∈ ts, t.Formed :=
  (Yields.of_splits (takes_eats ':').splits).bind fun _ _ =>
    .ite (fun _ => yields_types n) fun _ => .pure (by simp)

/-- The items that are found, if any are, are well formed. -/
def FormedIfFound (found : Option (List Item)) : Prop := ∀ is ∈ found, ∀ i ∈ is, i.Formed

theorem formedIfFound_none : FormedIfFound none := fun _ h => nomatch h

theorem formedIfFound_some {is : List Item} (h : ∀ i ∈ is, i.Formed) :
    FormedIfFound (some is) := by
  rintro _ ⟨⟩
  exact h

theorem formedIfFound_singleton {i : Item} (h : i.Formed) : FormedIfFound (some [i]) :=
  formedIfFound_some (List.forall_mem_singleton.2 h)

theorem yields_typeAlias (n position : Nat) : Yields (typeAlias n position) FormedIfFound := by
  refine (Yields.of_splits (splits_skip 1)).bind fun _ _ => ?_
  refine (Yields.of_splits advancesIfFound_name?.splits).bind fun name _ => ?_
  cases name with
  | none => exact .pure formedIfFound_none
  | some name =>
    refine (Yields.of_splits splits_angles).bind fun _ _ => ?_
    refine (Yields.of_splits (takes_eats '=').splits).bind fun assigned _ =>
      .ite (fun _ => ?_) fun _ => .pure formedIfFound_none
    refine (yields_typeExpr n).bind fun target htarget => .pure (formedIfFound_singleton ?_)
    exact Item.formed_iff.2 ⟨trivial, List.forall_mem_singleton.2 htarget⟩

/-- Every operator of a cast is one of the four that there are. -/
theorem castOperator_text_mem (operator : CastOperator) : operator.text ∈ ["as", "as?", "as!", "is"] := by
  cases operator <;> decide

theorem yields_castExpr (n : Nat) (operator : CastOperator) :
    Yields (castExpr n operator) fun found => ∀ i ∈ found, i.Formed := by
  refine Yields.look.bind fun position _ => ?_
  refine (Yields.of_splits (splits_skip 1)).bind fun _ _ => ?_
  refine (Yields.of_splits (splits_castOperator operator)).bind fun operator _ => ?_
  refine (yields_typeExpr n).bind fun target htarget => .pure (List.forall_mem_singleton.2 ?_)
  exact Item.formed_iff.2 ⟨castOperator_text_mem operator, List.forall_mem_singleton.2 htarget⟩

theorem yields_orSkip {step : TokenParser (Option (List Item))} (h : Yields step FormedIfFound) :
    Yields (orSkip step) fun found => ∀ i ∈ found, i.Formed := by
  intro ts rising found rest hp
  simp only [orSkip] at hp
  split at hp
  · next found rest hstep =>
    cases hp
    obtain ⟨used, hts, hfound⟩ := h ts rising hstep
    exact ⟨used, hts, hfound found rfl⟩
  · cases hp
    exact ⟨ts.take 1, by cases ts <;> rfl, by simp⟩

/-! ## Items -/

/-- The readers of items at bound `n` yield well-formed items. -/
structure ItemReadersYield (n : Nat) : Prop where
  items : ∀ closing done, (∀ i ∈ done, i.Formed) →
    Yields (items n closing done) fun found => ∀ i ∈ found, i.Formed
  block : Yields (block n) fun b => ∀ i ∈ b.items, i.Formed
  item : Yields (item n) FormedIfFound
  declaration : Yields (declaration n) FormedIfFound
  function : ∀ position keyword, Yields (function n position keyword) FormedIfFound
  nominal : ∀ position kind, Yields (nominal n position kind) FormedIfFound

namespace ItemReadersYield

variable {n : Nat} (h : ItemReadersYield n)
include h

theorem succ_items (closing : Bool) (done : List Item) (hdone : ∀ i ∈ done, i.Formed) :
    Yields (TokenParser.items (n + 1) closing done) fun found => ∀ i ∈ found, i.Formed := by
  have hreverse : ∀ i ∈ done.reverse, i.Formed := by simpa using hdone
  refine Yields.look.bind fun head _ => ?_
  cases head with
  | none => exact .ite (fun _ => .fail) fun _ => .pure hreverse
  | some t =>
    refine .ite (fun _ => .ite (fun _ => ?_) fun _ => .fail) fun _ => .ite (fun _ => ?_) fun _ => ?_
    · exact (Yields.of_splits (splits_skip 1)).bind fun _ _ => .pure hreverse
    · exact h.block.bind fun block hblock =>
        h.items _ _ (List.forall_mem_cons.2 ⟨Item.formed_block hblock, hdone⟩)
    · refine (yields_orSkip h.item).bind fun found hfound => h.items _ _ ?_
      exact List.forall_mem_append.2 ⟨by simpa using hfound, hdone⟩

theorem succ_block : Yields (TokenParser.block (n + 1)) fun b => ∀ i ∈ b.items, i.Formed := by
  refine (Yields.of_splits (advances_expect '{').splits).bind fun position _ => ?_
  exact (h.items true [] (by simp)).bind fun items hitems => .pure hitems

theorem succ_item : Yields (TokenParser.item (n + 1)) FormedIfFound := by
  refine Yields.look.bind fun word _ => ?_
  cases word with
  | some operator => exact (yields_castExpr n operator).map fun _ => formedIfFound_some
  | none => exact h.declaration

theorem succ_declaration : Yields (TokenParser.declaration (n + 1)) FormedIfFound := by
  have hnone : Yields (Pure.pure none) FormedIfFound := .pure formedIfFound_none
  refine Yields.look.bind fun afterDot _ => .ite (fun _ => hnone) fun _ => ?_
  refine Yields.look.bind fun position _ => ?_
  refine (Yields.of_splits (splits_many advancesIfFound_modifier?.splits)).bind fun _ _ => ?_
  refine Yields.look.bind fun word _ => ?_
  refine .ite (fun _ => ?_) fun _ => .ite (fun _ => h.function _ _) fun _ =>
    .ite (fun _ => yields_typeAlias n position) fun _ => ?_
  · refine (Yields.of_splits (splits_skip 1)).bind fun _ _ => ?_
    refine (yields_bindings n position).bind fun found hfound => ?_
    cases found with
    | nil => exact hnone
    | cons => exact .pure (formedIfFound_some hfound)
  · split
    · exact h.nominal _ _
    · exact hnone

theorem succ_function (position : Nat) (keyword : String) :
    Yields (TokenParser.function (n + 1) position keyword) FormedIfFound := by
  have hnone : Yields (Pure.pure none) FormedIfFound := .pure formedIfFound_none
  refine (Yields.of_splits (splits_skip 1)).bind fun _ _ => ?_
  refine (Yields.of_splits (splits_functionName keyword)).bind fun name _ =>
    .ite (fun _ => hnone) fun hname => ?_
  refine (Yields.of_splits splits_angles).bind fun _ _ => ?_
  refine (Yields.of_splits (takes_eats '(').splits).bind fun opened _ =>
    .ite (fun _ => ?_) fun _ => hnone
  refine (yields_parameters n).bind fun parameters hparameters => ?_
  refine (Yields.of_splits splits_effects).bind fun effects _ => ?_
  refine (Yields.optionally splits_arrow (yields_typeExpr n)).bind fun result hresult => ?_
  refine (yields_whereClause n).bind fun requirements hrequirements => ?_
  refine (Yields.optionally (fun _ => .look trivial) h.block).bind fun body hbody => ?_
  refine .pure (formedIfFound_singleton (Item.formed_iff.2
    ⟨⟨hname, fun p hp => (hparameters p hp).1⟩, ?_⟩))
  simp only [Node.insideItem, List.forall_mem_append]
  refine ⟨⟨⟨?_, ?_⟩, hrequirements⟩, ?_⟩
  · exact List.forall_mem_map.2 fun p hp => (hparameters p hp).2
  · exact List.forall_mem_map.2 fun t ht => hresult t (Option.mem_toList.1 ht)
  · exact List.forall_mem_map.2 fun b hb => Item.formed_block (hbody b (Option.mem_toList.1 hb))

theorem succ_nominal (position : Nat) (kind : NominalKind) :
    Yields (TokenParser.nominal (n + 1) position kind) FormedIfFound := by
  have hnone : Yields (Pure.pure none) FormedIfFound := .pure formedIfFound_none
  refine (Yields.of_splits (splits_skip 1)).bind fun _ _ => ?_
  refine (Yields.of_splits splits_nominalName).bind fun name _ =>
    .ite (fun _ => hnone) fun hname => ?_
  refine (Yields.of_splits splits_angles).bind fun _ _ => ?_
  refine (yields_inherited n).bind fun inherits hinherits => ?_
  refine (yields_whereClause n).bind fun requirements hrequirements => ?_
  refine Yields.look.bind fun opened _ => .ite (fun _ => ?_) fun _ => hnone
  refine h.block.bind fun members hmembers => .pure (formedIfFound_singleton (Item.formed_iff.2
    ⟨hname, ?_⟩))
  simp only [Node.insideItem, List.forall_mem_append]
  exact ⟨⟨List.forall_mem_map.2 hinherits, hrequirements⟩,
    List.forall_mem_singleton.2 (Item.formed_block hmembers)⟩

theorem succ : ItemReadersYield (n + 1) where
  items := h.succ_items
  block := h.succ_block
  item := h.succ_item
  declaration := h.succ_declaration
  function := h.succ_function
  nominal := h.succ_nominal

end ItemReadersYield

/-- **The readers of items yield well-formed items**, whatever their bound. -/
theorem itemReadersYield (n : Nat) : ItemReadersYield n := by
  induction n with
  | zero => constructor <;> intros <;> exact .fail
  | succ n ih => exact ih.succ

end TokenParser

/-! ## Files -/

theorem rising_ofTokens {tokens : List Token}
    (h : tokens.Pairwise fun a b => a.start < b.start) : Rising (Placed.ofTokens tokens) := by
  rw [← Placed.map_toToken_following none tokens] at h
  exact (List.pairwise_map (R := fun a b : Token => a.start < b.start)).1 h

/-- **Every tree that is read is well formed.** Whatever the text says, what stands inside a node is
of a kind that the node admits, and every node is well formed. -/
theorem parse_wellFormed {source : Text} {file : SourceFile}
    (h : SourceFile.parse source = .ok file) :
    (Node.file file).Throughout fun n => n.WellFormed ∧ ∀ m ∈ n.children, n.Admits m := by
  obtain ⟨tokens, htokens, -, hfile⟩ := SourceFile.parse_eq_ok.1 h
  have rising := rising_ofTokens (tiles_of_tokenize htokens).starts_increase
  unfold SourceFile.ofTokens at hfile
  split at hfile
  · next items rest hrun =>
    cases hfile
    obtain ⟨-, -, hitems⟩ := (itemReadersYield _).items false [] (by simp) _ rising hrun
    have hformed : (Node.file ⟨items⟩).Formed :=
      Node.throughout_iff.2 ⟨trivial, List.forall_mem_map.2 hitems⟩
    exact hformed.mono fun n hn => ⟨hn, fun m hm => Node.admits_of_mem_children hm⟩
  · cases hfile

/-- Text that is no program: an optional function type, a composition that goes on after a function
type, a label of two names, a cast and a declaration that is given up. -/
theorem no_program_wellFormed :
    ∃ file, SourceFile.parse
        "x as? ((a b: C) -> D)? & E { let f: @g inout H.I func () var }".toList = .ok file ∧
      (Node.file file).Throughout fun n => n.WellFormed ∧ ∀ m ∈ n.children, n.Admits m := by
  have hok : (SourceFile.parse
      "x as? ((a b: C) -> D)? & E { let f: @g inout H.I func () var }".toList).isOk := by
    decide +kernel
  revert hok
  generalize hparse : SourceFile.parse _ = result
  intro hok
  cases result with
  | ok file => exact ⟨file, rfl, parse_wellFormed hparse⟩
  | error e => cases hok

end SwiftTuples
