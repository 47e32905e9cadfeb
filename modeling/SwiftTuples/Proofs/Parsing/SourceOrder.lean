import SwiftTuples.Proofs.Parsing.Form
import SwiftTuples.Proofs.Parsing.Anchoring
/-!
# Trees are in source order

Tokens stand one after the other, so nodes that are anchored in them are in the order of the text,
and so are their children, throughout: a node starts with a token, nothing inside it starts
before it, and all that is inside a child starts before the next child does. Only the bindings of
one declaration start together (`parse_in_source_order`).
-/

namespace SwiftTuples

namespace Node

/-- The nodes are bindings that start at the same offset. -/
def BoundTogether (a b : Node) : Prop := a.isBinding ∧ b.isBinding ∧ a.position = b.position

/-- All of the first node starts before the second one, unless they are bindings of one
declaration. -/
def Precedes (a b : Node) : Prop :=
  a.BoundTogether b ∨ a.Throughout fun m => m.position < b.position

/-- How a node stands among the tokens of its text. -/
structure InSourceOrder (tokens : List Token) (n : Node) : Prop where
  starts : (∃ t ∈ tokens, t.start = n.position) ∨ n = file ⟨[]⟩ ∧ n.position = 0
  inside : n.Throughout fun m => n.position ≤ m.position
  children : n.children.Pairwise Precedes

end Node

/-- The offset is that of one of the tokens. -/
def IsStart (used : List Placed) (position : Nat) : Prop := ∃ t ∈ used, t.start = position

namespace Rising

variable {first : Placed} {used more : List Placed} {p q : Nat}

theorem le_of_isStart (h : Rising (first :: used)) (hp : IsStart (first :: used) p) :
    first.start ≤ p := by
  obtain ⟨t, ht, rfl⟩ := hp
  rcases List.mem_cons.1 ht with rfl | ht
  · exact Nat.le_refl _
  · exact Nat.le_of_lt ((List.pairwise_cons.1 h).1 t ht)

theorem lt_of_isStart (h : Rising (used ++ more)) (hp : IsStart used p) (hq : IsStart more q) :
    p < q := by
  obtain ⟨t, ht, rfl⟩ := hp
  obtain ⟨u, hu, rfl⟩ := hq
  exact (List.pairwise_append.1 h).2.2 t ht u hu

end Rising

namespace Node

/-- The node and all inside it are in source order and start with tokens among those used. -/
def StandsIn (tokens : List Token) (used : List Placed) (n : Node) : Prop :=
  n.Throughout fun m => m.InSourceOrder tokens ∧ IsStart used m.position

variable {tokens : List Token} {used more : List Placed} {n m : Node}

theorem StandsIn.isStart (h : n.StandsIn tokens used) : IsStart used n.position :=
  (throughout_iff.1 h).1.2

theorem StandsIn.mono (h : n.StandsIn tokens used) (hsub : ∀ t ∈ used, t ∈ more) :
    n.StandsIn tokens more := by
  refine Throughout.mono h fun m hm => ⟨hm.1, ?_⟩
  obtain ⟨t, ht, hstart⟩ := hm.2
  exact ⟨t, hsub t ht, hstart⟩

/-- A node stands in tokens that rise if it starts with the first of them and what is directly
inside stands in them, in its order. -/
theorem StandsIn.of_children {first : Placed} (rising : Rising (first :: used))
    (hfirst : first.toToken ∈ tokens) (starts : n.position = first.start)
    (inside : ∀ m ∈ n.children, m.StandsIn tokens (first :: used))
    (order : n.children.Pairwise Precedes) : n.StandsIn tokens (first :: used) := by
  refine throughout_iff.2 ⟨⟨⟨.inl ⟨first.toToken, hfirst, starts.symm⟩, ?_, order⟩, ?_⟩, inside⟩
  · refine throughout_iff.2 ⟨Nat.le_refl _, fun m hm => Throughout.mono (inside m hm) ?_⟩
    intro u hu
    rw [starts]
    exact rising.le_of_isStart hu.2
  · exact ⟨first, List.mem_cons_self, starts.symm⟩

/-- What stands in earlier tokens comes before what stands in later ones. -/
theorem StandsIn.precedes (h : n.StandsIn tokens used) (h' : m.StandsIn tokens more)
    (rising : Rising (used ++ more)) : n.Precedes m :=
  .inr (Throughout.mono h fun _ hu => rising.lt_of_isStart hu.2 h'.isStart)

end Node

namespace Anchored

variable {tokens : List Token} {ns : List Node} {used : List Placed}

/-- **Nodes that are anchored in tokens are in their order.** All that is inside them starts with
tokens among these; so what is anchored before others starts before them. -/
theorem in_order (h : Anchored ns used) (rising : Rising used)
    (htokens : ∀ t ∈ used, t.toToken ∈ tokens) :
    (∀ n ∈ ns, n.StandsIn tokens used) ∧ ns.Pairwise Node.Precedes := by
  induction h with
  | nil => exact ⟨List.forall_mem_nil _, .nil⟩
  | @group n others ns first used before inner more split starts bindings _ _ ihinside ihmore =>
    subst split
    -- what the group holds starts in `first :: inner`, what follows it in `more`
    have hinner : ∀ t ∈ first :: inner, t ∈ before ++ first :: (inner ++ more) := by
      intro t ht
      rw [← List.cons_append]
      exact List.mem_append_right _ (List.mem_append_left _ ht)
    have hmore : ∀ t ∈ more, t ∈ before ++ first :: (inner ++ more) := by
      intro t ht
      simp [ht]
    have risingInner : Rising (first :: inner) := rising.mid before more (by simp)
    have risingMore : Rising more := rising.mid (before ++ first :: inner) [] (by simp)
    have risingBoth : Rising ((first :: inner) ++ more) := rising.mid before [] (by simp)
    obtain ⟨hchildren, horder⟩ := ihinside risingInner fun t ht => htokens t (hinner t ht)
    obtain ⟨hns, hnsOrder⟩ := ihmore risingMore fun t ht => htokens t (hmore t ht)
    have hgroup : ∀ m ∈ n :: others, m.StandsIn tokens (first :: inner) := by
      intro m hm
      exact .of_children risingInner (htokens first (by simp)) (starts m hm)
        (fun u hu => hchildren u (List.mem_flatMap.2 ⟨m, hm, hu⟩))
        ((List.pairwise_flatMap.1 horder).1 m hm)
    rw [← List.cons_append]
    refine ⟨fun m hm => ?stands, List.pairwise_append.2 ⟨?together, hnsOrder, ?apart⟩⟩
    case stands =>
      rcases List.mem_append.1 hm with hm | hm
      · exact (hgroup m hm).mono hinner
      · exact (hns m hm).mono hmore
    case together =>
      cases others with
      | nil => exact List.pairwise_singleton _ _
      | cons =>
        have hbindings := bindings (List.cons_ne_nil _ _)
        exact List.pairwise_of_forall_mem_list fun a ha b hb =>
          .inl ⟨hbindings a ha, hbindings b hb, (starts a ha).trans (starts b hb).symm⟩
    case apart =>
      exact fun m hm u hu => (hgroup m hm).precedes (hns u hu) risingBoth

/-- The first of the nodes starts with a token, and all of them are anchored from it on. -/
theorem from_first {n : Node} (h : Anchored (n :: ns) used) :
    ∃ before more, used = before ++ more ∧ StartsAt more n.position ∧ Anchored (n :: ns) more := by
  cases h with
  | @group _ others ns first _ before inner more split starts bindings inside following =>
    refine ⟨before, first :: (inner ++ more), split, ?_, ?_⟩
    · rw [starts n List.mem_cons_self]
      exact startsAt_cons _ _
    · exact .group [] inner more rfl starts bindings inside following

end Anchored

/-- The items of a file that tokens say are anchored in the tokens. -/
theorem SourceFile.anchored_of_ofTokens {size : Nat} {tokens : List Token} {file : SourceFile}
    (h : SourceFile.ofTokens size tokens = .ok file) :
    ∃ used rest, Placed.ofTokens tokens = used ++ rest ∧
      Anchored (file.items.map Node.item) used := by
  unfold SourceFile.ofTokens at h
  split at h
  · next items rest hrun =>
    cases h
    have hreader := (TokenParser.itemReadersAnchor (TokenParser.depth tokens.length)).items false []
    obtain ⟨used, hused, hanchored⟩ := hreader.takes _ hrun
    exact ⟨used, rest, hused, hanchored⟩
  · cases h

/-- **Every tree that is read is in source order.** Each node starts with a token of the text (a
file without items at 0), what is inside it starts no earlier, and of any two of its children all of
the former starts before the latter, unless both are bindings of one declaration. -/
theorem parse_in_source_order {source : Text} {file : SourceFile}
    (h : SourceFile.parse source = .ok file) :
    ∃ tokens, tokenize source = .ok tokens ∧
      (Node.file file).Throughout (Node.InSourceOrder tokens) := by
  obtain ⟨tokens, htokens, -, hfile⟩ := SourceFile.parse_eq_ok.1 h
  refine ⟨tokens, htokens, ?_⟩
  have rising := rising_ofTokens (tiles_of_tokenize htokens).starts_increase
  have hplaced : ∀ t ∈ Placed.ofTokens tokens, t.toToken ∈ tokens := by
    intro t ht
    rw [← Placed.map_toToken_following none tokens]
    exact List.mem_map_of_mem ht
  obtain ⟨used, rest, hused, hanchored⟩ := SourceFile.anchored_of_ofTokens hfile
  rcases file with ⟨_ | ⟨i, items⟩⟩
  · refine Node.throughout_iff.2 ⟨⟨.inr ⟨rfl, rfl⟩, ?_, .nil⟩, List.forall_mem_nil _⟩
    exact Node.throughout_iff.2 ⟨Nat.le_refl _, List.forall_mem_nil _⟩
  · -- a file with items starts with the first of them and holds them all from there on
    obtain ⟨before, more, rfl, starts, hitems⟩ := hanchored.from_first
    have hnode : Anchored [Node.file ⟨i :: items⟩] more := .node starts hitems
    have hsub : ∀ t ∈ more, t.toToken ∈ tokens := fun t ht => hplaced t (by simp [hused, ht])
    have risingMore : Rising more := rising.mid before rest (by simp [hused])
    obtain ⟨hstands, -⟩ := hnode.in_order risingMore hsub
    exact Node.Throughout.mono (hstands _ List.mem_cons_self) fun m hm => hm.1

/-- A declaration that starts with an attribute, two bindings of it, a clause of requirements after
a result, optional and member types that start where their parts do, and a declaration that is given
up. -/
theorem attribute_starts_declaration :
    let source := ("@a(1) static let x: (A, B)?, y: [C: D.E]\n" ++
      "func f(_ g: H) -> I where J: K & L \x7b as! M \x7d var").toList
    ∃ file, SourceFile.parse source = .ok file ∧
      ∃ tokens, tokenize source = .ok tokens ∧
        (Node.file file).Throughout (Node.InSourceOrder tokens) := by
  intro source
  have hok : (SourceFile.parse source).isOk := by decide +kernel
  cases hparse : SourceFile.parse source with
  | ok file => exact ⟨file, rfl, parse_in_source_order hparse⟩
  | error e =>
    rw [hparse] at hok
    cases hok

end SwiftTuples
