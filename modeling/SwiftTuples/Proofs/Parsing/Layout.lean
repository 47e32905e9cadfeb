import Mathlib.Tactic.IntervalCases
import SwiftTuples.Syntax.Source
import SwiftTuples.Proofs.Lexing.Tiling
import SwiftTuples.Proofs.Parsing.Keywords
import SwiftTuples.Proofs.Parsing.Relocation
/-!
# What a reader sees of the layout

A reader asks of its tokens what they are, which of them touch and which begin a line. Their
offsets it only copies: into the nodes of a tree, and into errors. So two texts whose tokens agree
in the three are read alike, and one tree is the other with its offsets moved.

For the readers that call each other this is an induction on the bound, as it is for what they take:
`TypeReadersFollow move n` and `ItemReadersFollow move n` say it of the readers at bound `n`.
-/

namespace SwiftTuples

namespace TokenParser

variable {move : Nat → Nat}

/-! ## Single tokens -/

theorem follows_eat (c : Char) : Follows move (eat c) (eat c) (Option.map move) := by
  intro ts us hts
  cases hts with
  | nil => exact ⟨rfl, .nil⟩
  | cons ht hts =>
    simp only [eat]
    rw [ht.is, ht.start]
    split
    · exact ⟨rfl, hts⟩
    · exact ⟨rfl, .cons ht hts⟩

theorem unmoved_eats (c : Char) : Unmoved (eats c) := fun _ =>
  (follows_eat c).map fun found => by cases found <;> rfl

theorem follows_expect (c : Char) : Follows move (expect c) (expect c) move := by
  refine (follows_eat c).bind fun found => ?_
  cases found with
  | some position => exact .pure rfl
  | none => exact .fail

theorem unmoved_name? : Unmoved name? := by
  intro move ts us hts
  cases hts with
  | nil => exact ⟨rfl, .nil⟩
  | @cons t u ts us ht hts =>
    simp only [name?]
    rw [ht.name?]
    cases t.name? with
    | some name => exact ⟨rfl, hts⟩
    | none => exact ⟨rfl, .cons ht hts⟩

theorem unmoved_arrow : Unmoved arrow := by
  intro move ts us hts
  cases hts with
  | nil => exact ⟨rfl, .nil⟩
  | cons ht hts =>
    simp only [arrow]
    rw [ht.kind]
    split
    · exact ⟨rfl, hts⟩
    · exact ⟨rfl, .cons ht hts⟩

theorem unmoved_look_startsWith (c : Char) : Unmoved (look (startsWith c)) :=
  .look fun _ _ _ hts => hts.startsWith c

theorem unmoved_look_startsTouching (c : Char) : Unmoved (look (startsTouching c)) :=
  .look fun _ _ _ hts => hts.startsTouching c

theorem unmoved_look_word? : Unmoved (look word?) := .look fun _ _ _ hts => hts.word?

/-! ## Stretches that are passed over -/

/-- Where a search started is told in its error alone. -/
theorem agree_closeFrom (opening closing : Char) (start start' : Option Nat)
    {ts us : List Placed} (hts : Alike move ts us) (depth braces : Nat) :
    Agree move id ((closeFrom opening closing start depth braces ts).map ((), ·))
      ((closeFrom opening closing start' depth braces us).map ((), ·)) := by
  induction hts generalizing depth braces with
  | nil => exact rfl
  | cons ht hts ih =>
    simp only [closeFrom, ht.is]
    split
    · exact rfl
    · split
      · exact ih _ _
      · split
        · split
          · exact ⟨rfl, hts⟩
          · exact ih _ _
        · exact ih _ _

theorem unmoved_balanced (opening closing : Char) : Unmoved (balanced opening closing) := by
  intro move ts us hts
  simp only [balanced]
  generalize ts.head?.map (·.start) = start
  generalize us.head?.map (·.start) = start'
  have hclose := agree_closeFrom opening closing start start' hts 0 0
  revert hclose
  cases closeFrom opening closing start 0 0 ts <;>
    cases closeFrom opening closing start' 0 0 us <;> exact id

theorem unmoved_arguments : Unmoved arguments := fun move =>
  (unmoved_look_startsTouching '(').bind fun _ =>
    .ite (fun _ => unmoved_balanced '(' ')' move) fun _ => .pure rfl

theorem unmoved_angles : Unmoved angles := fun move =>
  (unmoved_look_startsWith '<').bind fun _ =>
    .ite (fun _ => unmoved_balanced '<' '>' move) fun _ => .pure rfl

theorem unmoved_look_wordAfter (c : Char) :
    Unmoved (look fun ts => if startsWith c ts then word? ts.tail else none) :=
  .look fun _ _ _ hts => by rw [hts.startsWith, hts.tail.word?]

theorem unmoved_attribute? : Unmoved attribute? := by
  refine fun move => (unmoved_look_wordAfter '@').bind fun found => ?_
  cases found with
  | some name => exact (Unmoved.skip 2).bind fun _ => unmoved_arguments.bind fun _ => .pure rfl
  | none => exact .pure rfl

theorem agree_defaultEnd (start start' : Option Nat) {ts us : List Placed}
    (hts : Alike move ts us) (pending : Nat) :
    Agree move id ((defaultEnd start pending ts).map ((), ·))
      ((defaultEnd start' pending us).map ((), ·)) := by
  induction hts generalizing pending with
  | nil => exact rfl
  | cons ht hts ih =>
    simp only [defaultEnd, ht.opens, ht.closes, ht.is]
    split
    · exact ih _
    · split
      · exact ih _
      · split
        · exact ⟨rfl, .cons ht hts⟩
        · split
          · exact rfl
          · exact ih _

theorem unmoved_trailer : Unmoved trailer := by
  intro move ts us hts
  simp only [trailer]
  rw [hts.startsWith, (hts.drop 1).startsWith, (hts.drop 2).startsWith]
  have hrest : Alike move
      (if startsWith '.' ts && startsWith '.' (ts.drop 1) && startsWith '.' (ts.drop 2) then
        ts.drop 3 else ts)
      (if startsWith '.' ts && startsWith '.' (ts.drop 1) && startsWith '.' (ts.drop 2) then
        us.drop 3 else us) := by
    split
    · exact hts.drop 3
    · exact hts
  revert hrest
  generalize (if startsWith '.' ts && startsWith '.' (ts.drop 1) && startsWith '.' (ts.drop 2) then
    us.drop 3 else us) = us'
  generalize (if startsWith '.' ts && startsWith '.' (ts.drop 1) && startsWith '.' (ts.drop 2) then
    ts.drop 3 else ts) = ts'
  intro hrest
  rw [hrest.startsWith]
  split
  · generalize ts'.head?.map (·.start) = start
    generalize us'.head?.map (·.start) = start'
    have hend := agree_defaultEnd start start' hrest 0
    revert hend
    cases defaultEnd start 0 ts' <;> cases defaultEnd start' 0 us' <;> exact id
  · exact ⟨rfl, hrest⟩

/-! ## Parts of types -/

theorem labelAt_alike {ts us : List Placed} (hts : Alike move ts us) :
    Option.Rel (fun x y => y.1 = x.1.relocate move ∧ Alike move x.2 y.2) (labelAt ts)
      (labelAt us) := by
  unfold labelAt
  cases hts with
  | nil => exact .none
  | @cons t t' ts us ht hts =>
    cases hts with
    | nil => exact .none
    | @cons u u' ts us hu hts =>
      simp only [ht.name?, hu.name?, hu.is, hu.start]
      cases t.name? with
      | none => exact .none
      | some first =>
        dsimp only
        split
        · exact .some ⟨rfl, hts⟩
        · cases hts with
          | nil => cases u.name? <;> exact .none
          | cons hv hts =>
            cases u.name? with
            | none => exact .none
            | some second =>
              simp only [hv.is, hv.start]
              split
              · exact .some ⟨rfl, hts⟩
              · exact .none

theorem follows_label? : Follows move label? label? (Option.map (·.relocate move)) := by
  intro ts us hts
  simp only [label?]
  have hlabel := labelAt_alike hts
  cases hfirst : labelAt ts with
  | none =>
    cases hsecond : labelAt us with
    | none => exact ⟨rfl, hts⟩
    | some y =>
      rw [hfirst, hsecond] at hlabel
      cases hlabel
  | some x =>
    cases hsecond : labelAt us with
    | none =>
      rw [hfirst, hsecond] at hlabel
      cases hlabel
    | some y =>
      rw [hfirst, hsecond] at hlabel
      obtain ⟨hanswer, hrest⟩ := (Option.rel_some_some).1 hlabel
      exact ⟨congrArg some hanswer, hrest⟩

theorem unmoved_look_startsSpecified : Unmoved (look fun ts => startsSpecified ts.tail) :=
  .look fun _ _ _ hts => by
    simp only [startsSpecified]
    rw [hts.tail.startsWithWord, hts.tail.startsWith, hts.tail.startsWith]

theorem unmoved_specifier? : Unmoved specifier? := by
  refine fun move => unmoved_attribute?.bind fun found => ?_
  cases found with
  | some name => exact .pure rfl
  | none =>
    have htilde : Unmoved (look fun ts => startsWith '~' ts && startsWithWord ts.tail) :=
      .look fun _ _ _ hts => by rw [hts.startsWith, hts.tail.startsWithWord]
    refine htilde.bind fun _ => .ite (fun _ => ?_) fun _ => ?_
    · exact (Unmoved.skip 1).bind fun _ => .pure rfl
    · refine unmoved_look_word?.bind fun word => ?_
      cases word with
      | some word =>
        refine unmoved_look_startsSpecified.bind fun _ => .ite (fun _ => ?_) fun _ => .pure rfl
        exact (Unmoved.skip 1).bind fun _ => .pure rfl
      | none => exact .pure rfl

theorem unmoved_effect? : Unmoved effect? := by
  refine fun move => unmoved_look_word?.bind fun word => ?_
  cases word.bind Effect.ofWord? with
  | none => exact .pure rfl
  | some effect =>
    cases effect with
    | async => exact (Unmoved.skip 1).bind fun _ => .pure rfl
    | throws => exact (Unmoved.skip 1).bind fun _ => unmoved_arguments.bind fun _ => .pure rfl

theorem unmoved_effects : Unmoved effects := fun _ =>
  unmoved_effect?.many.bind fun _ => .pure rfl

theorem unmoved_look_startsFunction : Unmoved (look startsFunction) := by
  refine .look fun move ts us hts => ?_
  cases hts with
  | nil => rfl
  | cons ht hts =>
    simp only [startsFunction]
    rw [ht.kind, ht.name?, ht.newlineBefore, Alike.word? hts]

theorem unmoved_optionalMark? : Unmoved optionalMark? := fun _ =>
  (unmoved_look_startsTouching '?').bind fun _ =>
    .ite (fun _ => (Unmoved.skip 1).bind fun _ => .pure rfl) fun _ =>
      (unmoved_look_startsTouching '!').bind fun _ =>
        .ite (fun _ => (Unmoved.skip 1).bind fun _ => .pure rfl) fun _ => .pure rfl

theorem unmoved_memberName? : Unmoved memberName? := by
  refine fun move => (unmoved_look_wordAfter '.').bind fun found => ?_
  cases found with
  | some name => exact (Unmoved.skip 2).bind fun _ => .pure rfl
  | none => exact .pure rfl

/-! ## Types -/

/-- The readers of types at bound `n` read tokens that look alike as trees that are alike. -/
structure TypeReadersFollow (move : Nat → Nat) (n : Nat) : Prop where
  typeExpr : Follows move (typeExpr n) (typeExpr n) (·.relocate move)
  composition : Follows move (composition n) (composition n) (·.relocate move)
  conjuncts : Follows move (conjuncts n) (conjuncts n) (List.map (·.relocate move))
  suffixed : Follows move (suffixed n) (suffixed n) (·.relocate move)
  suffixes : ∀ position base, Follows move (suffixes n position base)
    (suffixes n (move position) (base.relocate move)) (·.relocate move)
  primary : Follows move (primary n) (primary n) (·.relocate move)
  parenthesized : ∀ position, Follows move (parenthesized n position)
    (parenthesized n (move position)) (·.relocate move)
  bracketed : ∀ position, Follows move (bracketed n position) (bracketed n (move position))
    (·.relocate move)
  genericArguments : Follows move (genericArguments n) (genericArguments n)
    (List.map (·.relocate move))
  types : Follows move (types n) (types n) (List.map (·.relocate move))
  elements : Follows move (elements n) (elements n) (List.map (·.relocate move))

namespace TypeReadersFollow

variable {n : Nat} (h : TypeReadersFollow move n)
include h

theorem succ_typeExpr : Follows move (TokenParser.typeExpr (n + 1)) (TokenParser.typeExpr (n + 1))
    (·.relocate move) := by
  refine .position (typeReadersAdvance (n + 1)).typeExpr.agree_nil fun position => ?_
  refine unmoved_specifier?.many.bind fun specifiers => ?_
  refine h.composition.bind fun base => .pure ?_
  split
  · rfl
  · simp [TypeExpr.relocate]

theorem succ_composition : Follows move (TokenParser.composition (n + 1))
    (TokenParser.composition (n + 1)) (·.relocate move) := by
  refine .position (typeReadersAdvance (n + 1)).composition.agree_nil fun position => ?_
  refine h.suffixed.bind fun first => ?_
  refine h.conjuncts.bind fun others => ?_
  cases others with
  | nil => exact .pure rfl
  | cons part others => exact .pure (by simp [TypeExpr.relocate])

theorem succ_conjuncts : Follows move (TokenParser.conjuncts (n + 1))
    (TokenParser.conjuncts (n + 1)) (List.map (·.relocate move)) := by
  refine (unmoved_eats '&').bind fun joined => .ite (fun _ => ?_) fun _ => .pure rfl
  refine h.suffixed.bind fun part => ?_
  exact h.conjuncts.bind fun others => .pure rfl

theorem succ_suffixed : Follows move (TokenParser.suffixed (n + 1)) (TokenParser.suffixed (n + 1))
    (·.relocate move) := by
  refine .position (typeReadersAdvance (n + 1)).suffixed.agree_nil fun position => ?_
  exact h.primary.bind fun base => h.suffixes position base

theorem succ_suffixes (position : Nat) (base : TypeExpr) :
    Follows move (TokenParser.suffixes (n + 1) position base)
      (TokenParser.suffixes (n + 1) (move position) (base.relocate move)) (·.relocate move) := by
  refine unmoved_optionalMark?.bind fun mark => ?_
  cases mark with
  | some mark => simpa [TypeExpr.relocate] using h.suffixes position (.optional position base mark)
  | none =>
    refine unmoved_memberName?.bind fun name => ?_
    cases name with
    | some name =>
      refine h.genericArguments.bind fun arguments => ?_
      simpa [TypeExpr.relocate] using
        h.suffixes position (.member position base name arguments)
    | none => exact .pure rfl

theorem succ_primary : Follows move (TokenParser.primary (n + 1)) (TokenParser.primary (n + 1))
    (·.relocate move) := by
  refine .position (typeReadersAdvance (n + 1)).primary.agree_nil fun position => ?_
  refine unmoved_name?.bind fun name => ?_
  cases name with
  | some name =>
    exact h.genericArguments.bind fun arguments => .pure (by simp [TypeExpr.relocate])
  | none =>
    refine (unmoved_eats '(').bind fun paren => .ite (fun _ => h.parenthesized position) fun _ => ?_
    exact (unmoved_eats '[').bind fun bracket => .ite (fun _ => h.bracketed position) fun _ => .fail

theorem succ_parenthesized (position : Nat) : Follows move
    (TokenParser.parenthesized (n + 1) position)
    (TokenParser.parenthesized (n + 1) (move position)) (·.relocate move) := by
  refine h.elements.bind fun elements => ?_
  refine unmoved_look_startsFunction.bind fun isFunction => .ite (fun _ => ?_) fun _ => ?_
  · refine unmoved_effects.bind fun effects => ?_
    refine unmoved_arrow.bind fun hasArrow => .ite (fun _ => ?_) fun _ => .fail
    exact h.typeExpr.bind fun result => .pure (by simp [TypeExpr.relocate])
  · exact .pure (by simp [TypeExpr.relocate])

theorem succ_bracketed (position : Nat) : Follows move (TokenParser.bracketed (n + 1) position)
    (TokenParser.bracketed (n + 1) (move position)) (·.relocate move) := by
  refine h.typeExpr.bind fun first => ?_
  refine (Follows.optionally (unmoved_eats ':') h.typeExpr).bind fun value => ?_
  refine (follows_expect ']').bind fun _ => ?_
  cases value with
  | some value => exact .pure rfl
  | none => exact .pure rfl

theorem succ_genericArguments : Follows move (TokenParser.genericArguments (n + 1))
    (TokenParser.genericArguments (n + 1)) (List.map (·.relocate move)) := by
  refine (unmoved_look_startsTouching '<').bind fun opens => .ite (fun _ => ?_) fun _ => .pure rfl
  refine (Unmoved.skip 1).bind fun _ => ?_
  refine h.types.bind fun arguments => ?_
  exact (follows_expect '>').bind fun _ => .pure rfl

theorem succ_types : Follows move (TokenParser.types (n + 1)) (TokenParser.types (n + 1))
    (List.map (·.relocate move)) := by
  refine h.typeExpr.bind fun first => ?_
  refine (unmoved_eats ',').bind fun goesOn => .ite (fun _ => ?_) fun _ => .pure rfl
  exact h.types.bind fun others => .pure rfl

theorem succ_elements : Follows move (TokenParser.elements (n + 1)) (TokenParser.elements (n + 1))
    (List.map (·.relocate move)) := by
  refine (unmoved_eats ')').bind fun closed => .ite (fun _ => .pure rfl) fun _ => ?_
  refine follows_label?.bind fun label => ?_
  refine h.typeExpr.bind fun type => ?_
  refine unmoved_trailer.bind fun _ => ?_
  refine (unmoved_eats ',').bind fun goesOn => .ite (fun _ => ?_) fun _ => ?_
  · exact h.elements.bind fun others => .pure rfl
  · exact (unmoved_eats ')').bind fun closed => .ite (fun _ => .pure rfl) fun _ => .fail

theorem succ : TypeReadersFollow move (n + 1) where
  typeExpr := h.succ_typeExpr
  composition := h.succ_composition
  conjuncts := h.succ_conjuncts
  suffixed := h.succ_suffixed
  suffixes := h.succ_suffixes
  primary := h.succ_primary
  parenthesized := h.succ_parenthesized
  bracketed := h.succ_bracketed
  genericArguments := h.succ_genericArguments
  types := h.succ_types
  elements := h.succ_elements

end TypeReadersFollow

/-- **The readers of types see nothing of offsets**, whatever their bound. -/
theorem typeReadersFollow (move : Nat → Nat) (n : Nat) : TypeReadersFollow move n := by
  induction n with
  | zero => constructor <;> intros <;> exact .fail
  | succ n ih => exact ih.succ

/-! ## Parts of items -/

theorem unmoved_modifier? : Unmoved modifier? := by
  refine fun move => unmoved_attribute?.bind fun found => ?_
  cases found with
  | some name => exact .pure rfl
  | none =>
    refine unmoved_look_word?.bind fun word => ?_
    cases word with
    | none => exact .pure rfl
    | some word =>
      have hdeclaration : Unmoved (look fun ts => startsDeclaration ts.tail) :=
        .look fun _ _ _ hts => by simp only [startsDeclaration]; rw [hts.tail.word?]
      refine .ite (fun _ => ?_) fun _ => hdeclaration.bind fun _ => .ite (fun _ => ?_) fun _ => ?_
      · exact (Unmoved.skip 1).bind fun _ => unmoved_arguments.bind fun _ => .pure rfl
      · exact (Unmoved.skip 1).bind fun _ => .pure rfl
      · exact .pure rfl

theorem unmoved_binder? : Unmoved binder? := by
  refine fun move => unmoved_name?.bind fun name => ?_
  cases name with
  | some name => exact .pure rfl
  | none =>
    refine (unmoved_look_startsWith '(').bind fun _ => .ite (fun _ => ?_) fun _ => .pure rfl
    exact (unmoved_balanced '(' ')').bind fun _ => .pure rfl

theorem unmoved_declaredColon : Unmoved declaredColon := by
  have hlook : Unmoved (look startsDeclaredType) := by
    refine .look fun move ts us hts => ?_
    cases hts with
    | nil => rfl
    | cons ht hts =>
      cases hts with
      | nil => rfl
      | cons hu hts =>
        simp only [startsDeclaredType, ht.is, hu.is, hu.name?, hu.newlineBefore]
  exact fun move => hlook.bind fun _ =>
    .ite (fun _ => (Unmoved.skip 1).bind fun _ => .pure rfl) fun _ => .pure rfl

theorem operatorName_alike {ts us : List Placed} (hts : Alike move ts us) (isFirst : Bool) :
    (operatorName isFirst us).1 = (operatorName isFirst ts).1 ∧
      Alike move (operatorName isFirst ts).2 (operatorName isFirst us).2 := by
  induction hts generalizing isFirst with
  | nil => exact ⟨rfl, .nil⟩
  | @cons t u ts us ht hts ih =>
    rw [operatorName, operatorName, ht.kind]
    cases t.kind with
    | punct c =>
      dsimp only
      split
      · exact ⟨rfl, .cons ht hts⟩
      · exact ⟨congrArg (c :: ·) (ih false).1, (ih false).2⟩
    | ident | literal | arrow => exact ⟨rfl, .cons ht hts⟩

theorem unmoved_operator : Unmoved operator := fun _ _ _ hts =>
  ⟨congrArg String.ofList (operatorName_alike hts true).1, (operatorName_alike hts true).2⟩

theorem unmoved_functionName (keyword : String) : Unmoved (functionName keyword) := by
  refine fun move => .ite (fun _ => ?_) fun _ => ?_
  · refine unmoved_name?.bind fun name => ?_
    cases name with
    | some name => exact .pure rfl
    | none => exact unmoved_operator move
  · exact unmoved_optionalMark?.bind fun _ => .pure rfl

theorem unmoved_parameterNames : Unmoved parameterNames := by
  refine fun move => unmoved_name?.many.bind fun names => ?_
  cases names with
  | nil => exact .fail
  | cons name names => exact .pure rfl

theorem unmoved_relation : Unmoved relation := by
  have hlook : Unmoved (look fun ts => startsWith '=' ts && startsWith '=' ts.tail) :=
    .look fun _ _ _ hts => by rw [hts.startsWith, hts.tail.startsWith]
  refine fun move => hlook.bind fun _ => .ite (fun _ => ?_) fun _ => ?_
  · exact (Unmoved.skip 2).bind fun _ => .pure rfl
  · exact (follows_expect ':').bind fun _ => .pure rfl

theorem dottedName_alike {ts us : List Placed} (hts : Alike move ts us) :
    (dottedName us).1 = (dottedName ts).1 ∧
      Alike move (dottedName ts).2 (dottedName us).2 := by
  fun_induction dottedName ts generalizing us with
  | case1 =>
    cases hts
    exact ⟨rfl, .nil⟩
  | case2 t ts hnone =>
    obtain ⟨u, us, ht, hrest, rfl⟩ := List.forall₂_cons_left_iff.1 hts
    rw [dottedName.eq_def]
    simp only [ht.name?, hnone]
    exact ⟨trivial, hts⟩
  | case3 t part hpart dot more hdot parts left hmore ih =>
    obtain ⟨u, us, ht, hrest, rfl⟩ := List.forall₂_cons_left_iff.1 hts
    obtain ⟨dot', more', hd, hm, rfl⟩ := List.forall₂_cons_left_iff.1 hrest
    obtain ⟨hname, hleft⟩ := ih hm
    rw [hmore] at hname hleft
    rw [dottedName]
    simp only [ht.name?, hpart, hd.is, Alike.startsWithWord hm, hdot]
    exact ⟨congrArg (part :: ·) hname, hleft⟩
  | case4 t part hpart dot more hdot =>
    obtain ⟨u, us, ht, hrest, rfl⟩ := List.forall₂_cons_left_iff.1 hts
    obtain ⟨dot', more', hd, hm, rfl⟩ := List.forall₂_cons_left_iff.1 hrest
    rw [dottedName]
    simp only [ht.name?, hpart, hd.is, Alike.startsWithWord hm, hdot]
    exact ⟨rfl, hrest⟩
  | case5 t part hpart =>
    obtain ⟨u, us, ht, hrest, rfl⟩ := List.forall₂_cons_left_iff.1 hts
    cases hrest
    rw [dottedName.eq_def]
    simp only [ht.name?, hpart]
    exact ⟨trivial, .nil⟩

theorem unmoved_nominalName : Unmoved nominalName := fun _ _ _ hts =>
  ⟨congrArg (".".intercalate ·) (dottedName_alike hts).1, (dottedName_alike hts).2⟩

theorem unmoved_castOperator (operator : CastOperator) : Unmoved (castOperator operator) := by
  intro move
  cases operator with
  | cast =>
    refine unmoved_optionalMark?.bind fun mark => ?_
    rcases mark with _ | _ | _ <;> exact .pure rfl
  | optionalCast | forcedCast | test => exact .pure rfl

/-! ## Items -/

theorem follows_typeExpr (n : Nat) : Follows move (typeExpr n) (typeExpr n) (·.relocate move) :=
  (typeReadersFollow move n).typeExpr

theorem follows_bindings (n position : Nat) : Follows move (bindings n position)
    (bindings n (move position)) (List.map (·.relocate move)) := by
  induction n with
  | zero => exact .fail
  | succ n ih =>
    refine unmoved_binder?.bind fun binder => ?_
    cases binder with
    | none => exact .pure rfl
    | some binder =>
      refine (Follows.optionally unmoved_declaredColon (follows_typeExpr n)).bind fun declared => ?_
      have hnext : Unmoved (look startsNextBinding) := .look fun _ _ _ hts => by
        simp only [startsNextBinding]
        rw [hts.startsWith, hts.tail.startsWithWord, hts.tail.startsWith]
      refine hnext.bind fun goesOn => .ite (fun _ => ?_) fun _ => .pure rfl
      exact (Unmoved.skip 1).bind fun _ => ih.bind fun others => .pure rfl

theorem follows_parameters (n : Nat) : Follows move (parameters n) (parameters n)
    (List.map (·.relocate move)) := by
  induction n with
  | zero => exact .fail
  | succ n ih =>
    refine (unmoved_eats ')').bind fun closed => .ite (fun _ => .pure rfl) fun _ => ?_
    refine unmoved_attribute?.many.bind fun _ => ?_
    refine unmoved_parameterNames.bind fun names => ?_
    refine (follows_expect ':').bind fun _ => ?_
    refine (follows_typeExpr n).bind fun type => ?_
    refine unmoved_trailer.bind fun _ => ?_
    refine (unmoved_eats ',').bind fun goesOn => .ite (fun _ => ?_) fun _ => ?_
    · exact ih.bind fun others => .pure rfl
    · exact (unmoved_eats ')').bind fun closed => .ite (fun _ => .pure rfl) fun _ => .fail

theorem follows_requirements (n : Nat) : Follows move (requirements n) (requirements n)
    (List.map (·.relocate move)) := by
  induction n with
  | zero => exact .fail
  | succ n ih =>
    refine (follows_typeExpr n).bind fun subject => ?_
    refine unmoved_relation.bind fun sameType => ?_
    refine (follows_typeExpr n).bind fun constraint => ?_
    refine (unmoved_eats ',').bind fun goesOn => .ite (fun _ => ?_) fun _ => .pure rfl
    exact ih.bind fun others => .pure rfl

theorem follows_whereClause (n : Nat) : Follows move (whereClause n) (whereClause n)
    (List.map (·.relocate move)) := by
  have hwhere : Unmoved (look fun ts => word? ts == some "where") :=
    .look fun _ _ _ hts => by rw [hts.word?]
  refine hwhere.bind fun opens => .ite (fun _ => ?_) fun _ => .pure rfl
  exact (Unmoved.skip 1).bind fun _ => follows_requirements n

theorem follows_inherited (n : Nat) : Follows move (inherited n) (inherited n)
    (List.map (·.relocate move)) :=
  (unmoved_eats ':').bind fun _ => .ite (fun _ => (typeReadersFollow move n).types) fun _ =>
    .pure rfl

theorem follows_typeAlias (n position : Nat) : Follows move (typeAlias n position)
    (typeAlias n (move position)) (Option.map (List.map (·.relocate move))) := by
  refine (Unmoved.skip 1).bind fun _ => ?_
  refine unmoved_name?.bind fun name => ?_
  cases name with
  | none => exact .pure rfl
  | some name =>
    refine unmoved_angles.bind fun _ => ?_
    refine (unmoved_eats '=').bind fun assigned => .ite (fun _ => ?_) fun _ => .pure rfl
    exact (follows_typeExpr n).bind fun target => .pure rfl

theorem follows_castExpr (n : Nat) (operator : CastOperator) : Follows move (castExpr n operator)
    (castExpr n operator) (List.map (·.relocate move)) := by
  refine .position (advances_castExpr n operator).agree_nil fun position => ?_
  refine (Unmoved.skip 1).bind fun _ => ?_
  refine (unmoved_castOperator operator).bind fun operator => ?_
  exact (follows_typeExpr n).bind fun target => .pure rfl

/-- A reader that is given up passes over one token, and so does the one that follows it. -/
theorem follows_orSkip {step step' : TokenParser (Option (List Item))}
    (h : Follows move step step' (Option.map (List.map (·.relocate move)))) :
    Follows move (orSkip step) (orSkip step') (List.map (·.relocate move)) := by
  intro ts us hts
  have hstep := h hts
  have hgiven : Agree move (List.map (Item.relocate move)) (.ok ([], ts.tail))
      (.ok ([], us.tail)) := ⟨rfl, hts.tail⟩
  rw [orSkip, orSkip]
  cases hfirst : step ts with
  | error e =>
    cases hsecond : step' us with
    | error e' => exact hgiven
    | ok y => rw [hfirst, hsecond] at hstep; exact hstep.elim
  | ok x =>
    cases hsecond : step' us with
    | error e' => rw [hfirst, hsecond] at hstep; exact hstep.elim
    | ok y =>
      rw [hfirst, hsecond] at hstep
      obtain ⟨found, rest⟩ := x
      obtain ⟨found', rest'⟩ := y
      obtain ⟨hfound, hrest⟩ := hstep
      subst hfound
      cases found with
      | none => exact hgiven
      | some found => exact ⟨rfl, hrest⟩

/-- The readers of items at bound `n` read tokens that look alike as trees that are alike. -/
structure ItemReadersFollow (move : Nat → Nat) (n : Nat) : Prop where
  items : ∀ closing done, Follows move (items n closing done)
    (items n closing (done.map (·.relocate move))) (List.map (·.relocate move))
  block : Follows move (block n) (block n) (Item.relocateBlock move)
  item : Follows move (item n) (item n) (Option.map (List.map (·.relocate move)))
  declaration : Follows move (declaration n) (declaration n)
    (Option.map (List.map (·.relocate move)))
  function : ∀ position keyword, Follows move (function n position keyword)
    (function n (move position) keyword) (Option.map (List.map (·.relocate move)))
  nominal : ∀ position kind, Follows move (nominal n position kind)
    (nominal n (move position) kind) (Option.map (List.map (·.relocate move)))

namespace ItemReadersFollow

variable {n : Nat} (h : ItemReadersFollow move n)
include h

theorem succ_block : Follows move (TokenParser.block (n + 1)) (TokenParser.block (n + 1))
    (Item.relocateBlock move) := by
  refine (follows_expect '{').bind fun position => ?_
  exact (h.items true []).bind fun items => .pure (by simp)

theorem succ_item : Follows move (TokenParser.item (n + 1)) (TokenParser.item (n + 1))
    (Option.map (List.map (·.relocate move))) := by
  have hword : Unmoved (look castWord?) := by
    refine .look fun move ts us hts => ?_
    cases hts with
    | nil => rfl
    | cons ht hts =>
      simp only [castWord?, ht.afterDot, ht.isWord]
  refine hword.bind fun word => ?_
  cases word with
  | some operator => exact (follows_castExpr n operator).map fun _ => rfl
  | none => exact h.declaration

theorem signatureEnd (position : Nat) (name : String) (parameters : List Parameter) : Follows move
    (TokenParser.signatureEnd n position name parameters)
    (TokenParser.signatureEnd n (move position) name (parameters.map (·.relocate move)))
    (Option.map (List.map (·.relocate move))) := by
  refine unmoved_effects.bind fun effects => ?_
  refine (Follows.optionally unmoved_arrow (follows_typeExpr n)).bind fun result => ?_
  refine (follows_whereClause n).bind fun requirements => ?_
  refine (Follows.optionally (unmoved_look_startsWith '{') h.block).bind fun body => ?_
  exact .pure (by simp [Item.relocate])

theorem succ_function (position : Nat) (keyword : String) : Follows move
    (TokenParser.function (n + 1) position keyword)
    (TokenParser.function (n + 1) (move position) keyword)
    (Option.map (List.map (·.relocate move))) := by
  refine (Unmoved.skip 1).bind fun _ => ?_
  refine (unmoved_functionName keyword).bind fun name => .ite (fun _ => .pure rfl) fun _ => ?_
  refine unmoved_angles.bind fun _ => ?_
  refine (unmoved_eats '(').bind fun opened => .ite (fun _ => ?_) fun _ => .pure rfl
  exact (follows_parameters n).bind fun parameters => h.signatureEnd position name parameters

theorem succ_nominal (position : Nat) (kind : NominalKind) : Follows move
    (TokenParser.nominal (n + 1) position kind)
    (TokenParser.nominal (n + 1) (move position) kind)
    (Option.map (List.map (·.relocate move))) := by
  refine (Unmoved.skip 1).bind fun _ => ?_
  refine unmoved_nominalName.bind fun name => .ite (fun _ => .pure rfl) fun _ => ?_
  refine unmoved_angles.bind fun _ => ?_
  refine (follows_inherited n).bind fun inherits => ?_
  refine (follows_whereClause n).bind fun requirements => ?_
  refine (unmoved_look_startsWith '{').bind fun opened => .ite (fun _ => ?_) fun _ => .pure rfl
  exact h.block.bind fun members => .pure rfl

theorem succ_declaration : Follows move (TokenParser.declaration (n + 1))
    (TokenParser.declaration (n + 1)) (Option.map (List.map (·.relocate move))) := by
  have hdot : Unmoved (look fun ts => ts.head?.any (·.afterDot)) := by
    refine .look fun move ts us hts => ?_
    cases hts with
    | nil => rfl
    | cons ht hts => exact ht.afterDot
  refine hdot.bind fun afterDot => .ite (fun _ => .pure rfl) fun _ => ?_
  refine .position ⟨rfl, .nil⟩ fun position => ?_
  refine unmoved_modifier?.many.bind fun _ => ?_
  refine unmoved_look_word?.bind fun word => ?_
  refine .ite (fun _ => ?_) fun _ => .ite (fun _ => h.function _ _) fun _ =>
    .ite (fun _ => follows_typeAlias n position) fun _ => ?_
  · refine (Unmoved.skip 1).bind fun _ => ?_
    refine (follows_bindings n position).bind fun found => ?_
    cases found with
    | nil => exact .pure rfl
    | cons i found => exact .pure rfl
  · cases NominalKind.ofKeyword? (word.getD "") with
    | some kind => exact h.nominal position kind
    | none => exact .pure rfl

theorem succ_items (closing : Bool) (done : List Item) : Follows move
    (TokenParser.items (n + 1) closing done)
    (TokenParser.items (n + 1) closing (done.map (·.relocate move)))
    (List.map (·.relocate move)) := by
  have hreverse : (done.map (·.relocate move)).reverse = done.reverse.map (·.relocate move) :=
    List.map_reverse.symm
  intro ts us hts
  cases hts with
  | nil =>
    rw [items_nil, items_nil]
    cases closing with
    | true => exact rfl
    | false => exact ⟨hreverse, .nil⟩
  | @cons t u ts us ht hts =>
    rw [items_cons, items_cons, ht.is, ht.is]
    refine Follows.ite (fun _ => .ite (fun _ => ?_) fun _ => .fail)
      (fun _ => .ite (fun _ => ?_) fun _ => ?_) (.cons ht hts)
    · exact (Unmoved.skip 1).bind fun _ => .pure hreverse
    · exact h.block.bind fun b => h.items closing (.block b :: done)
    · refine (follows_orSkip h.item).bind fun found => ?_
      simpa using h.items closing (found.reverse ++ done)

theorem succ : ItemReadersFollow move (n + 1) where
  items := h.succ_items
  block := h.succ_block
  item := h.succ_item
  declaration := h.succ_declaration
  function := h.succ_function
  nominal := h.succ_nominal

end ItemReadersFollow

/-- **The readers of items see nothing of offsets**, whatever their bound. -/
theorem itemReadersFollow (move : Nat → Nat) (n : Nat) : ItemReadersFollow move n := by
  induction n with
  | zero => constructor <;> intros <;> exact .fail
  | succ n ih => exact ih.succ

end TokenParser

/-! ## Files -/

/-- Tokens agree with others, one by one, in what they are, in whether they begin a line and in
whether they touch the next. -/
structure SameLayout (ts us : List Token) : Prop where
  length : us.length = ts.length
  kind : ∀ i (_ : i < ts.length) (_ : i < us.length), us[i].kind = ts[i].kind
  newlineBefore : ∀ i (_ : i < ts.length) (_ : i < us.length),
    us[i].newlineBefore = ts[i].newlineBefore
  touching : ∀ i (_ : i + 1 < ts.length) (_ : i + 1 < us.length),
    (us[i].stop = us[i + 1].start ↔ ts[i].stop = ts[i + 1].start)

/-- Two readings of a text have answers that differ by `f`, or fail for one cause. -/
def ReadAlike {α : Type} (f : α → α) : (first second : Except SyntaxError α) → Prop
  | .ok a, .ok b => b = f a
  | .error e, .error e' => e'.cause = e.cause
  | _, _ => False

namespace SameLayout

variable {t u : Token} {ts us : List Token} {move : Nat → Nat}

theorem tail (h : SameLayout (t :: ts) (u :: us)) : SameLayout ts us where
  length := Nat.succ.inj h.length
  kind i hi hi' := h.kind (i + 1) (Nat.succ_lt_succ hi) (Nat.succ_lt_succ hi')
  newlineBefore i hi hi' := h.newlineBefore (i + 1) (Nat.succ_lt_succ hi) (Nat.succ_lt_succ hi')
  touching i hi hi' := h.touching (i + 1) (Nat.succ_lt_succ hi) (Nat.succ_lt_succ hi')

/-- The kinds of the tokens, one by one. -/
theorem forall₂_kind (h : SameLayout ts us) : List.Forall₂ (fun t u => u.kind = t.kind) ts us := by
  rw [List.forall₂_iff_get]
  exact ⟨h.length.symm, fun i hi hi' => h.kind i hi hi'⟩

/-- What is noted on a token agrees, if the token before it does. -/
theorem alike_following {before before' : Token}
    (h : SameLayout (before :: ts) (before' :: us))
    (hstarts : (ts.map (·.start)).map move = us.map (·.start)) :
    Alike move (Placed.following (some before) ts) (Placed.following (some before') us) := by
  induction ts generalizing us before before' with
  | nil =>
    have hnil : us = [] := List.eq_nil_of_length_eq_zero (by simpa using h.length)
    rw [hnil]
    exact .nil
  | cons t ts ih =>
    cases us with
    | nil => simp at hstarts
    | cons u us =>
      rw [List.map_cons, List.map_cons, List.map_cons, List.cons.injEq] at hstarts
      refine .cons ?_ (ih h.tail hstarts.2)
      have htouching : before'.stop = u.start ↔ before.stop = t.start :=
        h.touching 0 (by simp) (by simp)
      have hbefore : before'.kind = before.kind := h.kind 0 (by simp) (by simp)
      exact {
        kind := h.kind 1 (by simp) (by simp)
        start := hstarts.1.symm
        newlineBefore := h.newlineBefore 1 (by simp) (by simp)
        touching := by simp [htouching]
        afterDot := by simp [Token.is, hbefore] }

theorem alike_ofTokens (h : SameLayout ts us)
    (hstarts : (ts.map (·.start)).map move = us.map (·.start)) :
    Alike move (Placed.ofTokens ts) (Placed.ofTokens us) := by
  cases ts with
  | nil =>
    have hnil : us = [] := List.eq_nil_of_length_eq_zero (by simpa using h.length)
    rw [hnil]
    exact .nil
  | cons t ts =>
    cases us with
    | nil => simp at hstarts
    | cons u us =>
      rw [List.map_cons, List.map_cons, List.map_cons, List.cons.injEq] at hstarts
      exact .cons {
        kind := h.kind 0 (by simp) (by simp)
        start := hstarts.1.symm
        newlineBefore := h.newlineBefore 0 (by simp) (by simp)
        touching := rfl
        afterDot := rfl } (h.alike_following hstarts.2)

end SameLayout

/-- The braces of the tokens are matched alike, after as many that are open. -/
def BracesAlike (ts us : List Token) : Prop :=
  ∀ ⦃pending pending' : List Nat⦄, pending'.length = pending.length →
    ReadAlike id (matchBraces pending ts) (matchBraces pending' us)

namespace BracesAlike

theorem nil : BracesAlike [] [] := by
  intro pending pending' hlen
  cases pending with
  | nil =>
    rw [List.eq_nil_of_length_eq_zero hlen]
    exact rfl
  | cons p pending =>
    cases pending' with
    | nil => cases hlen
    | cons p' pending' => exact rfl

theorem cons {t u : Token} {ts us : List Token} (ht : u.kind = t.kind) (h : BracesAlike ts us) :
    BracesAlike (t :: ts) (u :: us) := by
  intro pending pending' hlen
  have his : ∀ c, u.is c = t.is c := fun c => by rw [Token.is, Token.is, ht]
  rw [matchBraces.eq_def, matchBraces.eq_def pending']
  simp only [his]
  split
  · exact h (congrArg (· + 1) hlen)
  · split
    · cases pending with
      | nil =>
        rw [List.eq_nil_of_length_eq_zero hlen]
        exact rfl
      | cons p pending =>
        cases pending' with
        | nil => cases hlen
        | cons p' pending' => exact h (Nat.succ.inj hlen)
    · exact h hlen

end BracesAlike

/-- Braces are matched by what the tokens are. -/
theorem matchBraces_alike {ts us : List Token}
    (h : List.Forall₂ (fun t u => u.kind = t.kind) ts us) : BracesAlike ts us := by
  induction h with
  | nil => exact .nil
  | cons ht _ ih => exact ih.cons ht

open TokenParser in
/-- Files are alike where their items are. -/
theorem SourceFile.ofTokens_of_agree {ts us : List Token} {move : Nat → Nat}
    (h : Agree move (List.map (·.relocate move))
      (TokenParser.items (depth ts.length) false [] (Placed.ofTokens ts))
      (TokenParser.items (depth us.length) false [] (Placed.ofTokens us))) (size size' : Nat) :
    ReadAlike (SourceFile.relocate move) (SourceFile.ofTokens size ts)
      (SourceFile.ofTokens size' us) := by
  unfold SourceFile.ofTokens
  rw [StateT.run, StateT.run]
  revert h
  cases TokenParser.items (depth ts.length) false [] (Placed.ofTokens ts) with
  | error e =>
    cases TokenParser.items (depth us.length) false [] (Placed.ofTokens us) with
    | error e' => exact id
    | ok y => exact False.elim
  | ok x =>
    cases TokenParser.items (depth us.length) false [] (Placed.ofTokens us) with
    | error e' => exact False.elim
    | ok y => exact fun h => congrArg SourceFile.mk h.1

open TokenParser in
/-- The files that tokens of one layout say are alike. -/
theorem SourceFile.ofTokens_alike {ts us : List Token} {move : Nat → Nat} (h : SameLayout ts us)
    (hstarts : (ts.map (·.start)).map move = us.map (·.start)) (size size' : Nat) :
    ReadAlike (SourceFile.relocate move) (SourceFile.ofTokens size ts)
      (SourceFile.ofTokens size' us) := by
  refine SourceFile.ofTokens_of_agree ?_ size size'
  rw [h.length]
  exact (itemReadersFollow move (depth ts.length)).items false [] (h.alike_ofTokens hstarts)

/-- Starts that increase can be sent anywhere. -/
theorem exists_move {ts us : List Token} (h : ts.Pairwise fun a b => a.start < b.start)
    (hlen : us.length = ts.length) :
    ∃ move : Nat → Nat, (ts.map (·.start)).map move = us.map (·.start) := by
  have hnodup : (ts.map (·.start)).Nodup :=
    List.pairwise_map.2 (h.imp fun hlt => Nat.ne_of_lt hlt)
  refine ⟨fun p => (us.map (·.start)).getD ((ts.map (·.start)).idxOf p) 0, ?_⟩
  refine List.ext_getElem (by simp [hlen]) fun i hi hi' => ?_
  have hts : i < (ts.map (·.start)).length := by simpa using hi
  rw [List.getElem_map, hnodup.idxOf_getElem i hts, List.getD_eq_getElem?_getD,
    List.getElem?_eq_getElem hi', Option.getD_some]

/-- **A text is read by what its tokens are, which of them touch and which begin a line.** Two texts
whose tokens agree in these are both read, or both fail for one cause. Where they are read, the
tree of the second is that of the first with every offset moved, by any `move` that sends the starts
of the first text's tokens to those of the second's. What `move` does elsewhere is of no account, so
every offset in a tree is the start of a token. -/
theorem parse_of_sameLayout {first second : Text} {ts us : List Token}
    (hts : tokenize first = .ok ts) (hus : tokenize second = .ok us) (h : SameLayout ts us) :
    (∃ move : Nat → Nat, (ts.map (·.start)).map move = us.map (·.start)) ∧
      ∀ move : Nat → Nat, (ts.map (·.start)).map move = us.map (·.start) →
        ReadAlike (SourceFile.relocate move) (SourceFile.parse first)
          (SourceFile.parse second) := by
  refine ⟨exists_move (tiles_of_tokenize hts).starts_increase h.length, fun move hstarts => ?_⟩
  have hbraces : ReadAlike id (checkBraces ts) (checkBraces us) :=
    matchBraces_alike h.forall₂_kind rfl
  have hread := SourceFile.ofTokens_alike h hstarts first.size second.size
  simp only [SourceFile.parse, bind, Except.bind, hts, hus]
  revert hbraces
  cases checkBraces ts with
  | error e =>
    cases checkBraces us with
    | error e' => exact id
    | ok u => exact False.elim
  | ok u =>
    cases checkBraces us with
    | error e' => exact False.elim
    | ok u' => exact fun _ => hread

/-- A comment and tabs move the tokens of a declaration, and one tree is the other moved. -/
theorem comment_moves_tree :
    ∃ ts us, tokenize "let a: (b: C?)".toList = .ok ts ∧
      tokenize "let/*é*/ a:	(b:  C?)".toList = .ok us ∧ SameLayout ts us ∧
      (∃ move : Nat → Nat, (ts.map (·.start)).map move = us.map (·.start)) ∧
      ∀ move : Nat → Nat, (ts.map (·.start)).map move = us.map (·.start) →
        ReadAlike (SourceFile.relocate move) (SourceFile.parse "let a: (b: C?)".toList)
          (SourceFile.parse "let/*é*/ a:	(b:  C?)".toList) := by
  have hts : tokenize "let a: (b: C?)".toList = .ok
      [⟨.ident "let", 0, 3, true⟩, ⟨.ident "a", 4, 5, false⟩, ⟨.punct ':', 5, 6, false⟩,
        ⟨.punct '(', 7, 8, false⟩, ⟨.ident "b", 8, 9, false⟩, ⟨.punct ':', 9, 10, false⟩,
        ⟨.ident "C", 11, 12, false⟩, ⟨.punct '?', 12, 13, false⟩, ⟨.punct ')', 13, 14, false⟩] := by
    decide +kernel
  have hus : tokenize "let/*é*/ a:	(b:  C?)".toList = .ok
      [⟨.ident "let", 0, 3, true⟩, ⟨.ident "a", 10, 11, false⟩, ⟨.punct ':', 11, 12, false⟩,
        ⟨.punct '(', 13, 14, false⟩, ⟨.ident "b", 14, 15, false⟩, ⟨.punct ':', 15, 16, false⟩,
        ⟨.ident "C", 18, 19, false⟩, ⟨.punct '?', 19, 20, false⟩,
        ⟨.punct ')', 20, 21, false⟩] := by
    decide +kernel
  refine ⟨_, _, hts, hus, ?layout, parse_of_sameLayout hts hus ?layout⟩
  refine ⟨rfl, by decide, by decide, fun i hi _ => ?_⟩
  replace hi : i < 8 := Nat.lt_of_succ_lt_succ hi
  interval_cases i <;> simp

end SwiftTuples
