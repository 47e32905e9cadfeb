import SwiftTuples.Proofs.Parsing.Advance
/-!
# Bounds do not matter

The readers that call each other are bounded by a number that every call lowers. Once the bound
covers the tokens at hand, sixteen for each and a few for the readers entered before the next token
is taken, a larger one changes nothing: `Settled k rank p` says so of bounds from `k` on, `rank`
being the length of the longest chain of calls that `p` can start without taking a token.
-/

namespace SwiftTuples

namespace TokenParser

variable {α β : Type}

/-- From `k` on the bound makes no difference to `p`, on tokens that `k` covers. -/
def Settled (k rank : Nat) (p : Nat → TokenParser α) : Prop :=
  ∀ n ts, k ≤ n → 16 * ts.length + rank ≤ k → p n ts = p k ts

/-- Two bounds that cover the tokens are as good as one another. -/
theorem Settled.eq {k rank : Nat} {p : Nat → TokenParser α} (h : Settled k rank p) {n m : Nat}
    {ts : List Placed} (hts : 16 * ts.length + rank ≤ k) (hn : k ≤ n) (hm : k ≤ m) :
    p n ts = p m ts :=
  (h n ts hn hts).trans (h m ts hm hts).symm

theorem Settled.succ {k rank : Nat} {p : Nat → TokenParser α}
    (h : ∀ n ts, k ≤ n → 16 * ts.length + rank ≤ k + 1 → p (n + 1) ts = p (k + 1) ts) :
    Settled (k + 1) rank p := by
  intro n ts hn hts
  obtain ⟨n, rfl⟩ : ∃ m, n = m + 1 := ⟨n - 1, by omega⟩
  exact h n ts (by omega) hts

theorem ite_congr_at {c : Prop} [Decidable c] {p p' q q' : TokenParser α} {ts : List Placed}
    (hp : c → p ts = p' ts) (hq : ¬ c → q ts = q' ts) :
    (if c then p else q) ts = (if c then p' else q') ts := by
  split
  · next h => exact hp h
  · next h => exact hq h

theorem look_bind_congr {f : List Placed → β} {g h : β → TokenParser α} {ts : List Placed}
    (hgh : g (f ts) ts = h (f ts) ts) : (look f >>= g) ts = (look f >>= h) ts := hgh

theorem map_congr {p q : TokenParser α} {ts : List Placed} (f : α → β) (h : p ts = q ts) :
    (f <$> p) ts = (f <$> q) ts := by
  change (p >>= fun a => pure (f a)) ts = (q >>= fun a => pure (f a)) ts
  exact bind_congr h fun _ _ _ => rfl

theorem optionally_congr {mark : TokenParser Bool} {p q : TokenParser α} {ts : List Placed}
    (h : ∀ found rest, mark ts = .ok (found, rest) → p rest = q rest) :
    optionally mark p ts = optionally mark q ts :=
  bind_congr rfl fun found rest hmark => ite_congr_at (fun _ => map_congr _ (h found rest hmark))
    fun _ => rfl

/-! ## Types -/

/-- From `k` on the bounds of the readers of types make no difference. -/
structure TypeReadersSettle (k : Nat) : Prop where
  typeExpr : Settled k 5 typeExpr
  composition : Settled k 4 composition
  conjuncts : Settled k 3 conjuncts
  suffixed : Settled k 2 suffixed
  suffixes : ∀ position base, Settled k 1 fun n => suffixes n position base
  primary : Settled k 1 primary
  parenthesized : ∀ position, Settled k 7 fun n => parenthesized n position
  bracketed : ∀ position, Settled k 6 fun n => bracketed n position
  genericArguments : Settled k 7 genericArguments
  types : Settled k 6 types
  elements : Settled k 6 elements

namespace TypeReadersSettle

variable {k : Nat} (h : TypeReadersSettle k)
include h

theorem succ_typeExpr : Settled (k + 1) 5 TokenParser.typeExpr := by
  refine .succ fun n ts hn hts => ?_
  refine look_bind_congr ?_
  refine bind_congr rfl fun specifiers rest hmany => ?_
  have := (splits_many advancesIfFound_specifier?.splits).length_le hmany
  exact bind_congr (h.composition n rest hn (by omega)) fun _ _ _ => rfl

theorem succ_composition : Settled (k + 1) 4 TokenParser.composition := by
  refine .succ fun n ts hn hts => ?_
  refine look_bind_congr ?_
  refine bind_congr (h.suffixed n ts hn (by omega)) fun first rest hfirst => ?_
  have := (typeReadersAdvance k).suffixed.length_lt hfirst
  exact bind_congr (h.conjuncts n rest hn (by omega)) fun _ _ _ => rfl

theorem succ_conjuncts : Settled (k + 1) 3 TokenParser.conjuncts := by
  refine .succ fun n ts hn hts => ?_
  refine bind_congr rfl fun joined rest heat => ite_congr_at (fun _ => ?_) fun _ => rfl
  have := (takes_eats '&').splits.length_le heat
  refine bind_congr (h.suffixed n rest hn (by omega)) fun part rest hpart => ?_
  have := (typeReadersAdvance k).suffixed.length_lt hpart
  exact bind_congr (h.conjuncts n rest hn (by omega)) fun _ _ _ => rfl

theorem succ_suffixed : Settled (k + 1) 2 TokenParser.suffixed := by
  refine .succ fun n ts hn hts => ?_
  refine look_bind_congr ?_
  refine bind_congr (h.primary n ts hn (by omega)) fun base rest hbase => ?_
  have := (typeReadersAdvance k).primary.length_lt hbase
  exact h.suffixes _ base n rest hn (by omega)

theorem succ_suffixes (position : Nat) (base : TypeExpr) :
    Settled (k + 1) 1 fun n => TokenParser.suffixes n position base := by
  refine .succ fun n ts hn hts => ?_
  refine bind_congr rfl fun mark rest hmark => ?_
  cases mark with
  | some mark =>
    have := advancesIfFound_optionalMark?.length_lt hmark
    exact h.suffixes position _ n rest hn (by omega)
  | none =>
    have := advancesIfFound_optionalMark?.splits.length_le hmark
    refine bind_congr rfl fun name left hname => ?_
    cases name with
    | some name =>
      have := advancesIfFound_memberName?.length_lt hname
      refine bind_congr (h.genericArguments n left hn (by omega)) fun arguments more hmore => ?_
      have := (typeReadersAdvance k).genericArguments.length_le hmore
      exact h.suffixes position _ n more hn (by omega)
    | none => rfl

theorem succ_primary : Settled (k + 1) 1 TokenParser.primary := by
  refine .succ fun n ts hn hts => ?_
  refine look_bind_congr ?_
  refine bind_congr rfl fun name rest hname => ?_
  cases name with
  | some name =>
    have := advancesIfFound_name?.length_lt hname
    exact bind_congr (h.genericArguments n rest hn (by omega)) fun _ _ _ => rfl
  | none =>
    have := advancesIfFound_name?.splits.length_le hname
    refine bind_congr rfl fun paren left hparen => ite_congr_at (fun hfound => ?_) fun _ => ?_
    · have := length_lt_of_eats (hfound ▸ hparen)
      exact h.parenthesized _ n left hn (by omega)
    · have := (takes_eats '(').splits.length_le hparen
      refine bind_congr rfl fun bracket more hbracket =>
        ite_congr_at (fun hfound => ?_) fun _ => rfl
      have := length_lt_of_eats (hfound ▸ hbracket)
      exact h.bracketed _ n more hn (by omega)

theorem succ_parenthesized (position : Nat) :
    Settled (k + 1) 7 fun n => TokenParser.parenthesized n position := by
  refine .succ fun n ts hn hts => ?_
  refine bind_congr (h.elements n ts hn (by omega)) fun elements rest helements => ?_
  have := (typeReadersAdvance k).elements.length_le helements
  refine look_bind_congr (ite_congr_at (fun _ => ?_) fun _ => rfl)
  refine bind_congr rfl fun effects left heffects => ?_
  have := splits_effects.length_le heffects
  refine bind_congr rfl fun hasArrow more harrow => ite_congr_at (fun _ => ?_) fun _ => rfl
  have := splits_arrow.length_le harrow
  exact bind_congr (h.typeExpr n more hn (by omega)) fun _ _ _ => rfl

theorem succ_bracketed (position : Nat) :
    Settled (k + 1) 6 fun n => TokenParser.bracketed n position := by
  refine .succ fun n ts hn hts => ?_
  refine bind_congr (h.typeExpr n ts hn (by omega)) fun first rest hfirst => ?_
  have := (typeReadersAdvance k).typeExpr.length_lt hfirst
  refine bind_congr (optionally_congr fun found left hcolon => ?_) fun _ _ _ => rfl
  have := (takes_eats ':').splits.length_le hcolon
  exact h.typeExpr n left hn (by omega)

theorem succ_genericArguments : Settled (k + 1) 7 TokenParser.genericArguments := by
  refine .succ fun n ts hn hts => ?_
  refine look_bind_congr (ite_congr_at (fun _ => ?_) fun _ => rfl)
  refine bind_congr rfl fun _ rest hskip => ?_
  have := (splits_skip 1).length_le hskip
  exact bind_congr (h.types n rest hn (by omega)) fun _ _ _ => rfl

theorem succ_types : Settled (k + 1) 6 TokenParser.types := by
  refine .succ fun n ts hn hts => ?_
  refine bind_congr (h.typeExpr n ts hn (by omega)) fun first rest hfirst => ?_
  have := (typeReadersAdvance k).typeExpr.length_lt hfirst
  refine bind_congr rfl fun goesOn left hcomma => ite_congr_at (fun _ => ?_) fun _ => rfl
  have := (takes_eats ',').splits.length_le hcomma
  exact bind_congr (h.types n left hn (by omega)) fun _ _ _ => rfl

theorem succ_elements : Settled (k + 1) 6 TokenParser.elements := by
  refine .succ fun n ts hn hts => ?_
  refine bind_congr rfl fun closed rest hclose => ite_congr_at (fun _ => rfl) fun _ => ?_
  have := (takes_eats ')').splits.length_le hclose
  refine bind_congr rfl fun label rest hlabel => ?_
  have := splits_label?.length_le hlabel
  refine bind_congr (h.typeExpr n rest hn (by omega)) fun type rest htype => ?_
  have := (typeReadersAdvance k).typeExpr.length_lt htype
  refine bind_congr rfl fun _ rest htrailer => ?_
  have := splits_trailer.length_le htrailer
  refine bind_congr rfl fun goesOn rest hcomma => ite_congr_at (fun _ => ?_) fun _ => rfl
  have := (takes_eats ',').splits.length_le hcomma
  exact bind_congr (h.elements n rest hn (by omega)) fun _ _ _ => rfl

theorem succ : TypeReadersSettle (k + 1) where
  typeExpr := h.succ_typeExpr
  composition := h.succ_composition
  conjuncts := h.succ_conjuncts
  suffixed := h.succ_suffixed
  suffixes := h.succ_suffixes
  primary := h.succ_primary
  parenthesized := h.succ_parenthesized
  bracketed := h.succ_bracketed
  genericArguments := h.succ_genericArguments
  types := h.succ_types
  elements := h.succ_elements

end TypeReadersSettle

/-- **The bounds of the readers of types do not matter**, where they cover the tokens. -/
theorem typeReadersSettle (k : Nat) : TypeReadersSettle k := by
  induction k with
  | zero =>
    -- bound 0 covers nothing
    constructor <;> intros <;> intro n ts _ hts <;> omega
  | succ k ih => exact ih.succ

/-! ## Items -/

theorem settled_typeExpr (k : Nat) : Settled k 5 typeExpr := (typeReadersSettle k).typeExpr

theorem settled_bindings (k position : Nat) : Settled k 1 fun n => bindings n position := by
  induction k with
  | zero => intro n ts _ hts; omega
  | succ k ih =>
    refine .succ fun n ts hn hts => ?_
    refine bind_congr rfl fun binder rest hbinder => ?_
    cases binder with
    | none => rfl
    | some binder =>
      have := advancesIfFound_binder?.length_lt hbinder
      refine bind_congr (optionally_congr fun found left hcolon => ?_)
        fun declared left hdeclared => ?_
      · have := splits_declaredColon.length_le hcolon
        exact settled_typeExpr k n left hn (by omega)
      · have := (splits_optionally splits_declaredColon
          (typeReadersAdvance k).typeExpr.splits).length_le hdeclared
        refine look_bind_congr (ite_congr_at (fun _ => ?_) fun _ => rfl)
        refine bind_congr rfl fun _ more hskip => ?_
        have := (splits_skip 1).length_le hskip
        exact bind_congr (ih n more hn (by omega)) fun _ _ _ => rfl

theorem settled_parameters (k : Nat) : Settled k 1 parameters := by
  induction k with
  | zero => intro n ts _ hts; omega
  | succ k ih =>
    refine .succ fun n ts hn hts => ?_
    refine bind_congr rfl fun closed rest hclose => ite_congr_at (fun _ => rfl) fun _ => ?_
    have := (takes_eats ')').splits.length_le hclose
    refine bind_congr rfl fun _ rest hattributes => ?_
    have := (splits_many advancesIfFound_attribute?.splits).length_le hattributes
    refine bind_congr rfl fun names rest hnames => ?_
    have := splits_parameterNames.length_le hnames
    refine bind_congr rfl fun _ rest hcolon => ?_
    have := (advances_expect ':').length_lt hcolon
    refine bind_congr (settled_typeExpr k n rest hn (by omega)) fun type rest htype => ?_
    have := (typeReadersAdvance k).typeExpr.length_lt htype
    refine bind_congr rfl fun _ rest htrailer => ?_
    have := splits_trailer.length_le htrailer
    refine bind_congr rfl fun goesOn rest hcomma => ite_congr_at (fun _ => ?_) fun _ => rfl
    have := (takes_eats ',').splits.length_le hcomma
    exact bind_congr (ih n rest hn (by omega)) fun _ _ _ => rfl

theorem settled_requirements (k : Nat) : Settled k 6 requirements := by
  induction k with
  | zero => intro n ts _ hts; omega
  | succ k ih =>
    refine .succ fun n ts hn hts => ?_
    refine bind_congr (settled_typeExpr k n ts hn (by omega)) fun subject rest hsubject => ?_
    have := (typeReadersAdvance k).typeExpr.length_lt hsubject
    refine bind_congr rfl fun sameType rest hrelation => ?_
    have := advances_relation.length_lt hrelation
    refine bind_congr (settled_typeExpr k n rest hn (by omega))
      fun constraint rest hconstraint => ?_
    have := (typeReadersAdvance k).typeExpr.length_lt hconstraint
    refine bind_congr rfl fun goesOn rest hcomma => ite_congr_at (fun _ => ?_) fun _ => rfl
    have := (takes_eats ',').splits.length_le hcomma
    exact bind_congr (ih n rest hn (by omega)) fun _ _ _ => rfl

theorem settled_whereClause (k : Nat) : Settled k 6 whereClause := by
  intro n ts hn hts
  refine look_bind_congr (ite_congr_at (fun _ => ?_) fun _ => rfl)
  refine bind_congr rfl fun _ rest hskip => ?_
  have := (splits_skip 1).length_le hskip
  exact settled_requirements k n rest hn (by omega)

theorem settled_inherited (k : Nat) : Settled k 6 inherited := by
  intro n ts hn hts
  refine bind_congr rfl fun opens rest heat => ite_congr_at (fun _ => ?_) fun _ => rfl
  have := (takes_eats ':').splits.length_le heat
  exact (typeReadersSettle k).types n rest hn (by omega)

theorem settled_typeAlias (k position : Nat) : Settled k 5 fun n => typeAlias n position := by
  intro n ts hn hts
  refine bind_congr rfl fun _ rest hskip => ?_
  have := (splits_skip 1).length_le hskip
  refine bind_congr rfl fun name rest hname => ?_
  have := advancesIfFound_name?.splits.length_le hname
  cases name with
  | none => rfl
  | some name =>
    refine bind_congr rfl fun _ rest hangles => ?_
    have := splits_angles.length_le hangles
    refine bind_congr rfl fun assigned rest heat => ite_congr_at (fun _ => ?_) fun _ => rfl
    have := (takes_eats '=').splits.length_le heat
    exact bind_congr (settled_typeExpr k n rest hn (by omega)) fun _ _ _ => rfl

theorem settled_castExpr (k : Nat) (operator : CastOperator) :
    Settled k 5 fun n => castExpr n operator := by
  intro n ts hn hts
  refine look_bind_congr ?_
  refine bind_congr rfl fun _ rest hskip => ?_
  have := (splits_skip 1).length_le hskip
  refine bind_congr rfl fun operator rest hoperator => ?_
  have := (splits_castOperator _).length_le hoperator
  exact bind_congr (settled_typeExpr k n rest hn (by omega)) fun _ _ _ => rfl

theorem orSkip_congr {p q : TokenParser (Option (List Item))} {ts : List Placed}
    (h : p ts = q ts) : orSkip p ts = orSkip q ts := by
  rw [orSkip, orSkip, h]

/-- From `k` on the bounds of the readers of items make no difference. -/
structure ItemReadersSettle (k : Nat) : Prop where
  items : ∀ closing done, Settled k 11 fun n => items n closing done
  block : Settled k 1 block
  item : Settled k 10 item
  declaration : Settled k 9 declaration
  function : ∀ position keyword, Settled k 8 fun n => function n position keyword
  nominal : ∀ position kind, Settled k 8 fun n => nominal n position kind

namespace ItemReadersSettle

variable {k : Nat} (h : ItemReadersSettle k)
include h

theorem succ_items (closing : Bool) (done : List Item) :
    Settled (k + 1) 11 fun n => TokenParser.items n closing done := by
  refine .succ fun n ts hn hts => ?_
  cases ts with
  | nil => rfl
  | cons t ts =>
    -- either way a token goes before the loop is entered again, and sixteen of the bound with it
    refine ite_congr_at (fun _ => rfl) fun _ => ite_congr_at (fun _ => ?_) fun _ => ?_
    · refine bind_congr (h.block n (t :: ts) hn (by omega)) fun block rest hblock => ?_
      have := (itemReadersAdvance k).block.length_lt hblock
      exact h.items closing _ n rest hn (by omega)
    · refine bind_congr (orSkip_congr (h.item n (t :: ts) hn (by omega)))
        fun found rest hfound => ?_
      have := length_lt_of_orSkip (itemReadersAdvance k).item hfound
      exact h.items closing _ n rest hn (by omega)

theorem succ_block : Settled (k + 1) 1 TokenParser.block := by
  refine .succ fun n ts hn hts => ?_
  refine bind_congr rfl fun position rest hopen => ?_
  have := (advances_expect '{').length_lt hopen
  exact bind_congr (h.items true [] n rest hn (by omega)) fun _ _ _ => rfl

theorem succ_item : Settled (k + 1) 10 TokenParser.item := by
  refine .succ fun n ts hn hts => ?_
  refine look_bind_congr ?_
  cases castWord? ts with
  | some operator => exact map_congr _ (settled_castExpr k operator n ts hn (by omega))
  | none => exact h.declaration n ts hn (by omega)

theorem succ_declaration : Settled (k + 1) 9 TokenParser.declaration := by
  refine .succ fun n ts hn hts => ?_
  refine look_bind_congr (ite_congr_at (fun _ => rfl) fun _ => ?_)
  refine look_bind_congr ?_
  refine bind_congr rfl fun _ rest hmodifiers => ?_
  have := (splits_many advancesIfFound_modifier?.splits).length_le hmodifiers
  refine look_bind_congr ?_
  refine ite_congr_at (fun _ => ?_) fun _ => ite_congr_at (fun _ => ?_) fun _ =>
    ite_congr_at (fun _ => ?_) fun _ => ?_
  · refine bind_congr rfl fun _ rest hskip => ?_
    have := (splits_skip 1).length_le hskip
    exact bind_congr (settled_bindings k _ n rest hn (by omega)) fun _ _ _ => rfl
  · exact h.function _ _ n rest hn (by omega)
  · exact settled_typeAlias k _ n rest hn (by omega)
  · cases NominalKind.ofKeyword? ((word? rest).getD "") with
    | some kind => exact h.nominal _ kind n rest hn (by omega)
    | none => rfl

theorem succ_function (position : Nat) (keyword : String) :
    Settled (k + 1) 8 fun n => TokenParser.function n position keyword := by
  refine .succ fun n ts hn hts => ?_
  refine bind_congr rfl fun _ rest hskip => ?_
  have := (splits_skip 1).length_le hskip
  refine bind_congr rfl fun name rest hname => ite_congr_at (fun _ => rfl) fun _ => ?_
  have := (splits_functionName keyword).length_le hname
  refine bind_congr rfl fun _ rest hangles => ?_
  have := splits_angles.length_le hangles
  refine bind_congr rfl fun opened rest hopen => ite_congr_at (fun _ => ?_) fun _ => rfl
  have := (takes_eats '(').splits.length_le hopen
  refine bind_congr (settled_parameters k n rest hn (by omega))
    fun parameters rest hparameters => ?_
  have := (splits_parameters k).length_le hparameters
  refine bind_congr rfl fun effects rest heffects => ?_
  have := splits_effects.length_le heffects
  refine bind_congr (optionally_congr fun found rest harrow => ?_) fun result rest hresult => ?_
  · have := splits_arrow.length_le harrow
    exact settled_typeExpr k n rest hn (by omega)
  have := (splits_optionally splits_arrow (typeReadersAdvance k).typeExpr.splits).length_le hresult
  refine bind_congr (settled_whereClause k n rest hn (by omega)) fun requirements rest hwhere => ?_
  have := (splits_whereClause k).length_le hwhere
  refine bind_congr (optionally_congr fun found rest hlook => ?_) fun _ _ _ => rfl
  cases hlook
  exact h.block n rest hn (by omega)

theorem succ_nominal (position : Nat) (kind : NominalKind) :
    Settled (k + 1) 8 fun n => TokenParser.nominal n position kind := by
  refine .succ fun n ts hn hts => ?_
  refine bind_congr rfl fun _ rest hskip => ?_
  have := (splits_skip 1).length_le hskip
  refine bind_congr rfl fun name rest hname => ite_congr_at (fun _ => rfl) fun _ => ?_
  have := splits_nominalName.length_le hname
  refine bind_congr rfl fun _ rest hangles => ?_
  have := splits_angles.length_le hangles
  refine bind_congr (settled_inherited k n rest hn (by omega)) fun inherits rest hinherits => ?_
  have := (splits_inherited k).length_le hinherits
  refine bind_congr (settled_whereClause k n rest hn (by omega)) fun requirements rest hwhere => ?_
  have := (splits_whereClause k).length_le hwhere
  refine look_bind_congr (ite_congr_at (fun _ => ?_) fun _ => rfl)
  exact bind_congr (h.block n rest hn (by omega)) fun _ _ _ => rfl

theorem succ : ItemReadersSettle (k + 1) where
  items := h.succ_items
  block := h.succ_block
  item := h.succ_item
  declaration := h.succ_declaration
  function := h.succ_function
  nominal := h.succ_nominal

end ItemReadersSettle

/-- **The bounds of the readers of items do not matter**, where they cover the tokens. -/
theorem itemReadersSettle (k : Nat) : ItemReadersSettle k := by
  induction k with
  | zero => constructor <;> intros <;> intro n ts _ hts <;> omega
  | succ k ih => exact ih.succ

end TokenParser

end SwiftTuples
