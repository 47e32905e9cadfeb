import SwiftTuples.Proofs.Parsing.Bounds
/-!
# Bounds are enough

The readers that call each other fail when the number that bounds them runs out. It never does
where it covers the tokens at hand: each call lowers the number by one, and between two tokens there
are fewer than sixteen calls. So a text is nested as deeply as its tokens allow and never too deeply
(`Fits`), by the same induction and with the same ranks as in the proof that larger bounds change
nothing.
-/

namespace SwiftTuples

namespace TokenParser

variable {α β : Type}

/-- On these tokens the parser does not fail for want of depth. -/
def Fits (p : TokenParser α) (ts : List Placed) : Prop :=
  ∀ e, p ts = .error e → e.cause ≠ .tooDeep

namespace Fits

variable {p q : TokenParser α} {ts : List Placed}

theorem bind {f : α → TokenParser β} (hp : Fits p ts)
    (hf : ∀ a rest, p ts = .ok (a, rest) → Fits (f a) rest) : Fits (p >>= f) ts := by
  intro e h
  rw [bind_apply] at h
  cases hpts : p ts with
  | error e' =>
    rw [hpts] at h
    cases h
    exact hp e hpts
  | ok x =>
    rw [hpts] at h
    exact hf x.1 x.2 hpts e h

theorem pure {a : α} : Fits (pure a : TokenParser α) ts := by
  intro e h
  cases h

theorem fail {cause : SyntaxCause} (h : cause ≠ .tooDeep) :
    Fits (TokenParser.fail cause : TokenParser α) ts := by
  intro e he
  cases he
  exact h

theorem look {f : List Placed → α} : Fits (TokenParser.look f) ts := by
  intro e h
  cases h

theorem look_bind {f : List Placed → β} {g : β → TokenParser α} (h : Fits (g (f ts)) ts) :
    Fits (TokenParser.look f >>= g) ts := h

theorem skip {n : Nat} : Fits (TokenParser.skip n) ts := by
  intro e h
  cases h

theorem map {g : α → β} (h : Fits p ts) : Fits (g <$> p) ts := h.bind fun _ _ _ => .pure

theorem ite {c : Prop} [Decidable c] (hp : c → Fits p ts) (hq : ¬ c → Fits q ts) :
    Fits (if c then p else q) ts := by
  split
  · next h => exact hp h
  · next h => exact hq h

theorem optionally {mark : TokenParser Bool} (hmark : Fits mark ts)
    (hp : ∀ found rest, mark ts = .ok (found, rest) → Fits p rest) :
    Fits (TokenParser.optionally mark p) ts :=
  hmark.bind fun found rest h => .ite (fun _ => (hp found rest h).map) fun _ => .pure

theorem collect {step : TokenParser (Option α)} (h : ∀ ts, Fits step ts) (n : Nat) :
    Fits (TokenParser.collect step n) ts := by
  induction n generalizing ts with
  | zero => exact .pure
  | succ n ih =>
    refine (h ts).bind fun found rest _ => ?_
    cases found with
    | some a => exact ih.bind fun _ _ _ => .pure
    | none => exact .pure

theorem many {step : TokenParser (Option α)} (h : ∀ ts, Fits step ts) :
    Fits (TokenParser.many step) ts := collect h ts.length

end Fits

/-! ## Readers without a bound -/

section tokens

variable {ts : List Placed}

theorem fits_eat (c : Char) : Fits (eat c) ts := by
  intro e h
  cases ts with
  | nil => cases h
  | cons t ts =>
    simp only [eat] at h
    split at h <;> cases h

theorem fits_eats (c : Char) : Fits (eats c) ts := (fits_eat c).map

theorem fits_expect (c : Char) : Fits (expect c) ts := by
  refine (fits_eat c).bind fun found rest _ => ?_
  cases found with
  | some position => exact .pure
  | none => exact .fail nofun

theorem fits_name? : Fits name? ts := by
  intro e h
  cases ts with
  | nil => cases h
  | cons t ts =>
    simp only [name?] at h
    split at h <;> cases h

theorem fits_arrow : Fits arrow ts := by
  intro e h
  cases ts with
  | nil => cases h
  | cons t ts =>
    simp only [arrow] at h
    split at h <;> cases h

theorem fits_label? : Fits label? ts := by
  intro e h
  simp only [label?] at h
  split at h <;> cases h

theorem cause_of_closeFrom {opening closing : Char} {start : Option Nat} {depth braces : Nat}
    {e : ReadError} (h : closeFrom opening closing start depth braces ts = .error e) :
    e = ⟨start, .unbalanced opening⟩ := by
  fun_induction closeFrom opening closing start depth braces ts with
  | case1 | case2 =>
    cases h
    rfl
  | case4 => cases h
  | case3 _ _ _ _ _ _ _ ih | case5 _ _ _ _ _ _ _ _ _ ih | case6 _ _ _ _ _ _ _ _ ih => exact ih h

theorem fits_balanced (opening closing : Char) : Fits (balanced opening closing) ts := by
  intro e h
  simp only [balanced] at h
  split at h
  · cases h
  · next e' hclose =>
    cases h
    rw [cause_of_closeFrom hclose]
    simp

theorem fits_arguments : Fits arguments ts :=
  .look_bind (.ite (fun _ => fits_balanced _ _) fun _ => .pure)

theorem fits_angles : Fits angles ts :=
  .look_bind (.ite (fun _ => fits_balanced _ _) fun _ => .pure)

theorem fits_attribute? : Fits attribute? ts := by
  refine .look_bind ?_
  split
  · exact Fits.skip.bind fun _ _ _ => fits_arguments.bind fun _ _ _ => .pure
  · exact .pure

theorem cause_of_defaultEnd {start : Option Nat} {pending : Nat} {e : ReadError}
    (h : defaultEnd start pending ts = .error e) : e = ⟨start, .unterminatedDefault⟩ := by
  fun_induction defaultEnd start pending ts with
  | case1 | case5 =>
    cases h
    rfl
  | case4 => cases h
  | case2 _ _ _ _ ih | case3 _ _ _ _ _ ih | case6 _ _ _ _ _ _ _ ih => exact ih h

theorem fits_trailer : Fits trailer ts := by
  intro e h
  simp only [trailer] at h
  generalize (if startsWith '.' ts && startsWith '.' (ts.drop 1) &&
    startsWith '.' (ts.drop 2) then ts.drop 3 else ts) = mid at h
  split at h
  · split at h
    · cases h
    · next e' hend =>
      cases h
      rw [cause_of_defaultEnd hend]
      simp
  · cases h

theorem fits_specifier? : Fits specifier? ts := by
  refine fits_attribute?.bind fun found rest _ => ?_
  cases found with
  | some name => exact .pure
  | none =>
    refine .look_bind (.ite (fun _ => Fits.skip.bind fun _ _ _ => .pure) fun _ => .look_bind ?_)
    cases word? rest with
    | some word =>
      exact .look_bind (.ite (fun _ => Fits.skip.bind fun _ _ _ => .pure) fun _ => .pure)
    | none => exact .pure

theorem fits_effect? : Fits effect? ts := by
  refine .look_bind ?_
  split
  · exact Fits.skip.bind fun _ _ _ => .pure
  · exact Fits.skip.bind fun _ _ _ => fits_arguments.bind fun _ _ _ => .pure
  · exact .pure

theorem fits_effects : Fits effects ts :=
  (Fits.many fun _ => fits_effect?).bind fun _ _ _ => .pure

theorem fits_optionalMark? : Fits optionalMark? ts :=
  .look_bind (.ite (fun _ => Fits.skip.bind fun _ _ _ => .pure) fun _ =>
    .look_bind (.ite (fun _ => Fits.skip.bind fun _ _ _ => .pure) fun _ => .pure))

theorem fits_memberName? : Fits memberName? ts := by
  refine .look_bind ?_
  split
  · exact Fits.skip.bind fun _ _ _ => .pure
  · exact .pure

end tokens

/-! ## Types -/

/-- On tokens that the bound covers the parser does not fail for want of depth. -/
def Covers (n rank : Nat) (p : TokenParser α) : Prop :=
  ∀ ts, 16 * ts.length + rank ≤ n → Fits p ts

/-- The readers of types at bound `n` fit where it covers the tokens. -/
structure TypeReadersFit (n : Nat) : Prop where
  typeExpr : Covers n 5 (typeExpr n)
  composition : Covers n 4 (composition n)
  conjuncts : Covers n 3 (conjuncts n)
  suffixed : Covers n 2 (suffixed n)
  suffixes : ∀ position base, Covers n 1 (suffixes n position base)
  primary : Covers n 1 (primary n)
  parenthesized : ∀ position, Covers n 7 (parenthesized n position)
  bracketed : ∀ position, Covers n 6 (bracketed n position)
  genericArguments : Covers n 7 (genericArguments n)
  types : Covers n 6 (types n)
  elements : Covers n 6 (elements n)

namespace TypeReadersFit

variable {n : Nat} (h : TypeReadersFit n)
include h

theorem succ_typeExpr : Covers (n + 1) 5 (TokenParser.typeExpr (n + 1)) := by
  intro ts hts
  refine .look_bind ((Fits.many fun _ => fits_specifier?).bind fun specifiers rest hmany => ?_)
  have := (splits_many advancesIfFound_specifier?.splits).length_le hmany
  exact (h.composition rest (by omega)).bind fun _ _ _ => .pure

theorem succ_composition : Covers (n + 1) 4 (TokenParser.composition (n + 1)) := by
  intro ts hts
  refine .look_bind ((h.suffixed ts (by omega)).bind fun first rest hfirst => ?_)
  have := (typeReadersAdvance n).suffixed.length_lt hfirst
  refine (h.conjuncts rest (by omega)).bind fun others _ _ => ?_
  cases others <;> exact .pure

theorem succ_conjuncts : Covers (n + 1) 3 (TokenParser.conjuncts (n + 1)) := by
  intro ts hts
  refine (fits_eats '&').bind fun joined rest heat => .ite (fun _ => ?_) fun _ => .pure
  have := (takes_eats '&').splits.length_le heat
  refine (h.suffixed rest (by omega)).bind fun part rest hpart => ?_
  have := (typeReadersAdvance n).suffixed.length_lt hpart
  exact (h.conjuncts rest (by omega)).bind fun _ _ _ => .pure

theorem succ_suffixed : Covers (n + 1) 2 (TokenParser.suffixed (n + 1)) := by
  intro ts hts
  refine .look_bind ((h.primary ts (by omega)).bind fun base rest hbase => ?_)
  have := (typeReadersAdvance n).primary.length_lt hbase
  exact h.suffixes _ base rest (by omega)

theorem succ_suffixes (position : Nat) (base : TypeExpr) :
    Covers (n + 1) 1 (TokenParser.suffixes (n + 1) position base) := by
  intro ts hts
  refine fits_optionalMark?.bind fun mark rest hmark => ?_
  cases mark with
  | some mark =>
    have := advancesIfFound_optionalMark?.length_lt hmark
    exact h.suffixes position _ rest (by omega)
  | none =>
    have := advancesIfFound_optionalMark?.splits.length_le hmark
    refine fits_memberName?.bind fun name left hname => ?_
    cases name with
    | some name =>
      have := advancesIfFound_memberName?.length_lt hname
      refine (h.genericArguments left (by omega)).bind fun arguments more hmore => ?_
      have := (typeReadersAdvance n).genericArguments.length_le hmore
      exact h.suffixes position _ more (by omega)
    | none => exact .pure

theorem succ_primary : Covers (n + 1) 1 (TokenParser.primary (n + 1)) := by
  intro ts hts
  refine .look_bind (fits_name?.bind fun name rest hname => ?_)
  cases name with
  | some name =>
    have := advancesIfFound_name?.length_lt hname
    exact (h.genericArguments rest (by omega)).bind fun _ _ _ => .pure
  | none =>
    have := advancesIfFound_name?.splits.length_le hname
    refine (fits_eats '(').bind fun paren left hparen => .ite (fun hfound => ?_) fun _ => ?_
    · have := length_lt_of_eats (hfound ▸ hparen)
      exact h.parenthesized _ left (by omega)
    · have := (takes_eats '(').splits.length_le hparen
      refine (fits_eats '[').bind fun bracket more hbracket =>
        .ite (fun hfound => ?_) fun _ => .fail nofun
      have := length_lt_of_eats (hfound ▸ hbracket)
      exact h.bracketed _ more (by omega)

theorem succ_parenthesized (position : Nat) :
    Covers (n + 1) 7 (TokenParser.parenthesized (n + 1) position) := by
  intro ts hts
  refine (h.elements ts (by omega)).bind fun elements rest helements => ?_
  have := (typeReadersAdvance n).elements.length_le helements
  refine .look_bind (.ite (fun _ => ?_) fun _ => .pure)
  refine fits_effects.bind fun effects left heffects => ?_
  have := splits_effects.length_le heffects
  refine fits_arrow.bind fun hasArrow more harrow => .ite (fun _ => ?_) fun _ => .fail nofun
  have := splits_arrow.length_le harrow
  exact (h.typeExpr more (by omega)).bind fun _ _ _ => .pure

theorem succ_bracketed (position : Nat) :
    Covers (n + 1) 6 (TokenParser.bracketed (n + 1) position) := by
  intro ts hts
  refine (h.typeExpr ts (by omega)).bind fun first rest hfirst => ?_
  have := (typeReadersAdvance n).typeExpr.length_lt hfirst
  refine (Fits.optionally (fits_eats ':') fun found left hcolon => ?_).bind fun value _ _ => ?_
  · have := (takes_eats ':').splits.length_le hcolon
    exact h.typeExpr left (by omega)
  · refine (fits_expect ']').bind fun _ _ _ => ?_
    cases value <;> exact .pure

theorem succ_genericArguments : Covers (n + 1) 7 (TokenParser.genericArguments (n + 1)) := by
  intro ts hts
  refine .look_bind (.ite (fun _ => ?_) fun _ => .pure)
  refine Fits.skip.bind fun _ rest hskip => ?_
  have := (splits_skip 1).length_le hskip
  exact (h.types rest (by omega)).bind fun _ _ _ => (fits_expect '>').bind fun _ _ _ => .pure

theorem succ_types : Covers (n + 1) 6 (TokenParser.types (n + 1)) := by
  intro ts hts
  refine (h.typeExpr ts (by omega)).bind fun first rest hfirst => ?_
  have := (typeReadersAdvance n).typeExpr.length_lt hfirst
  refine (fits_eats ',').bind fun goesOn left hcomma => .ite (fun _ => ?_) fun _ => .pure
  have := (takes_eats ',').splits.length_le hcomma
  exact (h.types left (by omega)).bind fun _ _ _ => .pure

theorem succ_elements : Covers (n + 1) 6 (TokenParser.elements (n + 1)) := by
  intro ts hts
  refine (fits_eats ')').bind fun closed rest hclose => .ite (fun _ => .pure) fun _ => ?_
  have := (takes_eats ')').splits.length_le hclose
  refine fits_label?.bind fun label rest hlabel => ?_
  have := splits_label?.length_le hlabel
  refine (h.typeExpr rest (by omega)).bind fun type rest htype => ?_
  have := (typeReadersAdvance n).typeExpr.length_lt htype
  refine fits_trailer.bind fun _ rest htrailer => ?_
  have := splits_trailer.length_le htrailer
  refine (fits_eats ',').bind fun goesOn rest hcomma => .ite (fun _ => ?_) fun _ => ?_
  · have := (takes_eats ',').splits.length_le hcomma
    exact (h.elements rest (by omega)).bind fun _ _ _ => .pure
  · exact (fits_eats ')').bind fun _ _ _ => .ite (fun _ => .pure) fun _ => .fail nofun

theorem succ : TypeReadersFit (n + 1) where
  typeExpr := h.succ_typeExpr
  composition := h.succ_composition
  conjuncts := h.succ_conjuncts
  suffixed := h.succ_suffixed
  suffixes := h.succ_suffixes
  primary := h.succ_primary
  parenthesized := h.succ_parenthesized
  bracketed := h.succ_bracketed
  genericArguments := h.succ_genericArguments
  types := h.succ_types
  elements := h.succ_elements

end TypeReadersFit

/-- **Types are never nested too deeply** for a bound that covers the tokens. -/
theorem typeReadersFit (n : Nat) : TypeReadersFit n := by
  induction n with
  | zero =>
    -- bound 0 covers nothing
    constructor <;> intros <;> intro ts hts <;> omega
  | succ n ih => exact ih.succ

/-! ## Items -/

section items

variable {ts : List Placed}

theorem fits_modifier? : Fits modifier? ts := by
  refine fits_attribute?.bind fun found rest _ => ?_
  cases found with
  | some name => exact .pure
  | none =>
    refine .look_bind ?_
    cases word? rest with
    | none => exact .pure
    | some word =>
      refine .ite (fun _ => ?_) fun _ => .look_bind (.ite (fun _ => ?_) fun _ => .pure)
      · exact Fits.skip.bind fun _ _ _ => fits_arguments.bind fun _ _ _ => .pure
      · exact Fits.skip.bind fun _ _ _ => .pure

theorem fits_binder? : Fits binder? ts := by
  refine fits_name?.bind fun found rest _ => ?_
  cases found with
  | some name => exact .pure
  | none =>
    exact .look_bind (.ite (fun _ => (fits_balanced _ _).bind fun _ _ _ => .pure) fun _ => .pure)

theorem fits_declaredColon : Fits declaredColon ts :=
  .look_bind (.ite (fun _ => Fits.skip.bind fun _ _ _ => .pure) fun _ => .pure)

theorem fits_operator : Fits operator ts := by
  intro e h
  cases h

theorem fits_functionName (keyword : String) : Fits (functionName keyword) ts := by
  refine .ite (fun _ => fits_name?.bind fun name rest _ => ?_) fun _ =>
    fits_optionalMark?.bind fun _ _ _ => .pure
  cases name with
  | some name => exact .pure
  | none => exact fits_operator

theorem fits_nominalName : Fits nominalName ts := by
  intro e h
  cases h

theorem fits_parameterNames : Fits parameterNames ts := by
  refine (Fits.many fun _ => fits_name?).bind fun names _ _ => ?_
  cases names with
  | nil => exact .fail nofun
  | cons name names => exact .pure

theorem fits_relation : Fits relation ts :=
  .look_bind (.ite (fun _ => Fits.skip.bind fun _ _ _ => .pure) fun _ =>
    (fits_expect ':').bind fun _ _ _ => .pure)

theorem fits_castOperator (operator : CastOperator) : Fits (castOperator operator) ts := by
  cases operator with
  | cast =>
    refine fits_optionalMark?.bind fun mark _ _ => ?_
    rcases mark with _ | _ | _ <;> exact .pure
  | optionalCast | forcedCast | test => exact .pure

/-- What stands in for a failure does not fail. -/
theorem fits_orSkip (step : TokenParser (Option (List Item))) : Fits (orSkip step) ts := by
  intro e h
  simp only [orSkip] at h
  split at h <;> cases h

end items

theorem covers_typeExpr (n : Nat) : Covers n 5 (typeExpr n) := (typeReadersFit n).typeExpr

theorem covers_bindings (n position : Nat) : Covers n 1 (bindings n position) := by
  induction n with
  | zero => intro ts hts; omega
  | succ n ih =>
    intro ts hts
    refine fits_binder?.bind fun binder rest hbinder => ?_
    cases binder with
    | none => exact .pure
    | some binder =>
      have := advancesIfFound_binder?.length_lt hbinder
      refine (Fits.optionally fits_declaredColon fun found left hcolon => ?_).bind
        fun declared left hdeclared => ?_
      · have := splits_declaredColon.length_le hcolon
        exact covers_typeExpr n left (by omega)
      · have := (splits_optionally splits_declaredColon
          (typeReadersAdvance n).typeExpr.splits).length_le hdeclared
        refine .look_bind (.ite (fun _ => ?_) fun _ => .pure)
        refine Fits.skip.bind fun _ more hskip => ?_
        have := (splits_skip 1).length_le hskip
        exact (ih more (by omega)).bind fun _ _ _ => .pure

theorem covers_parameters (n : Nat) : Covers n 1 (parameters n) := by
  induction n with
  | zero => intro ts hts; omega
  | succ n ih =>
    intro ts hts
    refine (fits_eats ')').bind fun closed rest hclose => .ite (fun _ => .pure) fun _ => ?_
    have := (takes_eats ')').splits.length_le hclose
    refine (Fits.many fun _ => fits_attribute?).bind fun _ rest hattributes => ?_
    have := (splits_many advancesIfFound_attribute?.splits).length_le hattributes
    refine fits_parameterNames.bind fun names rest hnames => ?_
    have := splits_parameterNames.length_le hnames
    refine (fits_expect ':').bind fun _ rest hcolon => ?_
    have := (advances_expect ':').length_lt hcolon
    refine (covers_typeExpr n rest (by omega)).bind fun type rest htype => ?_
    have := (typeReadersAdvance n).typeExpr.length_lt htype
    refine fits_trailer.bind fun _ rest htrailer => ?_
    have := splits_trailer.length_le htrailer
    refine (fits_eats ',').bind fun goesOn rest hcomma => .ite (fun _ => ?_) fun _ => ?_
    · have := (takes_eats ',').splits.length_le hcomma
      exact (ih rest (by omega)).bind fun _ _ _ => .pure
    · exact (fits_eats ')').bind fun _ _ _ => .ite (fun _ => .pure) fun _ => .fail nofun

theorem covers_requirements (n : Nat) : Covers n 6 (requirements n) := by
  induction n with
  | zero => intro ts hts; omega
  | succ n ih =>
    intro ts hts
    refine (covers_typeExpr n ts (by omega)).bind fun subject rest hsubject => ?_
    have := (typeReadersAdvance n).typeExpr.length_lt hsubject
    refine fits_relation.bind fun sameType rest hrelation => ?_
    have := advances_relation.length_lt hrelation
    refine (covers_typeExpr n rest (by omega)).bind fun constraint rest hconstraint => ?_
    have := (typeReadersAdvance n).typeExpr.length_lt hconstraint
    refine (fits_eats ',').bind fun goesOn rest hcomma => .ite (fun _ => ?_) fun _ => .pure
    have := (takes_eats ',').splits.length_le hcomma
    exact (ih rest (by omega)).bind fun _ _ _ => .pure

theorem covers_whereClause (n : Nat) : Covers n 6 (whereClause n) := by
  intro ts hts
  refine .look_bind (.ite (fun _ => ?_) fun _ => .pure)
  refine Fits.skip.bind fun _ rest hskip => ?_
  have := (splits_skip 1).length_le hskip
  exact covers_requirements n rest (by omega)

theorem covers_inherited (n : Nat) : Covers n 6 (inherited n) := by
  intro ts hts
  refine (fits_eats ':').bind fun opens rest heat => .ite (fun _ => ?_) fun _ => .pure
  have := (takes_eats ':').splits.length_le heat
  exact (typeReadersFit n).types rest (by omega)

theorem covers_typeAlias (n position : Nat) : Covers n 5 (typeAlias n position) := by
  intro ts hts
  refine Fits.skip.bind fun _ rest hskip => ?_
  have := (splits_skip 1).length_le hskip
  refine fits_name?.bind fun name rest hname => ?_
  have := advancesIfFound_name?.splits.length_le hname
  cases name with
  | none => exact .pure
  | some name =>
    refine fits_angles.bind fun _ rest hangles => ?_
    have := splits_angles.length_le hangles
    refine (fits_eats '=').bind fun assigned rest heat => .ite (fun _ => ?_) fun _ => .pure
    have := (takes_eats '=').splits.length_le heat
    exact (covers_typeExpr n rest (by omega)).bind fun _ _ _ => .pure

theorem covers_castExpr (n : Nat) (operator : CastOperator) :
    Covers n 5 (castExpr n operator) := by
  intro ts hts
  refine .look_bind (Fits.skip.bind fun _ rest hskip => ?_)
  have := (splits_skip 1).length_le hskip
  refine (fits_castOperator operator).bind fun operator rest hoperator => ?_
  have := (splits_castOperator _).length_le hoperator
  exact (covers_typeExpr n rest (by omega)).bind fun _ _ _ => .pure

/-- The readers of items at bound `n` fit where it covers the tokens. -/
structure ItemReadersFit (n : Nat) : Prop where
  items : ∀ closing done, Covers n 11 (items n closing done)
  block : Covers n 1 (block n)
  item : Covers n 10 (item n)
  declaration : Covers n 9 (declaration n)
  function : ∀ position keyword, Covers n 8 (function n position keyword)
  nominal : ∀ position kind, Covers n 8 (nominal n position kind)

namespace ItemReadersFit

variable {n : Nat} (h : ItemReadersFit n)
include h

theorem succ_items (closing : Bool) (done : List Item) :
    Covers (n + 1) 11 (TokenParser.items (n + 1) closing done) := by
  intro ts hts
  cases ts with
  | nil => exact .look_bind (.ite (fun _ => .fail nofun) fun _ => .pure)
  | cons t ts =>
    refine .look_bind (.ite (fun _ => .ite (fun _ => ?_) fun _ => .fail nofun) fun _ =>
      .ite (fun _ => ?_) fun _ => ?_)
    · exact Fits.skip.bind fun _ _ _ => .pure
    · refine (h.block (t :: ts) (by omega)).bind fun block rest hblock => ?_
      have := (itemReadersAdvance n).block.length_lt hblock
      exact h.items closing _ rest (by omega)
    · refine (fits_orSkip (TokenParser.item n)).bind fun found rest hfound => ?_
      have := length_lt_of_orSkip (itemReadersAdvance n).item hfound
      exact h.items closing _ rest (by omega)

theorem succ_block : Covers (n + 1) 1 (TokenParser.block (n + 1)) := by
  intro ts hts
  refine (fits_expect '{').bind fun position rest hopen => ?_
  have := (advances_expect '{').length_lt hopen
  exact (h.items true [] rest (by omega)).bind fun _ _ _ => .pure

theorem succ_item : Covers (n + 1) 10 (TokenParser.item (n + 1)) := by
  intro ts hts
  refine .look_bind ?_
  cases castWord? ts with
  | some operator => exact (covers_castExpr n operator ts (by omega)).map
  | none => exact h.declaration ts (by omega)

theorem succ_declaration : Covers (n + 1) 9 (TokenParser.declaration (n + 1)) := by
  intro ts hts
  refine .look_bind (.ite (fun _ => .pure) fun _ => .look_bind ?_)
  refine (Fits.many fun _ => fits_modifier?).bind fun _ rest hmodifiers => ?_
  have := (splits_many advancesIfFound_modifier?.splits).length_le hmodifiers
  refine .look_bind (.ite (fun _ => ?_) fun _ => .ite (fun _ => ?_) fun _ =>
    .ite (fun _ => ?_) fun _ => ?_)
  · refine Fits.skip.bind fun _ rest hskip => ?_
    have := (splits_skip 1).length_le hskip
    refine (covers_bindings n _ rest (by omega)).bind fun found _ _ => ?_
    cases found <;> exact .pure
  · exact h.function _ _ rest (by omega)
  · exact covers_typeAlias n _ rest (by omega)
  · cases NominalKind.ofKeyword? ((word? rest).getD "") with
    | some kind => exact h.nominal _ kind rest (by omega)
    | none => exact .pure

theorem succ_function (position : Nat) (keyword : String) :
    Covers (n + 1) 8 (TokenParser.function (n + 1) position keyword) := by
  intro ts hts
  refine Fits.skip.bind fun _ rest hskip => ?_
  have := (splits_skip 1).length_le hskip
  refine (fits_functionName keyword).bind fun name rest hname => .ite (fun _ => .pure) fun _ => ?_
  have := (splits_functionName keyword).length_le hname
  refine fits_angles.bind fun _ rest hangles => ?_
  have := splits_angles.length_le hangles
  refine (fits_eats '(').bind fun opened rest hopen => .ite (fun _ => ?_) fun _ => .pure
  have := (takes_eats '(').splits.length_le hopen
  refine (covers_parameters n rest (by omega)).bind fun parameters rest hparameters => ?_
  have := (splits_parameters n).length_le hparameters
  refine fits_effects.bind fun effects rest heffects => ?_
  have := splits_effects.length_le heffects
  refine (Fits.optionally fits_arrow fun found rest harrow => ?_).bind fun result rest hresult => ?_
  · have := splits_arrow.length_le harrow
    exact covers_typeExpr n rest (by omega)
  have := (splits_optionally splits_arrow (typeReadersAdvance n).typeExpr.splits).length_le hresult
  refine (covers_whereClause n rest (by omega)).bind fun requirements rest hwhere => ?_
  have := (splits_whereClause n).length_le hwhere
  refine (Fits.optionally .look fun found rest hlook => ?_).bind fun _ _ _ => .pure
  cases hlook
  exact h.block rest (by omega)

theorem succ_nominal (position : Nat) (kind : NominalKind) :
    Covers (n + 1) 8 (TokenParser.nominal (n + 1) position kind) := by
  intro ts hts
  refine Fits.skip.bind fun _ rest hskip => ?_
  have := (splits_skip 1).length_le hskip
  refine fits_nominalName.bind fun name rest hname => .ite (fun _ => .pure) fun _ => ?_
  have := splits_nominalName.length_le hname
  refine fits_angles.bind fun _ rest hangles => ?_
  have := splits_angles.length_le hangles
  refine (covers_inherited n rest (by omega)).bind fun inherits rest hinherits => ?_
  have := (splits_inherited n).length_le hinherits
  refine (covers_whereClause n rest (by omega)).bind fun requirements rest hwhere => ?_
  have := (splits_whereClause n).length_le hwhere
  refine .look_bind (.ite (fun _ => ?_) fun _ => .pure)
  exact (h.block rest (by omega)).bind fun _ _ _ => .pure

theorem succ : ItemReadersFit (n + 1) where
  items := h.succ_items
  block := h.succ_block
  item := h.succ_item
  declaration := h.succ_declaration
  function := h.succ_function
  nominal := h.succ_nominal

end ItemReadersFit

/-- **Items are never nested too deeply** for a bound that covers the tokens. -/
theorem itemReadersFit (n : Nat) : ItemReadersFit n := by
  induction n with
  | zero => constructor <;> intros <;> intro ts hts <;> omega
  | succ n ih => exact ih.succ

end TokenParser

end SwiftTuples
