import SwiftTuples.Proofs.Parsing.Collecting
import SwiftTuples.Proofs.Parsing.Depth
import SwiftTuples.Proofs.Parsing.Stopping
/-!
# Progress

A loop over items gets to its end whatever the tokens are. Every reader ends between the place where
it began and the end of the tokens, whether it succeeds or fails (`ReadersStay`). A turn of the loop
that goes on has passed over a token, and one whose step failed or found nothing has passed over
just that token and left the items as they were. So a loop takes no more turns than there are tokens
(`turns_le`) and ends with a turn that does not go on (`exists_turns`); the bounds that stand for
the depth of calls are never what ends it (`NeverRunsOut`).
-/

namespace SwiftTuples

/-- The cursor after the first `k` of some tokens. -/
def Cursor.ofTokens (tokens : List Token) (k : Nat) : Cursor :=
  ⟨k, (Placed.ofTokens tokens).drop k⟩

/-- The cursor stands among the tokens, after the first `least` of them or later. -/
def Cursor.Among (tokens : List Token) (least : Nat) (c : Cursor) : Prop :=
  ∃ k, least ≤ k ∧ k ≤ tokens.length ∧ c = .ofTokens tokens k

theorem Cursor.Within.among {tokens : List Token} {k : Nat} {c : Cursor} (hk : k ≤ tokens.length)
    (h : (Cursor.ofTokens tokens k).Within c) : c.Among tokens k := by
  obtain ⟨count, hcount, rfl⟩ := h
  simp only [ofTokens, List.length_drop, Placed.ofTokens, Placed.length_following] at hcount
  refine ⟨k + count, by omega, by omega, ?_⟩
  simp [ofTokens, advance]

/-- Fewer tokens ahead are more tokens behind. -/
theorem Cursor.Within.passed_lt {c c' : Cursor} (h : c.Within c')
    (hlt : c'.ahead.length < c.ahead.length) : c.passed < c'.passed := by
  have := h.passed_add
  omega

namespace Keeper

variable {α : Type}

/-! ## Readers stay among the tokens -/

/-- A reader ends no earlier than it begins and no later than the tokens end. -/
def Stays (q : Keeper Cursor α) : Prop :=
  ∀ (tokens : List Token) (k : Nat), k ≤ tokens.length →
    (q (.ofTokens tokens k)).2.Among tokens k

/-- A reader of items does so whatever has been found before. -/
def StaysBeside (q : Keeper Desk α) : Prop :=
  ∀ (tokens : List Token) (k : Nat) (found : List Item), k ≤ tokens.length →
    (q ⟨.ofTokens tokens k, found⟩).2.cursor.Among tokens k

/-- A reader of items does so where a token is at hand, which it takes for its keyword. -/
def StaysFromKeyword (q : Keeper Desk α) : Prop :=
  ∀ (tokens : List Token) (k : Nat) (found : List Item), k < tokens.length →
    (q ⟨.ofTokens tokens k, found⟩).2.cursor.Among tokens k

theorem Mirrors.stays {q : Keeper Cursor α} {p : TokenParser α} (h : Mirrors q p) : Stays q :=
  fun _ _ hk => (h _).within.among hk

theorem staysBeside {q : Keeper Desk α} (h : ∀ d : Desk, d.cursor.Within (q d).2.cursor) :
    StaysBeside q := fun tokens k found hk => (h ⟨.ofTokens tokens k, found⟩).among hk

theorem staysFromKeyword {q : Keeper Desk α}
    (h : ∀ d : Desk, d.cursor.ahead ≠ [] → d.cursor.Within (q d).2.cursor) :
    StaysFromKeyword q := by
  intro tokens k found hk
  refine (h ⟨.ofTokens tokens k, found⟩ fun hnil => ?_).among (Nat.le_of_lt hk)
  have hlen := congrArg List.length hnil
  simp only [Cursor.ofTokens, List.length_drop, Placed.ofTokens, Placed.length_following,
    List.length_nil] at hlen
  omega

/-- The readers stay among the tokens, at bound `n`. -/
structure ReadersStay (n : Nat) : Prop where
  eat : ∀ c, Stays (eat c)
  expect : ∀ c, Stays (expect c)
  name? : Stays name?
  balanced : ∀ opening closing, Stays (balanced opening closing)
  arguments : Stays arguments
  angles : Stays angles
  attribute? : Stays attribute?
  label? : Stays label?
  dots : Stays dots
  defaultValue : Stays defaultValue
  trailer : Stays trailer
  specifiers : Stays (many specifier?)
  effects : Stays effects
  arrow : Stays arrow
  optionalMark? : Stays optionalMark?
  memberName? : Stays memberName?
  typeExpr : Stays (typeExpr n)
  composition : Stays (composition n)
  conjuncts : Stays (conjuncts n)
  suffixed : Stays (suffixed n)
  suffixes : ∀ position base, Stays (suffixes n position base)
  primary : Stays (primary n)
  parenthesized : ∀ position, Stays (parenthesized n position)
  bracketed : ∀ position, Stays (bracketed n position)
  genericArguments : Stays (genericArguments n)
  types : Stays (types n)
  elements : Stays (elements n)
  modifiers : Stays (many modifier?)
  binder? : Stays binder?
  declaredColon : Stays declaredColon
  operator : Stays operator
  functionName : ∀ keyword, Stays (functionName keyword)
  parameterNames : Stays parameterNames
  parameters : Stays (parameters n)
  relation : Stays relation
  requirements : Stays (requirements n)
  whereClause : Stays (whereClause n)
  nominalName : Stays nominalName
  inherited : Stays (inherited n)
  castOperator : ∀ operator, Stays (castOperator operator)
  bindings : ∀ position found, StaysBeside (bindings n position found)
  variableDeclaration : ∀ position, StaysFromKeyword (variableDeclaration n position)
  typeAlias : ∀ position, StaysFromKeyword (typeAlias n position)
  castExpr : ∀ operator, StaysBeside (castExpr n operator)
  function : ∀ position keyword, StaysBeside (function n position keyword)
  nominal : ∀ position kind, StaysBeside (nominal n position kind)
  declaration : StaysBeside (declaration n)
  item : StaysBeside (item n)
  block : Stays (block n)
  loop : ∀ closing, StaysBeside (loop n closing)

theorem readersStay (n : Nat) : ReadersStay n where
  eat c := (mirrors_eat c).stays
  expect c := (mirrors_expect c).stays
  name? := mirrors_name?.stays
  balanced opening closing := (mirrors_balanced opening closing).stays
  arguments := mirrors_arguments.stays
  angles := mirrors_angles.stays
  attribute? := mirrors_attribute?.stays
  label? := mirrors_label?.stays
  dots := mirrors_dots.stays
  defaultValue := mirrors_defaultValue.stays
  trailer := mirrors_trailer.stays
  specifiers := (mirrors_many mirrors_specifier?).stays
  effects := mirrors_effects.stays
  arrow := mirrors_arrow.stays
  optionalMark? := mirrors_optionalMark?.stays
  memberName? := mirrors_memberName?.stays
  typeExpr := (typeReadersMirror n).typeExpr.stays
  composition := (typeReadersMirror n).composition.stays
  conjuncts := (typeReadersMirror n).conjuncts.stays
  suffixed := (typeReadersMirror n).suffixed.stays
  suffixes position base := ((typeReadersMirror n).suffixes position base).stays
  primary := (typeReadersMirror n).primary.stays
  parenthesized position := ((typeReadersMirror n).parenthesized position).stays
  bracketed position := ((typeReadersMirror n).bracketed position).stays
  genericArguments := (typeReadersMirror n).genericArguments.stays
  types := (typeReadersMirror n).types.stays
  elements := (typeReadersMirror n).elements.stays
  modifiers := (mirrors_many mirrors_modifier?).stays
  binder? := mirrors_binder?.stays
  declaredColon := mirrors_declaredColon.stays
  operator := mirrors_operator.stays
  functionName keyword := (mirrors_functionName keyword).stays
  parameterNames := mirrors_parameterNames.stays
  parameters := (mirrors_parameters n).stays
  relation := mirrors_relation.stays
  requirements := (mirrors_requirements n).stays
  whereClause := (mirrors_whereClause n).stays
  nominalName := mirrors_nominalName.stays
  inherited := (mirrors_inherited n).stays
  castOperator operator := (mirrors_castOperator operator).stays
  bindings position found := staysBeside fun d => (pushesAt_bindings n position found d).within
  variableDeclaration position :=
    staysFromKeyword fun _ h => (pushesAt_variableDeclaration n position h).within
  typeAlias position := staysFromKeyword fun _ h => (pushesAt_typeAlias n position h).within
  castExpr operator := staysBeside fun d => (pushesAt_castExpr n operator d).within
  function position keyword :=
    staysBeside fun d => ((itemReadersMirror n).function position keyword d).within
  nominal position kind :=
    staysBeside fun d => ((itemReadersMirror n).nominal position kind d).within
  declaration := staysBeside fun d => ((itemReadersMirror n).declaration d).within
  item := staysBeside fun d => ((itemReadersMirror n).item d).within
  block := (itemReadersMirror n).block.stays
  loop closing := staysBeside fun d => ((itemReadersMirror n).loop closing d).within

/-! ## Declarations that are none -/

/-- **Where no declaration is found the desk is as it was.** -/
theorem declaration_of_not_found {n : Nat} {d : Desk} (h : (declaration n d).1 = .ok false) :
    (declaration n d).2 = d := by
  have hitems := ((itemReadersMirror n).declaration d).items_eq h
  cases n with
  | zero => cases h
  | succ n =>
    have hcursor : (declaration (n + 1) d).2.cursor = d.cursor := cursor_orReturn h
    rcases hread : declaration (n + 1) d with ⟨r, c, found⟩
    rw [hread] at hitems hcursor
    cases hitems
    cases hcursor
    rfl

/-! ## Turns -/

section turns

variable {n : Nat} {closing : Bool} {d d' : Desk}

/-- A turn whose step fails or finds nothing passes over a token and leaves the items. -/
theorem turn_of_not {t : Placed} (ht : d.cursor.ahead.head? = some t) (hopen : ¬ t.is '{')
    (hclose : ¬ t.is '}') (hnot : (item n d).1 ≠ .ok true) :
    turn (block n) (item n) closing d = (.ok true, ⟨d.cursor.advance 1, d.items⟩) := by
  obtain ⟨⟨passed, _ | ⟨u, ts⟩⟩, found⟩ := d
  · cases ht
  · cases ht
    rw [turn_item hopen hclose]
    exact bind_of_ok (orAdvance_of_not ((itemReadersMirror n).item _) hnot)

/-- A turn that goes on has passed over a token. -/
theorem within_of_turn (h : turn (block n) (item n) closing d = (.ok true, d')) :
    d.cursor.Within d'.cursor ∧ d'.cursor.ahead.length < d.cursor.ahead.length := by
  obtain ⟨⟨passed, _ | ⟨t, ts⟩⟩, found⟩ := d
  · rw [turn_nil] at h
    cases closing <;> cases h
  by_cases hclose : t.is '}'
  · rw [turn_close hclose] at h
    cases closing <;> cases h
  by_cases hopen : t.is '{'
  · have hblock := (itemReadersMirror n).block ⟨passed, t :: ts⟩
    have hwithin := hblock.within
    rw [turn_open hopen] at h
    rcases hread : block n ⟨passed, t :: ts⟩ with ⟨e | b, c⟩
    · rw [bind_of_error (onCursor_apply hread)] at h
      cases h
    · rw [bind_of_ok (onCursor_apply hread)] at h
      cases h
      rw [hread] at hwithin
      exact ⟨hwithin, (TokenParser.itemReadersAdvance n).block.length_lt (hblock.answer_ok hread)⟩
  · obtain ⟨more, c, hskip, hadvance, hwithin⟩ :=
      orAdvance_spec ((itemReadersMirror n).item ⟨⟨passed, t :: ts⟩, found⟩) (List.cons_ne_nil t ts)
    rw [turn_item hopen hclose, bind_of_ok hadvance] at h
    cases h
    exact ⟨hwithin, TokenParser.length_lt_of_orSkip (TokenParser.itemReadersAdvance n).item hskip⟩

/-- **Every turn that goes on makes progress.** -/
theorem passed_lt_of_turn (h : turn (block n) (item n) closing d = (.ok true, d')) :
    d.cursor.passed < d'.cursor.passed := (within_of_turn h).1.passed_lt (within_of_turn h).2

end turns

/-- A loop comes from one desk to another in so many turns, whatever their bounds are. -/
inductive Turns (closing : Bool) : Nat → Desk → Desk → Prop
  | zero (d : Desk) : Turns closing 0 d d
  | succ {n m : Nat} {d d' d'' : Desk} (h : turn (block n) (item n) closing d = (.ok true, d'))
      (more : Turns closing m d' d'') : Turns closing (m + 1) d d''

/-- **A loop takes no more turns than there are tokens left.** -/
theorem turns_le {closing : Bool} {m : Nat} {d d' : Desk} (h : Turns closing m d d') :
    m + d.cursor.passed ≤ d'.cursor.passed ∧ m ≤ d.cursor.ahead.length := by
  induction h with
  | zero d => exact ⟨by omega, Nat.zero_le _⟩
  | succ hturn _ ih =>
    have hpassed := passed_lt_of_turn hturn
    have hahead := (within_of_turn hturn).2
    exact ⟨by omega, by omega⟩

/-- A loop that has come to the desk `d'` ends there, with the outcome of a turn that does not go
on. -/
def EndsAt (closing : Bool) (q : Keeper Desk Unit) (d d' : Desk) : Prop :=
  ∃ n, (turn (block n) (item n) closing d').1 ≠ .ok true ∧
    q d = ((turn (block n) (item n) closing d').1.map fun _ => (),
      (turn (block n) (item n) closing d').2)

/-- **A loop ends with a turn, not with its bound**, where that covers the tokens. -/
theorem exists_turns {n : Nat} (closing : Bool) {d : Desk}
    (hn : 16 * d.cursor.ahead.length + 11 ≤ n) :
    ∃ m d', Turns closing m d d' ∧ EndsAt closing (loop n closing) d d' := by
  induction n generalizing d with
  | zero => omega
  | succ n ih =>
    rcases hturn : turn (block n) (item n) closing d with ⟨e | _ | _, d'⟩
    · refine ⟨0, d, .zero d, n, by simp [hturn], ?_⟩
      rw [hturn, loop_of_fails hturn]
      rfl
    · refine ⟨0, d, .zero d, n, by simp [hturn], ?_⟩
      rw [hturn, loop_of_ends hturn]
      rfl
    · -- a token less pays for the call
      have hlt := (within_of_turn hturn).2
      obtain ⟨m, d'', hturns, hends⟩ := ih (d := d') (by omega)
      refine ⟨m + 1, d'', .succ hturn hturns, ?_⟩
      rwa [EndsAt, loop_of_goes_on hturn]

/-! ## Bounds that are no limits -/

open TokenParser (TypeReadersFit ItemReadersFit TypeReadersSettle ItemReadersSettle)

/-- More rounds than there are tokens find no more. -/
def Exhausts (step : TokenParser (Option α)) : Prop :=
  ∀ rounds ts, ts.length ≤ rounds →
    TokenParser.collect step rounds ts = TokenParser.many step ts

theorem exhausts {step : TokenParser (Option α)} (h : TokenParser.AdvancesIfFound step)
    (hnil : step [] = .ok (none, [])) : Exhausts step :=
  fun _ _ hrounds => TokenParser.collect_eq h hnil (Nat.le_refl _) hrounds

/-- The numbers that bound what is read never end it: where they cover the tokens at hand no reader
fails for want of depth, and larger ones, or more rounds, change nothing. -/
structure NeverRunsOut : Prop where
  typesFit : ∀ n, TypeReadersFit n
  itemsFit : ∀ n, ItemReadersFit n
  typesSettle : ∀ n, TypeReadersSettle n
  itemsSettle : ∀ n, ItemReadersSettle n
  names : Exhausts TokenParser.name?
  attributes : Exhausts TokenParser.attribute?
  modifiers : Exhausts TokenParser.modifier?
  specifiers : Exhausts TokenParser.specifier?
  effects : Exhausts TokenParser.effect?

theorem neverRunsOut : NeverRunsOut where
  typesFit := TokenParser.typeReadersFit
  itemsFit := TokenParser.itemReadersFit
  typesSettle := TokenParser.typeReadersSettle
  itemsSettle := TokenParser.itemReadersSettle
  names := exhausts TokenParser.advancesIfFound_name? rfl
  attributes := exhausts TokenParser.advancesIfFound_attribute? rfl
  modifiers := exhausts TokenParser.advancesIfFound_modifier? rfl
  specifiers := exhausts TokenParser.advancesIfFound_specifier? rfl
  effects := exhausts TokenParser.advancesIfFound_effect? rfl

/-- A file is never nested too deeply. -/
theorem ofTokens_fits {size : Nat} {tokens : List Token} {e : SyntaxError}
    (h : SourceFile.ofTokens size tokens = .error e) : e.cause ≠ .tooDeep := by
  have hfits : TokenParser.Fits (TokenParser.items (TokenParser.depth tokens.length) false [])
      (Placed.ofTokens tokens) := by
    refine (TokenParser.itemReadersFit _).items false [] _ ?_
    simp only [Placed.ofTokens, Placed.length_following, TokenParser.depth]
    omega
  rw [SourceFile.ofTokens] at h
  split at h
  · cases h
  · next e' hread =>
    cases h
    exact hfits e' hread

/-- **Progress.** Whatever the tokens and wherever it begins, every reader ends between its start
and the end of the tokens, whether it succeeds or fails; where it finds no declaration it leaves the
cursor and the items as they were. A turn of a loop that goes on has passed over a token, and one
whose step failed or found nothing has passed over just one and left the items. So a loop ends after
no more turns than there are tokens. The readers that run answer alike and leave the same tokens,
and the bounds of their calls, a multiple of the tokens left, never end them: no file is nested too
deeply. -/
theorem items_progress :
    (∀ n, ReadersStay n) ∧
    (∀ n d, (declaration n d).1 = .ok false → (declaration n d).2 = d) ∧
    (∀ n closing d d', turn (block n) (item n) closing d = (.ok true, d') →
      d.cursor.passed < d'.cursor.passed) ∧
    (∀ n closing d t, d.cursor.ahead.head? = some t → ¬ t.is '{' → ¬ t.is '}' →
      (item n d).1 ≠ .ok true →
        turn (block n) (item n) closing d = (.ok true, ⟨d.cursor.advance 1, d.items⟩)) ∧
    (∀ n closing d, 16 * d.cursor.ahead.length + 11 ≤ n → ∃ m d',
      m ≤ d.cursor.ahead.length ∧ Turns closing m d d' ∧ EndsAt closing (loop n closing) d d') ∧
    (∀ n, TypeReadersMirror n ∧ ItemReadersMirror n) ∧
    NeverRunsOut ∧
    ∀ size tokens e, SourceFile.ofTokens size tokens = .error e → e.cause ≠ .tooDeep := by
  refine ⟨readersStay, fun _ _ => declaration_of_not_found, fun _ _ _ _ => passed_lt_of_turn,
    fun _ _ _ _ => turn_of_not, fun n closing d hn => ?_,
    fun n => ⟨typeReadersMirror n, itemReadersMirror n⟩, neverRunsOut, fun _ _ _ => ofTokens_fits⟩
  obtain ⟨m, d', hturns, hends⟩ := exists_turns closing hn
  exact ⟨m, d', (turns_le hturns).2, hturns, hends⟩

/-- The declaration `let a, (` fails at its end, after `a` has been put on the list: the turn of the
loop is back behind `let`, and its list is empty. -/
theorem unbalanced_pattern_leaves_no_trace :
    let tokens : List Token := [⟨.ident "let", 0, 3, true⟩, ⟨.ident "a", 4, 5, false⟩,
      ⟨.punct ',', 5, 6, false⟩, ⟨.punct '(', 7, 8, false⟩]
    let d : Desk := ⟨.ofTokens tokens 0, []⟩
    let d' : Desk := ⟨.ofTokens tokens 1, []⟩
    item 12 d = (.error ⟨some 7, .unbalanced '('⟩,
      ⟨.ofTokens tokens 4, [.variable 0 (.name "a") none]⟩) ∧
    (item 12 d).2.cursor.Among tokens 0 ∧
    turn (block 12) (item 12) false d = (.ok true, d') ∧
    d.cursor.passed < d'.cursor.passed ∧
    (∃ m d'', m ≤ 4 ∧ Turns false m d d'' ∧ EndsAt false (loop 75 false) d d'') ∧
    (declaration 12 d').1 = .ok false ∧ (declaration 12 d').2 = d' ∧
    SourceFile.ofTokens 1 [⟨.punct '}', 0, 1, true⟩] = .error ⟨0, .unexpectedBrace⟩ ∧
    SyntaxCause.unexpectedBrace ≠ .tooDeep := by
  intro tokens d d'
  obtain ⟨hstays, hnone, hpassed, hnot, hends, -, -, hfits⟩ := items_progress
  have hitem : item 12 d = (.error ⟨some 7, .unbalanced '('⟩,
      ⟨.ofTokens tokens 4, [.variable 0 (.name "a") none]⟩) := rfl
  have hturn : turn (block 12) (item 12) false d = (.ok true, d') :=
    hnot 12 false d _ rfl (by decide) (by decide) (by simp [hitem])
  have hfalse : (declaration 12 d').1 = .ok false := rfl
  have hbrace : SourceFile.ofTokens 1 [⟨.punct '}', 0, 1, true⟩] =
      .error ⟨0, .unexpectedBrace⟩ := rfl
  exact ⟨hitem, (hstays 12).item tokens 0 [] (Nat.zero_le _), hturn, hpassed _ _ _ _ hturn,
    hends 75 false d (Nat.le_refl 75), hfalse, hnone _ _ hfalse, hbrace, hfits _ _ _ hbrace⟩

end Keeper

end SwiftTuples
