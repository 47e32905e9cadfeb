import SwiftTuples.Proofs.Parsing.Taking
/-!
# Readers go forward

Every reader of types and items leaves an end of the tokens at hand, and one that answers with a
type or finds an item has taken a token. For the readers that call each other this is an induction
on the bound, which all of them lower together: `TypeReadersAdvance n` and `ItemReadersAdvance n`
say it of the readers at bound `n`.
-/

namespace SwiftTuples

namespace TokenParser

/-! ## Parts of types -/

theorem labelAt_suffix {ts rest : List Placed} {label : Label}
    (h : labelAt ts = some (label, rest)) : ∃ used, used ≠ [] ∧ ts = used ++ rest := by
  unfold labelAt at h
  split at h
  · next t u more =>
    split at h
    · cases h
    · split at h
      · cases h
        exact ⟨[t, u], List.cons_ne_nil _ _, rfl⟩
      · split at h
        · next second v rest hname =>
          split at h
          · cases h
            exact ⟨[t, u, v], List.cons_ne_nil _ _, rfl⟩
          · cases h
        · cases h
  · cases h

theorem splits_label? : Splits label? := by
  intro ts found rest h
  simp only [label?] at h
  split at h <;> cases h
  · next hlabel =>
    obtain ⟨used, -, rfl⟩ := labelAt_suffix hlabel
    exact ⟨used, rfl, trivial⟩
  · exact ⟨[], rfl, trivial⟩

theorem advancesIfFound_specifier? : AdvancesIfFound specifier? := by
  intro ts
  refine (advancesIfFound_attribute? ts).bind fun found used rest _ hused => ?_
  cases found with
  | some name => exact .pure (by simpa using hused rfl)
  | none =>
    refine .look_bind (.ite (fun htilde => ?_) fun _ => .look_bind ?_)
    · have hne : rest ≠ [] := ne_nil_of_startsWith (Bool.and_eq_true_iff.1 htilde).1
      exact (TakesAt.skip_succ hne).bind fun _ more _ _ hmore => .pure (by simp [hmore])
    · split
      · next word hword =>
        refine .look_bind (.ite (fun _ => ?_) fun _ => .pure (by simp))
        exact (TakesAt.skip_succ (ne_nil_of_word? hword)).bind fun _ more _ _ hmore =>
          .pure (by simp [hmore])
      · exact .pure (by simp)

theorem advancesIfFound_effect? : AdvancesIfFound effect? := by
  refine fun ts => .look_bind ?_
  -- an effect is a word, so there is a token to take
  have hne : ∀ {effect}, (word? ts).bind Effect.ofWord? = some effect → ts ≠ [] := by
    rintro effect h rfl
    cases h
  split
  · next h =>
    exact (TakesAt.skip_succ (hne h)).bind fun _ _ _ _ hused => .pure (by simp [hused])
  · next h =>
    exact (TakesAt.skip_succ (hne h)).bind fun _ _ rest _ hused =>
      (splits_arguments rest).bind fun _ _ _ _ _ => .pure (by simp [hused])
  · exact .pure (by simp)

theorem splits_effects : Splits effects := fun ts =>
  (splits_many advancesIfFound_effect?.splits ts).bind fun _ _ _ _ _ => .pure trivial

theorem advancesIfFound_optionalMark? : AdvancesIfFound optionalMark? := by
  refine fun ts => .look_bind (.ite (fun h => ?_) fun _ =>
    .look_bind (.ite (fun h => ?_) fun _ => ?_))
  · exact (TakesAt.skip_succ (ne_nil_of_startsTouching h)).bind fun _ _ _ _ hused =>
      .pure (by simp [hused])
  · exact (TakesAt.skip_succ (ne_nil_of_startsTouching h)).bind fun _ _ _ _ hused =>
      .pure (by simp [hused])
  · exact .pure (by simp)

theorem advancesIfFound_memberName? : AdvancesIfFound memberName? := by
  refine fun ts => .look_bind ?_
  split
  · next name hname =>
    have hne : ts ≠ [] := by
      rintro rfl
      cases hname
    exact (TakesAt.skip_succ hne).bind fun _ _ _ _ hused => .pure (by simp [hused])
  · exact .pure (by simp)

/-! ## Types -/

/-- The readers of types at bound `n` go forward. -/
structure TypeReadersAdvance (n : Nat) : Prop where
  typeExpr : Advances (typeExpr n)
  composition : Advances (composition n)
  conjuncts : Splits (conjuncts n)
  suffixed : Advances (suffixed n)
  suffixes : ∀ position base, Splits (suffixes n position base)
  primary : Advances (primary n)
  parenthesized : ∀ position, Splits (parenthesized n position)
  bracketed : ∀ position, Splits (bracketed n position)
  genericArguments : Splits (genericArguments n)
  types : Advances (types n)
  elements : Splits (elements n)

namespace TypeReadersAdvance

variable {n : Nat} (h : TypeReadersAdvance n)
include h

theorem succ_typeExpr : Advances (TokenParser.typeExpr (n + 1)) := by
  intro ts
  refine .look_bind ?_
  refine (splits_many advancesIfFound_specifier?.splits ts).bind fun specifiers _ rest _ _ => ?_
  refine (h.composition rest).bind fun base used _ _ hused => ?_
  exact .pure (by simp [hused])

theorem succ_composition : Advances (TokenParser.composition (n + 1)) := by
  intro ts
  refine .look_bind ?_
  refine (h.suffixed ts).bind fun first used rest _ hused => ?_
  refine (h.conjuncts rest).bind fun others _ _ _ _ => ?_
  cases others with
  | nil => exact .pure (by simp [hused])
  | cons => exact .pure (by simp [hused])

theorem succ_conjuncts : Splits (TokenParser.conjuncts (n + 1)) := by
  intro ts
  refine (takes_eats '&' ts).bind fun joined _ rest _ _ => .ite (fun _ => ?_) fun _ => .pure trivial
  refine (h.suffixed rest).bind fun part _ rest _ _ => ?_
  exact (h.conjuncts rest).bind fun _ _ _ _ _ => .pure trivial

theorem succ_suffixed : Advances (TokenParser.suffixed (n + 1)) := by
  intro ts
  refine .look_bind ?_
  refine (h.primary ts).bind fun base used rest _ hused => ?_
  exact (h.suffixes _ base rest).mono fun _ _ _ => by simp [hused]

theorem succ_suffixes (position : Nat) (base : TypeExpr) :
    Splits (TokenParser.suffixes (n + 1) position base) := by
  intro ts
  refine (advancesIfFound_optionalMark? ts).bind fun mark _ rest _ _ => ?_
  cases mark with
  | some mark => exact h.suffixes _ _ rest
  | none =>
    refine (advancesIfFound_memberName? rest).bind fun name _ rest _ _ => ?_
    cases name with
    | some name => exact (h.genericArguments rest).bind fun _ _ rest _ _ => h.suffixes _ _ rest
    | none => exact .pure trivial

theorem succ_primary : Advances (TokenParser.primary (n + 1)) := by
  intro ts
  refine .look_bind ?_
  refine (advancesIfFound_name? ts).bind fun name used rest _ hname => ?_
  cases name with
  | some name =>
    have hne : used ≠ [] := hname rfl
    exact (h.genericArguments rest).bind fun _ _ _ _ _ => .pure (by simp [hne])
  | none =>
    refine (takes_eats '(' rest).bind fun paren _ rest _ hparen =>
      .ite (fun htrue => ?_) fun _ => ?_
    · obtain ⟨rfl, -⟩ | ⟨-, t, -, rfl⟩ := hparen
      · cases htrue
      · exact (h.parenthesized _ rest).mono fun _ _ _ => by simp
    · refine (takes_eats '[' rest).bind fun bracket _ rest _ hbracket =>
        .ite (fun htrue => ?_) fun _ => .fail
      obtain ⟨rfl, -⟩ | ⟨-, t, -, rfl⟩ := hbracket
      · cases htrue
      · exact (h.bracketed _ rest).mono fun _ _ _ => by simp

theorem succ_parenthesized (position : Nat) :
    Splits (TokenParser.parenthesized (n + 1) position) := by
  intro ts
  refine (h.elements ts).bind fun elements _ rest _ _ => ?_
  refine .look_bind (.ite (fun _ => ?_) fun _ => .pure trivial)
  refine (splits_effects rest).bind fun effects _ rest _ _ => ?_
  refine (splits_arrow rest).bind fun hasArrow _ rest _ _ => .ite (fun _ => ?_) fun _ => .fail
  exact (h.typeExpr rest).bind fun _ _ _ _ _ => .pure trivial

theorem succ_bracketed (position : Nat) :
    Splits (TokenParser.bracketed (n + 1) position) := by
  intro ts
  refine (h.typeExpr ts).bind fun first _ rest _ _ => ?_
  refine (splits_optionally (takes_eats ':').splits h.typeExpr.splits rest).bind
    fun value _ rest _ _ => ?_
  refine (advances_expect ']' rest).bind fun _ _ _ _ _ => ?_
  cases value with
  | some value => exact .pure trivial
  | none => exact .pure trivial

theorem succ_genericArguments : Splits (TokenParser.genericArguments (n + 1)) := by
  intro ts
  refine .look_bind (.ite (fun _ => ?_) fun _ => .pure trivial)
  refine (splits_skip 1 ts).bind fun _ _ rest _ _ => ?_
  refine (h.types rest).bind fun arguments _ rest _ _ => ?_
  exact (advances_expect '>' rest).bind fun _ _ _ _ _ => .pure trivial

theorem succ_types : Advances (TokenParser.types (n + 1)) := by
  intro ts
  refine (h.typeExpr ts).bind fun first used rest _ hused => ?_
  refine (takes_eats ',' rest).bind fun goesOn _ rest _ _ =>
    .ite (fun _ => ?_) fun _ => .pure (by simp [hused])
  exact (h.types rest).bind fun _ _ _ _ _ => .pure (by simp [hused])

theorem succ_elements : Splits (TokenParser.elements (n + 1)) := by
  intro ts
  refine (takes_eats ')' ts).bind fun closed _ rest _ _ => .ite (fun _ => .pure trivial) fun _ => ?_
  refine (splits_label? rest).bind fun label _ rest _ _ => ?_
  refine (h.typeExpr rest).bind fun type _ rest _ _ => ?_
  refine (splits_trailer rest).bind fun _ _ rest _ _ => ?_
  refine (takes_eats ',' rest).bind fun goesOn _ rest _ _ => .ite (fun _ => ?_) fun _ => ?_
  · exact (h.elements rest).bind fun _ _ _ _ _ => .pure trivial
  · refine (takes_eats ')' rest).bind fun closed _ _ _ _ => ?_
    exact .ite (fun _ => .pure trivial) fun _ => .fail

theorem succ : TypeReadersAdvance (n + 1) where
  typeExpr := h.succ_typeExpr
  composition := h.succ_composition
  conjuncts := h.succ_conjuncts
  suffixed := h.succ_suffixed
  suffixes := h.succ_suffixes
  primary := h.succ_primary
  parenthesized := h.succ_parenthesized
  bracketed := h.succ_bracketed
  genericArguments := h.succ_genericArguments
  types := h.succ_types
  elements := h.succ_elements

end TypeReadersAdvance

/-- **The readers of types go forward**, whatever their bound. -/
theorem typeReadersAdvance (n : Nat) : TypeReadersAdvance n := by
  induction n with
  | zero =>
    -- at bound 0 every reader fails, so there is nothing to say
    constructor <;> intros <;> exact fun _ => .fail
  | succ n ih => exact ih.succ

/-! ## Parts of items -/

theorem advancesIfFound_modifier? : AdvancesIfFound modifier? := by
  intro ts
  refine (advancesIfFound_attribute? ts).bind fun found used rest _ hused => ?_
  cases found with
  | some name => exact .pure (by simpa using hused rfl)
  | none =>
    refine .look_bind ?_
    split
    · exact .pure (by simp)
    · next word hword =>
      have hskip : TakesAt (skip 1) rest fun _ used => used ≠ [] :=
        .skip_succ (ne_nil_of_word? hword)
      refine .ite (fun _ => ?_) fun _ => .look_bind (.ite (fun _ => ?_) fun _ => .pure (by simp))
      · refine hskip.bind fun _ _ rest _ hmore => ?_
        exact (splits_arguments rest).bind fun _ _ _ _ _ => .pure (by simp [hmore])
      · exact hskip.bind fun _ _ _ _ hmore => .pure (by simp [hmore])

theorem advancesIfFound_binder? : AdvancesIfFound binder? := by
  intro ts
  refine (advancesIfFound_name? ts).bind fun found used rest _ hused => ?_
  cases found with
  | some name => exact .pure (by simpa using hused rfl)
  | none =>
    refine .look_bind (.ite (fun _ => ?_) fun _ => .pure (by simp))
    exact (advances_balanced '(' ')' rest).bind fun _ _ _ _ hmore => .pure (by simp [hmore])

theorem operatorName_append (isFirst : Bool) (ts : List Placed) :
    ∃ used, ts = used ++ (operatorName isFirst ts).2 := by
  fun_induction operatorName isFirst ts with
  | case1 => exact ⟨[], rfl⟩
  | case2 => exact ⟨[], rfl⟩
  | case3 isFirst t rest c _ _ more left hrest ih =>
    obtain ⟨used, hused⟩ := ih
    exact ⟨t :: used, congrArg (t :: ·) (by simpa [hrest] using hused)⟩
  | case4 => exact ⟨[], rfl⟩

theorem splits_operator : Splits operator := by
  intro ts name rest h
  cases h
  obtain ⟨used, hused⟩ := operatorName_append true ts
  exact ⟨used, hused, trivial⟩

theorem splits_functionName (keyword : String) : Splits (functionName keyword) := by
  intro ts
  refine .ite (fun _ => ?_) fun _ => ?_
  · refine (takes_name? ts).bind fun found _ rest _ _ => ?_
    cases found with
    | some name => exact .pure trivial
    | none => exact splits_operator rest
  · exact (advancesIfFound_optionalMark? ts).bind fun _ _ _ _ _ => .pure trivial

theorem dottedName_append (ts : List Placed) : ∃ used, ts = used ++ (dottedName ts).2 := by
  fun_induction dottedName ts with
  | case3 t part _ dot more _ parts left hmore ih =>
    obtain ⟨used, hused⟩ := ih
    exact ⟨t :: dot :: used, by simpa [hmore] using hused⟩
  | case1 => exact ⟨[], rfl⟩
  | case2 t => exact ⟨[], rfl⟩
  | case4 t => exact ⟨[t], rfl⟩
  | case5 t => exact ⟨[t], rfl⟩

theorem splits_nominalName : Splits nominalName := by
  intro ts name rest h
  cases h
  obtain ⟨used, hused⟩ := dottedName_append ts
  exact ⟨used, hused, trivial⟩

/-! ## Items -/

theorem splits_declaredColon : Splits declaredColon := by
  intro ts
  refine .look_bind (.ite (fun _ => ?_) fun _ => .pure trivial)
  exact (splits_skip 1 ts).bind fun _ _ _ _ _ => .pure trivial

/-- Bindings, if there are any, take a token. -/
theorem takes_bindings (n position : Nat) :
    Takes (bindings n position) fun found used => found ≠ [] → used ≠ [] := by
  induction n with
  | zero => exact fun _ => .fail
  | succ n ih =>
    intro ts
    refine (advancesIfFound_binder? ts).bind fun binder used rest _ hused => ?_
    cases binder with
    | none => exact .pure (by simp)
    | some binder =>
      have hne : used ≠ [] := hused rfl
      refine (splits_optionally splits_declaredColon
        (typeReadersAdvance n).typeExpr.splits rest).bind fun declared _ rest _ _ => ?_
      refine .look_bind (.ite (fun _ => ?_) fun _ => .pure (by simp [hne]))
      refine (splits_skip 1 rest).bind fun _ _ rest _ _ => ?_
      exact (ih rest).bind fun _ _ _ _ _ => .pure (by simp [hne])

theorem splits_parameterNames : Splits parameterNames := by
  intro ts
  refine (splits_many advancesIfFound_name?.splits ts).bind fun names _ _ _ _ => ?_
  cases names with
  | nil => exact .fail
  | cons => exact .pure trivial

theorem splits_parameters (n : Nat) : Splits (parameters n) := by
  induction n with
  | zero => exact fun _ => .fail
  | succ n ih =>
    intro ts
    refine (takes_eats ')' ts).bind fun closed _ rest _ _ =>
      .ite (fun _ => .pure trivial) fun _ => ?_
    refine (splits_many advancesIfFound_attribute?.splits rest).bind fun _ _ rest _ _ => ?_
    refine (splits_parameterNames rest).bind fun names _ rest _ _ => ?_
    refine (advances_expect ':' rest).bind fun _ _ rest _ _ => ?_
    refine ((typeReadersAdvance n).typeExpr rest).bind fun type _ rest _ _ => ?_
    refine (splits_trailer rest).bind fun _ _ rest _ _ => ?_
    refine (takes_eats ',' rest).bind fun goesOn _ rest _ _ => .ite (fun _ => ?_) fun _ => ?_
    · exact (ih rest).bind fun _ _ _ _ _ => .pure trivial
    · refine (takes_eats ')' rest).bind fun closed _ _ _ _ => ?_
      exact .ite (fun _ => .pure trivial) fun _ => .fail

theorem advances_relation : Advances relation := by
  intro ts
  refine .look_bind (.ite (fun h => ?_) fun _ => ?_)
  · have hne : ts ≠ [] := ne_nil_of_startsWith (Bool.and_eq_true_iff.1 h).1
    exact (TakesAt.skip_succ hne).bind fun _ _ _ _ hused => .pure (by simp [hused])
  · exact (advances_expect ':' ts).bind fun _ _ _ _ hused => .pure (by simp [hused])

theorem advances_requirements (n : Nat) : Advances (requirements n) := by
  induction n with
  | zero => exact fun _ => .fail
  | succ n ih =>
    intro ts
    refine ((typeReadersAdvance n).typeExpr ts).bind fun subject used rest _ hused => ?_
    refine (advances_relation rest).bind fun sameType _ rest _ _ => ?_
    refine ((typeReadersAdvance n).typeExpr rest).bind fun constraint _ rest _ _ => ?_
    refine (takes_eats ',' rest).bind fun goesOn _ rest _ _ =>
      .ite (fun _ => ?_) fun _ => .pure (by simp [hused])
    exact (ih rest).bind fun _ _ _ _ _ => .pure (by simp [hused])

theorem splits_whereClause (n : Nat) : Splits (whereClause n) := by
  intro ts
  refine .look_bind (.ite (fun _ => ?_) fun _ => .pure trivial)
  refine (splits_skip 1 ts).bind fun _ _ rest _ _ => ?_
  exact (advances_requirements n rest).mono fun _ _ _ => trivial

theorem splits_inherited (n : Nat) : Splits (inherited n) := by
  intro ts
  refine (takes_eats ':' ts).bind fun found _ rest _ _ => .ite (fun _ => ?_) fun _ => .pure trivial
  exact ((typeReadersAdvance n).types rest).mono fun _ _ _ => trivial

theorem advancesIfFound_typeAlias (n position : Nat) : AdvancesIfFound (typeAlias n position) := by
  intro ts
  refine (splits_skip 1 ts).bind fun _ _ rest _ _ => ?_
  refine (advancesIfFound_name? rest).bind fun name used rest _ hused => ?_
  cases name with
  | none => exact .pure (by simp)
  | some name =>
    have hne : used ≠ [] := hused rfl
    refine (splits_angles rest).bind fun _ _ rest _ _ => ?_
    refine (takes_eats '=' rest).bind fun assigned _ rest _ _ =>
      .ite (fun _ => ?_) fun _ => .pure (by simp)
    exact ((typeReadersAdvance n).typeExpr rest).bind fun _ _ _ _ _ => .pure (by simp [hne])

theorem splits_castOperator (operator : CastOperator) : Splits (castOperator operator) := by
  intro ts
  cases operator with
  | cast =>
    refine (advancesIfFound_optionalMark? ts).bind fun mark _ _ _ _ => ?_
    rcases mark with _ | _ | _ <;> exact .pure trivial
  | optionalCast | forcedCast | test => exact .pure trivial

theorem advances_castExpr (n : Nat) (operator : CastOperator) : Advances (castExpr n operator) := by
  intro ts
  refine .look_bind ?_
  refine (splits_skip 1 ts).bind fun _ _ rest _ _ => ?_
  refine (splits_castOperator operator rest).bind fun operator _ rest _ _ => ?_
  exact ((typeReadersAdvance n).typeExpr rest).bind fun _ _ _ _ hused => .pure (by simp [hused])

/-- What is taken where a reader fails or finds nothing is the token at hand. -/
theorem splits_orSkip {step : TokenParser (Option (List Item))} (h : Splits step) :
    Splits (orSkip step) := by
  intro ts found rest hp
  simp only [orSkip] at hp
  split at hp
  · next found rest hstep =>
    cases hp
    exact h ts hstep
  · cases hp
    exact ⟨ts.take 1, by cases ts <;> rfl, trivial⟩

/-- Where there is a token, recovery goes past one. -/
theorem length_lt_of_orSkip {step : TokenParser (Option (List Item))} (h : AdvancesIfFound step)
    {t : Placed} {ts rest : List Placed} {found : List Item}
    (hp : orSkip step (t :: ts) = .ok (found, rest)) : rest.length < (t :: ts).length := by
  simp only [orSkip] at hp
  split at hp
  · next found rest hstep =>
    cases hp
    exact h.length_lt hstep
  · cases hp
    exact Nat.lt_succ_self _

/-- The readers of items at bound `n` go forward. -/
structure ItemReadersAdvance (n : Nat) : Prop where
  items : ∀ closing done, Splits (items n closing done)
  block : Advances (block n)
  item : AdvancesIfFound (item n)
  declaration : AdvancesIfFound (declaration n)
  function : ∀ position keyword, AdvancesIfFound (function n position keyword)
  nominal : ∀ position kind, AdvancesIfFound (nominal n position kind)

namespace ItemReadersAdvance

variable {n : Nat} (h : ItemReadersAdvance n)
include h

theorem succ_items (closing : Bool) (done : List Item) :
    Splits (TokenParser.items (n + 1) closing done) := by
  intro ts
  refine .look_bind ?_
  split
  · exact .ite (fun _ => .fail) fun _ => .pure trivial
  · refine .ite (fun _ => .ite (fun _ => ?_) fun _ => .fail) fun _ => .ite (fun _ => ?_) fun _ => ?_
    · exact (splits_skip 1 ts).bind fun _ _ _ _ _ => .pure trivial
    · exact (h.block ts).bind fun _ _ rest _ _ => h.items _ _ rest
    · exact (splits_orSkip h.item.splits ts).bind fun _ _ rest _ _ => h.items _ _ rest

theorem succ_block : Advances (TokenParser.block (n + 1)) := by
  intro ts
  refine (advances_expect '{' ts).bind fun position used rest _ hused => ?_
  exact (h.items true [] rest).bind fun _ _ _ _ _ => .pure (by simp [hused])

theorem succ_item : AdvancesIfFound (TokenParser.item (n + 1)) := by
  intro ts
  refine .look_bind ?_
  split
  · next operator _ => exact (advances_castExpr n operator ts).map fun _ _ hused _ => hused
  · exact h.declaration ts

theorem succ_declaration : AdvancesIfFound (TokenParser.declaration (n + 1)) := by
  intro ts
  refine .look_bind (.ite (fun _ => .pure (by simp)) fun _ => .look_bind ?_)
  refine (splits_many advancesIfFound_modifier?.splits ts).bind fun _ _ rest _ _ => .look_bind ?_
  refine .ite (fun _ => ?_) fun _ => .ite (fun _ => ?_) fun _ => .ite (fun _ => ?_) fun _ => ?_
  · refine (splits_skip 1 rest).bind fun _ _ rest _ _ => ?_
    refine (takes_bindings n _ rest).bind fun found _ _ _ hused => ?_
    cases found with
    | nil => exact .pure (by simp)
    | cons => exact .pure (by simp [hused])
  · exact (h.function _ _ rest).mono fun _ _ hused hfound => by simp [hused hfound]
  · exact (advancesIfFound_typeAlias n _ rest).mono fun _ _ hused hfound => by simp [hused hfound]
  · split
    · exact (h.nominal _ _ rest).mono fun _ _ hused hfound => by simp [hused hfound]
    · exact .pure (by simp)

theorem succ_function (position : Nat) (keyword : String) :
    AdvancesIfFound (TokenParser.function (n + 1) position keyword) := by
  intro ts
  refine (splits_skip 1 ts).bind fun _ _ rest _ _ => ?_
  refine (splits_functionName keyword rest).bind fun name _ rest _ _ =>
    .ite (fun _ => .pure (by simp)) fun _ => ?_
  refine (splits_angles rest).bind fun _ _ rest _ _ => ?_
  refine (takes_eats '(' rest).bind fun opened used rest _ hused =>
    .ite (fun htrue => ?_) fun _ => .pure (by simp)
  have hne : used ≠ [] := by
    obtain ⟨rfl, -⟩ | ⟨-, t, -, rfl⟩ := hused
    · cases htrue
    · exact List.cons_ne_nil _ _
  refine (splits_parameters n rest).bind fun parameters _ rest _ _ => ?_
  refine (splits_effects rest).bind fun effects _ rest _ _ => ?_
  refine (splits_optionally splits_arrow (typeReadersAdvance n).typeExpr.splits rest).bind
    fun result _ rest _ _ => ?_
  refine (splits_whereClause n rest).bind fun requirements _ rest _ _ => ?_
  refine (splits_optionally (fun _ => .look trivial) h.block.splits rest).bind fun _ _ _ _ _ => ?_
  exact .pure (by simp [hne])

theorem succ_nominal (position : Nat) (kind : NominalKind) :
    AdvancesIfFound (TokenParser.nominal (n + 1) position kind) := by
  intro ts
  refine (splits_skip 1 ts).bind fun _ _ rest _ _ => ?_
  refine (splits_nominalName rest).bind fun name _ rest _ _ =>
    .ite (fun _ => .pure (by simp)) fun _ => ?_
  refine (splits_angles rest).bind fun _ _ rest _ _ => ?_
  refine (splits_inherited n rest).bind fun inherits _ rest _ _ => ?_
  refine (splits_whereClause n rest).bind fun requirements _ rest _ _ => ?_
  refine .look_bind (.ite (fun _ => ?_) fun _ => .pure (by simp))
  exact (h.block rest).bind fun _ _ _ _ hused => .pure (by simp [hused])

theorem succ : ItemReadersAdvance (n + 1) where
  items := h.succ_items
  block := h.succ_block
  item := h.succ_item
  declaration := h.succ_declaration
  function := h.succ_function
  nominal := h.succ_nominal

end ItemReadersAdvance

/-- **The readers of items go forward**, whatever their bound. -/
theorem itemReadersAdvance (n : Nat) : ItemReadersAdvance n := by
  induction n with
  | zero =>
    constructor <;> intros <;> exact fun _ => .fail
  | succ n ih => exact ih.succ

end TokenParser

end SwiftTuples
