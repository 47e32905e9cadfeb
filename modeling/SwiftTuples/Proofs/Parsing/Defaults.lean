import SwiftTuples.Proofs.Parsing.Keywords
import SwiftTuples.Proofs.Parsing.Layout
import SwiftTuples.Proofs.Parsing.Stopping
import SwiftTuples.Proofs.Parsing.TupleOrder
/-!
# Default values of parameters

Default values are passed over and leave nothing in a tree. How far one reaches is told by a count
of its brackets: it ends at the first comma or parenthesis that is in none of them. A value whose
commas are in round, square or curly brackets (`Enclosed`) is passed over to its end, whatever it
says, so a function declaration is read as it is without its default values (`FunctionWithout`).

The count knows no angle brackets. A value may have a comma in a clause of generic arguments, and
there the reader stops in the middle of the value.
-/

namespace SwiftTuples

/-- An opening bracket and a closing one of its kind. -/
def Placed.Pairs (o c : Placed) : Prop :=
  o.is '(' ∧ c.is ')' ∨ o.is '[' ∧ c.is ']' ∨ o.is '{' ∧ c.is '}'

/-- The brackets of the tokens are matched, kind by kind. Commas stand inside brackets, unless
`commas` allows them outside. If `clauses` says so, an angle bracket that touches the name before it
is a bracket, too. -/
inductive Enclosed (clauses : Bool) : Bool → List Placed → Prop
  | nil {commas : Bool} : Enclosed clauses commas []
  /-- A token that is no bracket. -/
  | token {commas : Bool} {t : Placed} {ts : List Placed} (hopens : ¬ t.opens)
      (hcloses : ¬ t.closes) (hcomma : t.is ',' → commas) (more : Enclosed clauses commas ts) :
      Enclosed clauses commas (t :: ts)
  /-- Brackets and what is inside them. -/
  | group {commas : Bool} {o c : Placed} {inside ts : List Placed} (hpair : o.Pairs c)
      (inner : Enclosed clauses true inside) (more : Enclosed clauses commas ts) :
      Enclosed clauses commas (o :: (inside ++ c :: ts))
  /-- A name and its generic arguments. -/
  | clause {commas : Bool} {name o c : Placed} {inside ts : List Placed} (hclauses : clauses)
      (hname : name.name?.isSome) (hopens : o.is '<') (htouching : o.touching) (hcloses : c.is '>')
      (inner : Enclosed clauses true inside) (more : Enclosed clauses commas ts) :
      Enclosed clauses commas (name :: o :: (inside ++ c :: ts))

namespace Placed.Pairs

variable {o c : Placed} (h : o.Pairs c)
include h

theorem opens : o.opens := by
  rcases h with ⟨ho, -⟩ | ⟨ho, -⟩ | ⟨ho, -⟩ <;> simp [Placed.opens, ho]

theorem closes : c.closes := by
  rcases h with ⟨-, hc⟩ | ⟨-, hc⟩ | ⟨-, hc⟩ <;> simp [Placed.closes, hc]

theorem not_opens : ¬ c.opens := by
  rcases h with ⟨-, hc⟩ | ⟨-, hc⟩ | ⟨-, hc⟩ <;>
    simp [Placed.opens, Token.is, Token.kind_of_is hc]

/-- Curly brackets pair with one another. -/
theorem is_brace : o.is '{' ∧ c.is '}' ∨ (o.is '{' = false ∧ o.is '}' = false) ∧
    c.is '{' = false ∧ c.is '}' = false := by
  rcases h with ⟨ho, hc⟩ | ⟨ho, hc⟩ | hbrace
  · simp [Token.is, Token.kind_of_is ho, Token.kind_of_is hc]
  · simp [Token.is, Token.kind_of_is ho, Token.kind_of_is hc]
  · exact .inl hbrace

end Placed.Pairs

namespace TokenParser

variable {commas : Bool} {ts after : List Placed}

/-- **What is enclosed is passed over** in the search for the end of a default value. -/
theorem defaultEnd_enclosed (h : Enclosed false commas ts) {pending : Nat}
    (hcommas : commas → 0 < pending) (start : Option Nat) (after : List Placed) :
    defaultEnd start pending (ts ++ after) = defaultEnd start pending after := by
  induction h generalizing pending after with
  | nil => rfl
  | @token commas t ts hopens hcloses hcomma _ ih =>
    have hend : ¬ (pending = 0 ∧ (t.is ',' ∨ t.is ')')) := by
      rintro ⟨hzero, hcomma' | hparen⟩
      · exact Nat.ne_of_gt (hcommas (hcomma hcomma')) hzero
      · exact hcloses (by simp [Placed.closes, hparen])
    rw [List.cons_append, defaultEnd, if_neg hopens, if_neg (by simp [hcloses]),
      if_neg (by simpa using hend), if_neg hcloses, ih hcommas]
  | @group commas o c inside ts hpair _ _ ihinside ihmore =>
    rw [List.cons_append, defaultEnd, if_pos hpair.opens, List.append_assoc,
      ihinside (fun _ => Nat.succ_pos pending), List.cons_append, defaultEnd,
      if_neg hpair.not_opens, if_pos (by simp [hpair.closes])]
    exact ihmore hcommas after
  | clause hclauses => cases hclauses

end TokenParser

/-! ## Braces -/

/-- The braces of what is enclosed match one another. -/
theorem matchBraces_enclosed {commas : Bool} {ts : List Placed} (h : Enclosed false commas ts)
    (pending : List Nat) (after : List Token) :
    matchBraces pending (ts.map (·.toToken) ++ after) = matchBraces pending after := by
  induction h generalizing pending after with
  | nil => rfl
  | @token commas t ts hopens hcloses _ _ ih =>
    have hopen : t.is '{' = false := by
      simp only [Placed.opens, Bool.not_eq_true, Bool.or_eq_false_iff] at hopens
      exact hopens.2
    have hclose : t.is '}' = false := by
      simp only [Placed.closes, Bool.not_eq_true, Bool.or_eq_false_iff] at hcloses
      exact hcloses.2
    rw [List.map_cons, List.cons_append, matchBraces_cons hopen hclose, ih]
  | @group commas o c inside ts hpair _ _ ihinside ihmore =>
    rw [List.map_cons, List.map_append, List.map_cons, List.cons_append, List.append_assoc,
      List.cons_append]
    obtain ⟨ho, hc⟩ | ⟨⟨hopen, hclose⟩, hopen', hclose'⟩ := hpair.is_brace
    · rw [matchBraces_open ho, ihinside, matchBraces_close hc, ihmore]
    · rw [matchBraces_cons hopen hclose, ihinside, matchBraces_cons hopen' hclose', ihmore]
  | clause hclauses => cases hclauses

/-! ## Declarations without default values -/

/-- The tokens read as a type, all of them. -/
def IsType (ts : List Placed) : Prop :=
  ∃ type, TokenParser.typeExpr (TokenParser.depth ts.length) ts = .ok (type, [])

/-- The tokens are a default value behind an equals sign, or none. -/
inductive IsDefault (clauses : Bool) : List Placed → Prop
  | none : IsDefault clauses []
  | value {equals : Placed} {ts : List Placed} (hequals : equals.is '=')
      (enclosed : Enclosed clauses false ts) : IsDefault clauses (equals :: ts)

section without

variable (clauses : Bool) (move : Nat → Nat)

/-- A parameter, and the same without its default value, if it has one. -/
inductive ParameterWithout : List Placed → List Placed → Prop
  | mk {names names' type type' value : List Placed} {colon colon' : Placed} (hne : names ≠ [])
      (hnames : ∀ t ∈ names, t.name?.isSome) (hcolon : colon.is ':') (htype : IsType type)
      (hvalue : IsDefault clauses value) (alikeNames : Alike move names names')
      (alikeColon : colon.Alike move colon') (alikeType : Alike move type type') :
      ParameterWithout (names ++ colon :: (type ++ value)) (names' ++ colon' :: type')

/-- Parameters with what comes after them, and the same without their default values. The marks
between the parameters may stand as they like. -/
inductive ParametersWithout : List Placed → List Placed → Prop
  | close {t u : Placed} {ts us : List Placed} (ht : t.is ')') (hu : u.is ')')
      (after : Alike move ts us) : ParametersWithout (t :: ts) (u :: us)
  | last {p q ts us : List Placed} {t u : Placed} (parameter : ParameterWithout clauses move p q)
      (ht : t.is ')') (hu : u.is ')') (after : Alike move ts us) :
      ParametersWithout (p ++ t :: ts) (q ++ u :: us)
  | next {p q ts us : List Placed} {t u : Placed} (parameter : ParameterWithout clauses move p q)
      (ht : t.is ',') (hu : u.is ',') (more : ParametersWithout ts us) :
      ParametersWithout (p ++ t :: ts) (q ++ u :: us)

/-- A function declaration with what comes after it, and the same without the default values of its
parameters. All tokens but those of the values and the marks between parameters look alike, and
`move` says where they stand. -/
inductive FunctionWithout : List Placed → List Placed → Prop
  | mk {keyword keyword' name name' paren paren' : Placed} {ts us : List Placed} {n : String}
      (hkeyword : keyword.isWord "func") (hdot : keyword.afterDot = false)
      (hname : name.name? = some n) (hne : n ≠ "") (hparen : paren.is '(')
      (alikeKeyword : keyword.Alike move keyword') (alikeName : name.Alike move name')
      (alikeParen : paren.Alike move paren') (more : ParametersWithout clauses move ts us) :
      FunctionWithout (keyword :: name :: paren :: ts) (keyword' :: name' :: paren' :: us)

end without

theorem IsDefault.endsType {clauses : Bool} {value after : List Placed}
    (h : IsDefault clauses value) (hafter : EndsType after) : EndsType (value ++ after) := by
  cases h with
  | none => exact hafter
  | value hequals _ => exact .of_is hequals (by decide) _

namespace TokenParser

variable {ts after : List Placed} {n : Nat}

/-- What reads as a type reads as that type where types end, whatever the bound. -/
theorem typeExpr_of_isType {type : TypeExpr} (h : typeExpr (depth ts.length) ts = .ok (type, []))
    (ends : EndsType after) (hn : 16 * ts.length + 5 ≤ n) :
    typeExpr n (ts ++ after) = .ok (type, after) := by
  refine typeExpr_append ends ?_
  rw [← h]
  exact (settled_typeExpr _).eq (Nat.le_refl _) hn (by simp only [depth]; omega)

/-- A default value is passed over, up to the mark that ends it. -/
theorem trailer_default {value : List Placed} {mark : Placed} (h : IsDefault false value)
    (hmark : mark.is ',' ∨ mark.is ')') :
    trailer (value ++ mark :: after) = .ok ((), mark :: after) := by
  have hno : ∀ c, ',' ≠ c → ')' ≠ c → mark.is c = false := fun c hcomma hparen =>
    hmark.elim (Token.is_eq_false_of_is · hcomma) (Token.is_eq_false_of_is · hparen)
  cases h with
  | none =>
    have hdot := hno '.' (by decide) (by decide)
    have hequals := hno '=' (by decide) (by decide)
    simp [trailer, startsWith, hdot, hequals]
  | @value equals ts hequals enclosed =>
    have hkind := Token.kind_of_is hequals
    have hend : defaultEnd (some equals.start) 0 (equals :: (ts ++ mark :: after)) =
        .ok (mark :: after) := by
      have hall : Enclosed false false (equals :: ts) := by
        refine .token ?_ ?_ ?_ enclosed <;> simp [Placed.opens, Placed.closes, Token.is, hkind]
      have hopens : ¬ mark.opens := by
        simp [Placed.opens, hno]
      rw [← List.cons_append, defaultEnd_enclosed hall (by simp), defaultEnd, if_neg hopens,
        if_neg (by simp), if_pos (by simpa using hmark)]
    simp [trailer, startsWith, Token.is, hkind, hend]

/-- Names are taken up to the first token that is none. -/
theorem many_name? {names : List Placed} (hnames : ∀ t ∈ names, t.name?.isSome)
    (hafter : word? after = none) :
    many name? (names ++ after) = .ok (names.filterMap (·.name?), after) := by
  have hstop : name? after = .ok (none, after) := by
    cases after with
    | nil => rfl
    | cons t after =>
      have hnone : t.name? = none := hafter
      simp [name?, hnone]
  suffices ∀ n, (names ++ after).length ≤ n →
      collect name? n (names ++ after) = .ok (names.filterMap (·.name?), after) from
    this _ (Nat.le_refl _)
  intro n hn
  induction names generalizing n with
  | nil =>
    cases n with
    | zero => rfl
    | succ n => exact bind_of_eq_ok hstop
  | cons t names ih =>
    rw [List.forall_mem_cons] at hnames
    obtain ⟨name, hname⟩ := Option.isSome_iff_exists.1 hnames.1
    obtain ⟨n, rfl⟩ : ∃ m, n = m + 1 := ⟨n - 1, by simp at hn; omega⟩
    have hfirst : name? (t :: names ++ after) = .ok (some name, names ++ after) := by
      simp [name?, hname]
    have hrest := ih hnames.2 n (by simpa using hn)
    simp only [List.filterMap_cons, hname]
    exact (bind_of_eq_ok hfirst).trans (bind_of_eq_ok hrest)

theorem parameterNames_of_names {names : List Placed} (hne : names ≠ [])
    (hnames : ∀ t ∈ names, t.name?.isSome) (hafter : word? after = none) :
    parameterNames (names ++ after) = .ok (names.filterMap (·.name?), after) := by
  refine (bind_of_eq_ok (many_name? hnames hafter)).trans ?_
  obtain ⟨t, names, rfl⟩ := List.exists_cons_of_ne_nil hne
  obtain ⟨name, hname⟩ := Option.isSome_iff_exists.1 (hnames t List.mem_cons_self)
  simp only [List.filterMap_cons, hname]
  rfl

/-! ## Parameters -/

/-- What is read after a parameter. -/
def afterParameter (n : Nat) (p : Parameter) : TokenParser (List Parameter) := do
  if ← eats ',' then return p :: (← parameters n)
  else if ← eats ')' then return [p]
  else fail .openParameterList

/-- The names of a parameter and the colon after them are taken, in front of its type. -/
theorem parameters_of_names {names : List Placed} {colon : Placed} (hne : names ≠ [])
    (hnames : ∀ t ∈ names, t.name?.isSome) (hcolon : colon.is ':') (n : Nat) (ts : List Placed) :
    parameters (n + 1) (names ++ colon :: ts) = (typeExpr n >>= fun type => trailer >>= fun _ =>
      afterParameter n ⟨names.filterMap (·.name?), type⟩) ts := by
  have hstop : word? (colon :: ts) = none := Token.name?_of_is hcolon
  obtain ⟨t, names, rfl⟩ := List.exists_cons_of_ne_nil hne
  have hno := Token.is_eq_false_of_name? (hnames t List.mem_cons_self)
  refine (bind_of_eq_ok (eats_of_not (hno ')'))).trans ?_
  refine (bind_of_eq_ok (many_eq_nil (attribute?_of_not (hno '@')))).trans ?_
  refine (bind_of_eq_ok (parameterNames_of_names hne hnames hstop)).trans ?_
  exact bind_of_eq_ok (expect_of_is hcolon)

/-- A parameter is read up to the mark after it. -/
theorem parameters_of_parameter {names type value : List Placed} {colon mark : Placed}
    {found : TypeExpr} (hne : names ≠ []) (hnames : ∀ t ∈ names, t.name?.isSome)
    (hcolon : colon.is ':') (htype : typeExpr (depth type.length) type = .ok (found, []))
    (hvalue : IsDefault false value) (hmark : mark.is ',' ∨ mark.is ')')
    (hn : 16 * type.length + 5 ≤ n) (after : List Placed) :
    parameters (n + 1) (names ++ colon :: (type ++ value) ++ mark :: after) =
      afterParameter n ⟨names.filterMap (·.name?), found⟩ (mark :: after) := by
  have hends : EndsType (mark :: after) := by
    rcases hmark with hmark | hmark <;> exact .of_is hmark (by decide) _
  rw [List.append_assoc, List.cons_append, List.append_assoc, parameters_of_names hne hnames hcolon]
  refine (bind_of_eq_ok (typeExpr_of_isType htype (hvalue.endsType hends) hn)).trans ?_
  exact bind_of_eq_ok (trailer_default hvalue hmark)

theorem afterParameter_comma {mark : Placed} {p : Parameter} (hmark : mark.is ',') :
    afterParameter n p (mark :: after) =
      (parameters n >>= fun more => pure (p :: more)) after :=
  bind_of_eq_ok (eats_of_is hmark)

theorem afterParameter_close {mark : Placed} {p : Parameter} (hmark : mark.is ')') :
    afterParameter n p (mark :: after) = .ok ([p], after) :=
  (bind_of_eq_ok (eats_of_not (Token.is_eq_false_of_is hmark (by decide)))).trans
    (bind_of_eq_ok (eats_of_is hmark))

/-- **A default value does not change its parameter.** -/
theorem parameters_of_parameterWithout {move : Nat → Nat} {p q : List Placed}
    (h : ParameterWithout false move p q) :
    ∃ found : Parameter, ∀ (n : Nat) (mark mark' : Placed) (after after' : List Placed),
      mark.is ',' ∨ mark.is ')' → mark'.is ',' ∨ mark'.is ')' → 16 * p.length ≤ n →
      parameters (n + 1) (p ++ mark :: after) = afterParameter n found (mark :: after) ∧
      parameters (n + 1) (q ++ mark' :: after') =
        afterParameter n (found.relocate move) (mark' :: after') := by
  obtain @⟨names, names', tokens, tokens', value, colon, colon', hne, hnames, hcolon, ⟨type, htype⟩,
    hvalue, alikeNames, alikeColon, alikeType⟩ := h
  have hlength : tokens'.length = tokens.length := alikeType.length_eq.symm
  have hne' : names' ≠ [] := by
    rwa [← List.length_pos_iff, ← alikeNames.length_eq, List.length_pos_iff]
  have hcolon' : colon'.is ':' := (alikeColon.is ':').trans hcolon
  have htype' : typeExpr (depth tokens'.length) tokens' = .ok (type.relocate move, []) := by
    have hagree := follows_typeExpr (depth tokens.length) alikeType
    rw [htype] at hagree
    obtain ⟨rest, hok, hrest⟩ := hagree.eq_ok
    cases hrest
    rw [hlength, hok]
  refine ⟨⟨names.filterMap (·.name?), type⟩, fun n mark mark' after after' hmark hmark' hn => ?_⟩
  simp only [List.length_append, List.length_cons] at hn
  have hnames' := alikeNames.forall_name? hnames
  have hbound : 16 * tokens'.length + 5 ≤ n := by omega
  have hplain := parameters_of_parameter hne' hnames' hcolon' htype' .none hmark' hbound after'
  rw [List.append_nil, alikeNames.filterMap_name?] at hplain
  exact ⟨parameters_of_parameter hne hnames hcolon htype hvalue hmark (by omega) after, hplain⟩

/-- **Default values do not change a list of parameters.** -/
theorem parameters_of_parametersWithout {move : Nat → Nat} {ts us : List Placed}
    (h : ParametersWithout false move ts us) (hn : 16 * ts.length + 1 ≤ n) :
    ∃ found rest rest', parameters n ts = .ok (found, rest) ∧
      parameters n us = .ok (found.map (·.relocate move), rest') ∧ Alike move rest rest' := by
  induction h generalizing n with
  | @close t u ts us ht hu after =>
    obtain ⟨n, rfl⟩ : ∃ m, n = m + 1 := ⟨n - 1, by omega⟩
    exact ⟨[], ts, us, bind_of_eq_ok (eats_of_is ht), bind_of_eq_ok (eats_of_is hu), after⟩
  | @last p q ts us t u parameter ht hu after =>
    simp only [List.length_append, List.length_cons] at hn
    obtain ⟨n, rfl⟩ : ∃ m, n = m + 1 := ⟨n - 1, by omega⟩
    obtain ⟨found, hfound⟩ := parameters_of_parameterWithout parameter
    obtain ⟨hfirst, hsecond⟩ := hfound n t u ts us (.inr ht) (.inr hu) (by omega)
    rw [hfirst, hsecond, afterParameter_close ht, afterParameter_close hu]
    exact ⟨[found], ts, us, rfl, rfl, after⟩
  | @next p q ts us t u parameter ht hu _ ih =>
    simp only [List.length_append, List.length_cons] at hn
    obtain ⟨n, rfl⟩ : ∃ m, n = m + 1 := ⟨n - 1, by omega⟩
    obtain ⟨found, hfound⟩ := parameters_of_parameterWithout parameter
    obtain ⟨hfirst, hsecond⟩ := hfound n t u ts us (.inl ht) (.inl hu) (by omega)
    obtain ⟨more, rest, rest', hmore, hmore', hrest⟩ := ih (n := n) (by omega)
    rw [hfirst, hsecond, afterParameter_comma ht, afterParameter_comma hu, bind_of_eq_ok hmore,
      bind_of_eq_ok hmore']
    exact ⟨found :: more, rest, rest', rfl, rfl, hrest⟩

/-! ## Declarations -/

section declarations

variable {move : Nat → Nat} {us : List Placed} {keyword : Placed}

/-- A function declaration is read up to its parameters. -/
theorem function_of_tokens {name paren : Placed} {word : String} (hname : name.name? = some word)
    (hne : word ≠ "") (hparen : paren.is '(') (position : Nat) :
    function (n + 1) position "func" (keyword :: name :: paren :: ts) =
      (parameters n >>= signatureEnd n position word) ts := by
  have hfunctionName : functionName "func" (name :: paren :: ts) = .ok (word, paren :: ts) := by
    have hfound : name? (name :: paren :: ts) = .ok (some word, paren :: ts) := by
      simp [name?, hname]
    rw [functionName, if_pos rfl]
    exact bind_of_eq_ok hfound
  have hskip : skip 1 (keyword :: name :: paren :: ts) = .ok ((), name :: paren :: ts) := rfl
  rw [function_succ]
  refine (bind_of_eq_ok hskip).trans ((bind_of_eq_ok hfunctionName).trans ?_)
  rw [if_neg hne]
  exact signature_of_is hparen n position word ts

/-- **Default values do not change a declaration.** -/
theorem agree_item (h : FunctionWithout false move ts us) (hn : 16 * ts.length + 10 ≤ n) :
    Agree move (Option.map (List.map (·.relocate move))) (item n ts) (item n us) := by
  obtain ⟨hkeyword, hdot, hname, hne, hparen, alikeKeyword, alikeName, alikeParen, more⟩ := h
  obtain ⟨n, rfl⟩ : ∃ m, n = m + 3 := ⟨n - 3, by omega⟩
  simp only [List.length_cons] at hn
  rw [item_of_func hkeyword hdot, function_of_tokens hname hne hparen,
    item_of_func ((alikeKeyword.isWord _).trans hkeyword) (alikeKeyword.afterDot.trans hdot),
    function_of_tokens (alikeName.name?.trans hname) hne ((alikeParen.is _).trans hparen),
    alikeKeyword.start]
  obtain ⟨found, rest, rest', hfound, hfound', hrest⟩ :=
    parameters_of_parametersWithout more (n := n) (by omega)
  rw [bind_of_eq_ok hfound, bind_of_eq_ok hfound']
  exact (itemReadersFollow move n).signatureEnd _ _ found hrest

end declarations

end TokenParser

/-! ## Files -/

section files

open TokenParser

variable {move : Nat → Nat} {ts us : List Placed}

namespace BracesAlike

theorem append_alike {rest rest' : List Token} (h : Alike move ts us)
    (hrest : BracesAlike rest rest') :
    BracesAlike (ts.map (·.toToken) ++ rest) (us.map (·.toToken) ++ rest') := by
  induction h with
  | nil => exact hrest
  | cons ht _ ih => exact ih.cons ht.kind

theorem append_default {value : List Placed} {rest rest' : List Token}
    (hvalue : IsDefault false value) (hrest : BracesAlike rest rest') :
    BracesAlike (value.map (·.toToken) ++ rest) rest' := by
  cases hvalue with
  | none => exact hrest
  | @value equals ts hequals enclosed =>
    intro pending pending' hlen
    rw [List.map_cons, List.cons_append,
      matchBraces_cons (Token.is_eq_false_of_is hequals (by decide))
        (Token.is_eq_false_of_is hequals (by decide)), matchBraces_enclosed enclosed]
    exact hrest hlen

theorem append_parameter {p q : List Placed} {rest rest' : List Token}
    (h : ParameterWithout false move p q) (hrest : BracesAlike rest rest') :
    BracesAlike (p.map (·.toToken) ++ rest) (q.map (·.toToken) ++ rest') := by
  obtain ⟨-, -, -, -, hvalue, alikeNames, alikeColon, alikeType⟩ := h
  simp only [List.map_append, List.map_cons, List.append_assoc, List.cons_append]
  exact ((hrest.append_default hvalue).append_alike alikeType).cons alikeColon.kind
    |>.append_alike alikeNames

end BracesAlike

/-- Default values do not change how braces are matched. -/
theorem ParametersWithout.bracesAlike (h : ParametersWithout false move ts us) :
    BracesAlike (ts.map (·.toToken)) (us.map (·.toToken)) := by
  have hkind : ∀ {t u : Placed} {c : Char}, t.is c → u.is c → u.kind = t.kind := fun ht hu =>
    (Token.kind_of_is hu).trans (Token.kind_of_is ht).symm
  have hafter : ∀ {ts us : List Placed}, Alike move ts us →
      BracesAlike (ts.map (·.toToken)) (us.map (·.toToken)) := fun hts => by
    simpa using BracesAlike.nil.append_alike hts
  induction h with
  | close ht hu after => exact (hafter after).cons (hkind ht hu)
  | last parameter ht hu after =>
    rw [List.map_append, List.map_append]
    exact ((hafter after).cons (hkind ht hu)).append_parameter parameter
  | next parameter ht hu _ ih =>
    rw [List.map_append, List.map_append]
    exact (ih.cons (hkind ht hu)).append_parameter parameter

theorem FunctionWithout.bracesAlike (h : FunctionWithout false move ts us) :
    BracesAlike (ts.map (·.toToken)) (us.map (·.toToken)) := by
  obtain ⟨-, -, -, -, -, alikeKeyword, alikeName, alikeParen, more⟩ := h
  exact ((more.bracesAlike.cons alikeParen.kind).cons alikeName.kind).cons alikeKeyword.kind

theorem ParameterWithout.length_le {clauses : Bool} {p q : List Placed}
    (h : ParameterWithout clauses move p q) : q.length ≤ p.length := by
  obtain ⟨-, -, -, -, -, alikeNames, -, alikeType⟩ := h
  simp only [List.length_append, List.length_cons, alikeNames.length_eq, alikeType.length_eq]
  omega

theorem ParametersWithout.length_le {clauses : Bool} (h : ParametersWithout clauses move ts us) :
    us.length ≤ ts.length := by
  induction h with
  | close _ _ after => simp [after.length_eq]
  | last parameter _ _ after =>
    have hle := parameter.length_le
    simp only [List.length_append, List.length_cons, after.length_eq]
    omega
  | next parameter _ _ _ ih =>
    have hle := parameter.length_le
    simp only [List.length_append, List.length_cons]
    omega

theorem FunctionWithout.length_le {clauses : Bool} (h : FunctionWithout clauses move ts us) :
    us.length ≤ ts.length := by
  obtain ⟨-, -, -, -, -, -, -, -, more⟩ := h
  have hle := more.length_le
  simp only [List.length_cons]
  omega

/-- A file that begins with a declaration is read as it is without the default values. -/
theorem agree_items (h : FunctionWithout false move ts us)
    (hread : ∃ found rest, item (depth us.length) us = .ok (some found, rest)) :
    Agree move (List.map (·.relocate move)) (items (depth ts.length) false [] ts)
      (items (depth us.length) false [] us) := by
  have hle := h.length_le
  -- both are read at the bound of the longer one
  have hitems : items (depth us.length) false [] us = items (depth ts.length) false [] us :=
    ((itemReadersSettle _).items false []).eq (Nat.le_refl _) (by simp only [depth]; omega)
      (by simp only [depth]; omega)
  have hitem : item (depth us.length) us = item (16 * ts.length + 15) us :=
    (itemReadersSettle _).item.eq (Nat.le_refl _) (by simp only [depth]; omega) (by omega)
  obtain ⟨found', rest', hfound'⟩ := hread
  rw [hitem] at hfound'
  have hagree := agree_item h (n := 16 * ts.length + 15) (by omega)
  rw [hfound'] at hagree
  rw [hitems, show depth ts.length = 16 * ts.length + 15 + 1 from rfl]
  generalize 16 * ts.length + 15 = n at hfound' hagree ⊢
  obtain ⟨found, rest, hfound, hsame, hrest⟩ := hagree.exists_ok
  cases found with
  | none => cases hsame
  | some found =>
    obtain rfl : found' = found.map (·.relocate move) := Option.some.inj hsame
    obtain @⟨keyword, _, _, _, _, _, _, _, _, hkeyword, _, _, _, _, alikeKeyword, _, _, _⟩ := h
    have hno : ∀ c, keyword.is c = false := fun c => by
      simp only [Token.isWord, decide_eq_true_eq] at hkeyword
      simp [Token.is, hkeyword]
    rw [items_of_item (by simp [hno]) (by simp [hno]) hfound,
      items_of_item (by simp [alikeKeyword.is, hno]) (by simp [alikeKeyword.is, hno]) hfound']
    have hgoesOn := (itemReadersFollow move n).items false found.reverse hrest
    rw [List.map_reverse] at hgoesOn
    simpa using hgoesOn

/-- A text is read as another whose braces are matched alike and whose tokens say a file that is
alike. -/
theorem SourceFile.parse_alike {first second : Text} {tokens tokens' : List Token}
    {f : SourceFile → SourceFile} (hfirst : tokenize first = .ok tokens)
    (hsecond : tokenize second = .ok tokens') (hbraces : BracesAlike tokens tokens')
    (hread : ReadAlike f (SourceFile.ofTokens first.size tokens)
      (SourceFile.ofTokens second.size tokens')) :
    ReadAlike f (SourceFile.parse first) (SourceFile.parse second) := by
  have hchecked : ReadAlike id (checkBraces tokens) (checkBraces tokens') := hbraces rfl
  simp only [SourceFile.parse, bind, Except.bind, hfirst, hsecond]
  revert hchecked
  cases checkBraces tokens with
  | error e =>
    cases checkBraces tokens' with
    | error e' => exact id
    | ok u => exact False.elim
  | ok u =>
    cases checkBraces tokens' with
    | error e' => exact False.elim
    | ok u' => exact fun _ => hread

end files

/-! ## Tuples moved -/

/-- The observation moved. -/
def Observation.relocate (move : Nat → Nat) (o : Observation) : Observation :=
  { o with position := move o.position }

namespace Node

variable (move : Nat → Nat)

/-- The node with every offset moved. -/
def relocate : Node → Node
  | file f => file (f.relocate move)
  | item i => item (i.relocate move)
  | type t => type (t.relocate move)

theorem map_relocate_ofRequirements (requirements : List Requirement) :
    ofRequirements (requirements.map (·.relocate move)) =
      (ofRequirements requirements).map (relocate move) := by
  simp only [ofRequirements, List.flatMap_map, List.map_map, List.map_flatMap]
  rfl

theorem children_relocate (n : Node) :
    (n.relocate move).children = n.children.map (relocate move) := by
  cases n with
  | file f => simp [relocate, SourceFile.relocate, children, Function.comp_def]
  | type t =>
    cases t <;>
      simp [relocate, TypeExpr.relocate, Element.relocate, children, TypeExpr.children,
        Function.comp_def]
  | item i =>
    cases i with
    | block b =>
      cases b
      simp [relocate, Item.relocate, children, insideItem, Function.comp_def]
    | «variable» | function | nominal | «alias» | cast =>
      simp [relocate, Item.relocate, Parameter.relocate, children, insideItem, ofBlock,
        map_relocate_ofRequirements, Function.comp_def, Option.toList_map]

theorem observation?_relocate (n : Node) :
    (n.relocate move).observation? = n.observation?.map (·.relocate move) := by
  cases n with
  | file f => rfl
  | item i => rfl
  | type t =>
    cases t <;> simp [relocate, TypeExpr.relocate, Element.relocate, observation?,
      Observation.relocate, List.countP_map, Function.comp_def]

/-- The tuples of a tree that is moved are its tuples, moved. -/
theorem observations_relocate (n : Node) :
    (n.relocate move).observations = n.observations.map (·.relocate move) := by
  induction n using of_children with
  | h n ih =>
    rw [observations_eq, observations_eq, observation?_relocate, children_relocate,
      List.flatMap_map, List.map_append, List.map_flatMap, List.flatMap_congr ih,
      Option.toList_map]

end Node

/-- A file that is read alike has the same tuples, moved. -/
theorem ReadAlike.observations {move : Nat → Nat} {first second : Except SyntaxError SourceFile}
    {file : SourceFile} (h : ReadAlike (SourceFile.relocate move) first second)
    (hfile : first = .ok file) :
    ∃ bare, second = .ok bare ∧ bare.observations = file.observations.map (·.relocate move) := by
  subst hfile
  cases second with
  | error e => exact h.elim
  | ok bare =>
    obtain rfl : bare = file.relocate move := h
    exact ⟨_, rfl, (Node.file file).observations_relocate move⟩

open TokenParser in
/-- **Default values do not change a declaration.** Wherever a loop over items stands at a function
declaration, it reads the same item with the default values of the parameters and without them, up
to offsets, or fails for one cause. So a text that begins with a function declaration that can be
read is read as the text without the default values is, and each tuple of the one is found in the
other. The commas of the values have to be inside of round, square or curly brackets. -/
theorem parse_without_defaults (move : Nat → Nat) :
    (∀ (ts us : List Placed) (n : Nat), FunctionWithout false move ts us →
      16 * ts.length + 10 ≤ n →
      Agree move (Option.map (List.map (·.relocate move))) (item n ts) (item n us)) ∧
    ∀ (source plain : Text) (tokens tokens' : List Token), tokenize source = .ok tokens →
      tokenize plain = .ok tokens' →
      FunctionWithout false move (Placed.ofTokens tokens) (Placed.ofTokens tokens') →
      (∃ found rest, item (depth tokens'.length) (Placed.ofTokens tokens') =
        .ok (some found, rest)) →
      ReadAlike (SourceFile.relocate move) (SourceFile.parse source) (SourceFile.parse plain) ∧
      ∀ file, SourceFile.parse source = .ok file →
        ∃ bare, SourceFile.parse plain = .ok bare ∧
          bare.observations = file.observations.map (·.relocate move) := by
  refine ⟨fun ts us n h hn => agree_item h hn, ?_⟩
  intro source plain tokens tokens' hsource hplain h hread
  have hlen : ∀ tokens, (Placed.ofTokens tokens).length = tokens.length :=
    Placed.length_following none
  have hitems := agree_items h (by rwa [hlen])
  rw [hlen, hlen] at hitems
  have hbraces := h.bracesAlike
  rw [Placed.ofTokens, Placed.ofTokens, Placed.map_toToken_following,
    Placed.map_toToken_following] at hbraces
  have halike := SourceFile.parse_alike hsource hplain hbraces
    (SourceFile.ofTokens_of_agree hitems _ _)
  exact ⟨halike, fun _ => halike.observations⟩

open TokenParser in
/-- The default value of a pair is left out, and the result moves. -/
theorem parse_without_pair :
    ∃ tokens tokens', tokenize "func f(x: (A, B) = (1, 2)) -> C".toList = .ok tokens ∧
      tokenize "func f(x: (A, B)) -> C".toList = .ok tokens' ∧
      FunctionWithout false (fun p => if p < 17 then p else p - 9) (Placed.ofTokens tokens)
        (Placed.ofTokens tokens') ∧
      (∃ found rest, item (depth tokens'.length) (Placed.ofTokens tokens') =
        .ok (some found, rest)) ∧
      Agree (fun p => if p < 17 then p else p - 9)
        (Option.map (List.map (·.relocate fun p => if p < 17 then p else p - 9)))
        (item 314 (Placed.ofTokens tokens)) (item 314 (Placed.ofTokens tokens')) ∧
      ReadAlike (SourceFile.relocate fun p => if p < 17 then p else p - 9)
        (SourceFile.parse "func f(x: (A, B) = (1, 2)) -> C".toList)
        (SourceFile.parse "func f(x: (A, B)) -> C".toList) := by
  have htokens : tokenize "func f(x: (A, B) = (1, 2)) -> C".toList = .ok
      [⟨.ident "func", 0, 4, true⟩, ⟨.ident "f", 5, 6, false⟩, ⟨.punct '(', 6, 7, false⟩,
        ⟨.ident "x", 7, 8, false⟩, ⟨.punct ':', 8, 9, false⟩, ⟨.punct '(', 10, 11, false⟩,
        ⟨.ident "A", 11, 12, false⟩, ⟨.punct ',', 12, 13, false⟩, ⟨.ident "B", 14, 15, false⟩,
        ⟨.punct ')', 15, 16, false⟩, ⟨.punct '=', 17, 18, false⟩, ⟨.punct '(', 19, 20, false⟩,
        ⟨.literal, 20, 21, false⟩, ⟨.punct ',', 21, 22, false⟩, ⟨.literal, 23, 24, false⟩,
        ⟨.punct ')', 24, 25, false⟩, ⟨.punct ')', 25, 26, false⟩, ⟨.arrow, 27, 29, false⟩,
        ⟨.ident "C", 30, 31, false⟩] := by
    decide +kernel
  have hplain : tokenize "func f(x: (A, B)) -> C".toList = .ok
      [⟨.ident "func", 0, 4, true⟩, ⟨.ident "f", 5, 6, false⟩, ⟨.punct '(', 6, 7, false⟩,
        ⟨.ident "x", 7, 8, false⟩, ⟨.punct ':', 8, 9, false⟩, ⟨.punct '(', 10, 11, false⟩,
        ⟨.ident "A", 11, 12, false⟩, ⟨.punct ',', 12, 13, false⟩, ⟨.ident "B", 14, 15, false⟩,
        ⟨.punct ')', 15, 16, false⟩, ⟨.punct ')', 16, 17, false⟩, ⟨.arrow, 18, 20, false⟩,
        ⟨.ident "C", 21, 22, false⟩] := by
    decide +kernel
  refine ⟨_, _, htokens, hplain, ?without, ⟨_, _, rfl⟩,
    (parse_without_defaults _).1 _ _ _ ?without (by decide),
    ((parse_without_defaults _).2 _ _ _ _ htokens hplain ?without ⟨_, _, rfl⟩).1⟩
  refine .mk (n := "f") rfl rfl rfl (by decide) rfl (by decide) (by decide) (by decide) ?_
  change ParametersWithout false _
    (([_] ++ _ :: ([_, _, _, _, _] ++ [_, _, _, _, _, _])) ++ _ :: [_, _])
    (([_] ++ _ :: [_, _, _, _, _]) ++ _ :: [_, _])
  refine .last (.mk (by decide) (by decide) rfl ⟨_, rfl⟩ (.value rfl ?_) (by decide) (by decide)
    (by decide)) rfl rfl (by decide)
  change Enclosed false false (_ :: ([_, _, _] ++ _ :: []))
  refine .group (.inl ⟨rfl, rfl⟩) ?_ .nil
  refine .token (by decide) (by decide) (by decide) ?_
  refine .token (by decide) (by decide) (by decide) ?_
  exact .token (by decide) (by decide) (by decide) .nil

open TokenParser in
/-- **A comma of generic arguments ends a default value.** The rest of the value is no parameter, so
nothing of the declaration is read, and the tuple of its parameter is not found. -/
theorem generic_arguments_end_default :
    ∃ tokens tokens', tokenize "func f(x: (A, B, C) = D<E, F>())".toList = .ok tokens ∧
      tokenize "func f(x: (A, B, C))".toList = .ok tokens' ∧
      FunctionWithout true id (Placed.ofTokens tokens) (Placed.ofTokens tokens') ∧
      (∃ found rest, item (depth tokens'.length) (Placed.ofTokens tokens') =
        .ok (some found, rest)) ∧
      (SourceFile.parse "func f(x: (A, B, C) = D<E, F>())".toList).map (·.observations) = .ok [] ∧
      (SourceFile.parse "func f(x: (A, B, C))".toList).map (·.observations) = .ok [⟨10, 3, 0⟩] ∧
      ∀ move, ¬ ReadAlike (SourceFile.relocate move)
        (SourceFile.parse "func f(x: (A, B, C) = D<E, F>())".toList)
        (SourceFile.parse "func f(x: (A, B, C))".toList) := by
  have htokens : tokenize "func f(x: (A, B, C) = D<E, F>())".toList = .ok
      [⟨.ident "func", 0, 4, true⟩, ⟨.ident "f", 5, 6, false⟩, ⟨.punct '(', 6, 7, false⟩,
        ⟨.ident "x", 7, 8, false⟩, ⟨.punct ':', 8, 9, false⟩, ⟨.punct '(', 10, 11, false⟩,
        ⟨.ident "A", 11, 12, false⟩, ⟨.punct ',', 12, 13, false⟩, ⟨.ident "B", 14, 15, false⟩,
        ⟨.punct ',', 15, 16, false⟩, ⟨.ident "C", 17, 18, false⟩, ⟨.punct ')', 18, 19, false⟩,
        ⟨.punct '=', 20, 21, false⟩, ⟨.ident "D", 22, 23, false⟩, ⟨.punct '<', 23, 24, false⟩,
        ⟨.ident "E", 24, 25, false⟩, ⟨.punct ',', 25, 26, false⟩, ⟨.ident "F", 27, 28, false⟩,
        ⟨.punct '>', 28, 29, false⟩, ⟨.punct '(', 29, 30, false⟩, ⟨.punct ')', 30, 31, false⟩,
        ⟨.punct ')', 31, 32, false⟩] := by
    decide +kernel
  have htokens' : tokenize "func f(x: (A, B, C))".toList = .ok
      [⟨.ident "func", 0, 4, true⟩, ⟨.ident "f", 5, 6, false⟩, ⟨.punct '(', 6, 7, false⟩,
        ⟨.ident "x", 7, 8, false⟩, ⟨.punct ':', 8, 9, false⟩, ⟨.punct '(', 10, 11, false⟩,
        ⟨.ident "A", 11, 12, false⟩, ⟨.punct ',', 12, 13, false⟩, ⟨.ident "B", 14, 15, false⟩,
        ⟨.punct ',', 15, 16, false⟩, ⟨.ident "C", 17, 18, false⟩, ⟨.punct ')', 18, 19, false⟩,
        ⟨.punct ')', 19, 20, false⟩] := by
    decide +kernel
  have hnone : (SourceFile.parse "func f(x: (A, B, C) = D<E, F>())".toList).map (·.observations) =
      .ok [] := by
    decide +kernel
  have hone : (SourceFile.parse "func f(x: (A, B, C))".toList).map (·.observations) =
      .ok [⟨10, 3, 0⟩] := by
    decide +kernel
  refine ⟨_, _, htokens, htokens', ?without, ⟨_, _, rfl⟩, hnone, hone, fun move halike => ?_⟩
  case without =>
    refine .mk (n := "f") rfl rfl rfl (by decide) rfl (by decide) (by decide) (by decide) ?_
    change ParametersWithout true id
      (([_] ++ _ :: ([_, _, _, _, _, _, _] ++ [_, _, _, _, _, _, _, _, _])) ++ _ :: [])
      (([_] ++ _ :: [_, _, _, _, _, _, _]) ++ _ :: [])
    refine .last (.mk (by decide) (by decide) rfl ⟨_, rfl⟩ (.value rfl ?_) (by decide) (by decide)
      (by decide)) rfl rfl .nil
    change Enclosed true false (_ :: _ :: ([_, _, _] ++ _ :: (_ :: ([] ++ _ :: []))))
    refine .clause rfl rfl rfl rfl rfl ?_ (.group (.inl ⟨rfl, rfl⟩) .nil .nil)
    refine .token (by decide) (by decide) (by decide) ?_
    refine .token (by decide) (by decide) (by decide) ?_
    exact .token (by decide) (by decide) (by decide) .nil
  cases hfile : SourceFile.parse "func f(x: (A, B, C) = D<E, F>())".toList with
  | error e =>
    rw [hfile] at hnone
    cases hnone
  | ok file =>
    obtain ⟨bare, hbare, hsame⟩ := halike.observations hfile
    rw [hfile] at hnone
    rw [hbare] at hone
    rw [Except.map, Except.ok.injEq] at hnone hone
    rw [hnone, hone] at hsame
    cases hsame

end SwiftTuples
