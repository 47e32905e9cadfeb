import SwiftTuples.Tuple
import SwiftTuples.Proofs.Lexing.Front
import SwiftTuples.Proofs.Parsing.TupleOrder
import SwiftTuples.Proofs.Reading.Operators
import SwiftTuples.Proofs.Reading.Seams
/-!
# Casts in conditions

A cast stands in an expression, which may go on after its type in any way. The type ends there if
the expression goes on with a comma, a parenthesis, a block or an operator: the marks of a type
touch it, and an operator after a space does not. Only two operators are taken for more of the type
all the same, since they are cut into characters: one that begins with an ampersand, which joins
types, and one that begins with the arrow of a function type.
-/

namespace SwiftTuples

open TokenParser

/-! ## How an expression goes on -/

/-- The characters of operators, with the dot that those on ranges begin with. -/
def expressionMarks : List Char := '.' :: operatorMarks

/-- An operator between expressions. No comment begins in it, and a dot alone is none: it stands
before a member. -/
structure IsExpressionOperator (op : Text) : Prop where
  ne_nil : op ≠ []
  marks : ∀ c ∈ op, c ∈ expressionMarks
  no_line_comment : ¬ ['/', '/'] <:+: op
  no_block_comment : ¬ ['/', '*'] <:+: op
  no_member : op ≠ ['.']

/-- The operator begins with nothing that joins types or makes them a function type. -/
structure LeavesType (op : Text) : Prop where
  no_ampersand : op.head? ≠ some '&'
  no_arrow : ¬ ['-', '>'] <+: op

/-- After an expression the text goes on with an operator, a comma, a parenthesis or a block. -/
inductive GoesOn : Text → Prop
  | operator {op rest : Text} (operator : IsExpressionOperator op) (leaves : LeavesType op)
      (whole : ∀ c ∈ rest.head?, c ∉ expressionMarks) : GoesOn (' ' :: (op ++ rest))
  | mark {c : Char} {rest : Text} (closes : c = ',' ∨ c = ')') : GoesOn (c :: rest)
  | block {rest : Text} : GoesOn (' ' :: '{' :: rest)

theorem GoesOn.endsName {text : Text} (h : GoesOn text) : EndsName text := by
  cases h with
  | operator | block =>
    rintro c ⟨⟩
    decide
  | mark closes =>
    rintro c ⟨⟩
    rcases closes with rfl | rfl <;> decide

namespace PieceKind

/-- What can be at the front of a text that begins with a character of an operator but with no
comment. -/
theorem Front.of_expressionMark {operand : Bool} {c : Char} {rest : Text} {kind : PieceKind}
    {n : Nat} (h : Front operand c rest kind n) (hc : c ∈ expressionMarks)
    (hcomment : c = '/' → rest.head? ≠ some '/' ∧ rest.head? ≠ some '*') :
    ∃ token : TokenKind, kind = .token token ∧ (token = .punct c ∨ token = .literal ∨
      token = .arrow ∧ c = '-' ∧ rest.head? = some '>') := by
  have hall : expressionMarks.all fun c => !Unicode.isBlank c && !isNameStart c && c ≠ '\x60' := by
    decide
  have hsolid := List.all_eq_true.1 hall c hc
  simp only [Bool.and_eq_true, Bool.not_eq_true', decide_eq_true_eq] at hsolid
  obtain ⟨⟨hblank, hname⟩, htick⟩ := hsolid
  cases h with
  | blank h => exact absurd h (by simp [hblank])
  | lineComment slash h => exact absurd h (hcomment slash).1
  | blockComment slash h => exact absurd h (hcomment slash).2
  | name _ h => exact absurd h (by simp [hname])
  | escaped _ tick => exact absurd tick htick
  | number | string | regex => exact ⟨_, rfl, .inr (.inl rfl)⟩
  | arrow _ dash h => exact ⟨_, rfl, .inr (.inr ⟨rfl, dash, h⟩)⟩
  | punct => exact ⟨_, rfl, .inl rfl⟩

end PieceKind

/-- So the first piece of such a text is no name. -/
theorem Cuts.expressionMark {operand : Bool} {c : Char} {rest : Text} {pieces : List Piece}
    (h : Cuts operand (c :: rest) pieces) (hc : c ∈ expressionMarks)
    (hcomment : c = '/' → rest.head? ≠ some '/' ∧ rest.head? ≠ some '*') :
    ∃ token body more, pieces = ⟨.token token, body⟩ :: more ∧
      (token = .punct c ∧ (∃ operand', Cuts operand' rest more) ∨ token = .literal ∨
        token = .arrow ∧ c = '-' ∧ rest.head? = some '>') := by
  generalize ht : c :: rest = t at h
  cases h with
  | nil => cases ht
  | cons front hmore =>
    obtain ⟨rfl, rfl⟩ := List.cons.inj ht
    obtain ⟨token, rfl, rfl | hother⟩ := front.of_expressionMark hc hcomment
    · obtain ⟨-, hbody⟩ := front.punct_eq
      obtain rfl := List.length_eq_zero_iff.1 hbody
      exact ⟨_, _, _, rfl, .inl ⟨rfl, _, hmore⟩⟩
    · exact ⟨_, _, _, rfl, .inr hother⟩

/-- No type goes on with a token that does not touch it, unless the token joins types or begins a
member. -/
theorem ClosesType.of_apart {t : Placed} {ts : List Placed} (hapart : t.touching = false)
    (hname : t.name? = none) (harrow : t.kind ≠ .arrow) (hjoined : t.is '&' = false)
    (hcolon : t.is ':' = false) (hmember : t.is '.' → word? ts = none) : ClosesType (t :: ts) where
  touching := fun c _ => by simp [startsTouching, hapart]
  joined := hjoined
  colon := hcolon
  member := by
    change (if t.is '.' then word? ts else none) = none
    split
    · next hdot => exact hmember hdot
    · rfl
  function := by simp [startsFunction, harrow, hname]

namespace IsExpressionOperator

variable {op rest : Text} (h : IsExpressionOperator op)
  (whole : ∀ d ∈ rest.head?, d ∉ expressionMarks)
include h whole

/-- No comment begins in the operator, nor at its end. -/
theorem no_comment (before : Text) {more : Text} {c : Char} (hop : op = before ++ c :: more) :
    c = '/' → (more ++ rest).head? ≠ some '/' ∧ (more ++ rest).head? ≠ some '*' := by
  rintro rfl
  subst hop
  cases more with
  | nil =>
    exact ⟨fun hd => whole _ hd (by decide), fun hd => whole _ hd (by decide)⟩
  | cons d more =>
    constructor
    · rintro ⟨⟩
      exact h.no_line_comment ⟨before, more, by simp⟩
    · rintro ⟨⟩
      exact h.no_block_comment ⟨before, more, by simp⟩

end IsExpressionOperator

/-- A text that begins with a character of an operator begins with no name. -/
theorem Cuts.word?_eq_none {operand : Bool} {c : Char} {rest : Text} {pieces : List Piece}
    (h : Cuts operand (c :: rest) pieces) (hc : c ∈ expressionMarks)
    (hcomment : c = '/' → rest.head? ≠ some '/' ∧ rest.head? ≠ some '*') (last : Token)
    (offset : Nat) :
    word? (Placed.following (some last) (Piece.tokensFrom offset false pieces)) = none := by
  obtain ⟨token, body, more, rfl, ⟨rfl, -⟩ | rfl | ⟨rfl, -⟩⟩ := h.expressionMark hc hcomment <;> rfl

/-- **No type goes on where an expression goes on after it.** -/
theorem GoesOn.closesType {text : Text} (h : GoesOn text) {operand : Bool} {pieces : List Piece}
    (hcuts : Cuts operand text pieces) (last : Token) :
    ClosesType (Placed.following (some last) (Piece.tokensFrom last.stop false pieces)) := by
  have hapart : ∀ stop : Nat, decide (stop = stop + Text.size [' ']) = false := by
    intro stop
    exact decide_eq_false (Nat.ne_of_lt (Nat.lt_add_of_pos_right (by decide)))
  cases h with
  | @operator op rest operator leaves whole =>
    obtain ⟨pieces, rfl, hop⟩ := hcuts.uncons (.blank (by decide))
    obtain ⟨c, more, rfl⟩ := List.exists_cons_of_ne_nil operator.ne_nil
    obtain ⟨hc, hmore⟩ := List.forall_mem_cons.1 operator.marks
    obtain ⟨token, body, pieces, rfl, htoken⟩ :=
      hop.expressionMark hc (operator.no_comment whole [] rfl)
    rcases htoken with ⟨rfl, operand, hrest⟩ | rfl | ⟨rfl, rfl, harrow⟩
    · have hne : c ≠ ':' ∧ c ≠ '&' := by
        have hall : ∀ c ∈ expressionMarks, c ≠ ':' := by simp [expressionMarks, operatorMarks]
        exact ⟨hall c hc, fun hc => leaves.no_ampersand (congrArg some hc)⟩
      refine .of_apart (hapart _) rfl (by simp) (by simp [Token.is, hne]) (by simp [Token.is, hne])
        fun hdot => ?_
      -- a dot is not the whole of the operator
      obtain rfl : c = '.' := by simpa [Token.is] using hdot
      cases more with
      | nil => exact absurd rfl operator.no_member
      | cons d more =>
        exact hrest.word?_eq_none (hmore d List.mem_cons_self)
          (operator.no_comment whole ['.'] rfl) _ _
    · exact .of_apart (hapart _) rfl (by simp) rfl rfl fun hdot => by cases hdot
    · -- an arrow would be at the front of the operator
      cases more with
      | nil => exact absurd (by decide) (whole '>' harrow)
      | cons d more =>
        cases harrow
        exact absurd ⟨more, rfl⟩ leaves.no_arrow
  | @mark c rest closes =>
    have hfront : PieceKind.Front operand c rest (.token (.punct c)) 0 :=
      PieceKind.front_of_atFront (by rcases closes with rfl | rfl <;> rfl)
    obtain ⟨pieces, rfl, -⟩ := hcuts.uncons hfront
    refine ((EndsType.of_is (c := c) (by simp [Token.is]) ?_ _).parted []).closes
    rcases closes with rfl | rfl <;> decide
  | @block rest =>
    obtain ⟨pieces, rfl, hbrace⟩ := hcuts.uncons (.blank (by decide))
    have hfront : ∀ operand, PieceKind.Front operand '{' rest (.token (.punct '{')) 0 := fun _ =>
      PieceKind.front_of_atFront rfl
    obtain ⟨pieces, rfl, -⟩ := hbrace.uncons (hfront _)
    exact ((EndsType.of_is (c := '{') rfl (by decide) _).parted []).closes

/-! ## A condition that begins with a cast -/

/-- The condition `if subject as target`, with the cast operator `operator`. -/
def conditionGlyphs (subject : String) (operator : CastOperator) (target : TypeExpr) :
    List Glyph :=
  (Glyph.word "if").onLine :: .word subject :: spaced (Item.cast 0 operator target).glyphs

section condition

variable {subject : String} {target : TypeExpr} {operator : CastOperator}

theorem legible_conditionGlyphs (operator : CastOperator) (plain : IsPlainName subject)
    (canonical : target.Canonical .whole) :
    Legible false 0 (conditionGlyphs subject operator target) := by
  have hcast : (Item.cast 0 operator target).Canonical := .cast canonical
  have hsound : Sound (conditionGlyphs subject operator target) :=
    .cons (Glyph.quiet_of_isName (by decide) (by decide)) (.cons plain.quiet hcast.sound.spaced)
  simpa using hsound .nil

/-- The tokens of a condition: its first two words, the word of the cast and the cast. -/
theorem written_conditionGlyphs {ts : List Placed}
    (h : Written (conditionGlyphs subject operator target) ts) :
    ∃ first second word us, ts = first :: second :: word :: us ∧ first.kind = .ident "if" ∧
      second.kind = .ident subject ∧ word.kind = .ident operator.word ∧
      Written (operator.glyphs.tail ++ target.glyphs) us := by
  have hglyphs : spaced (Item.cast 0 operator target).glyphs =
      ⟨.ident operator.word, .space⟩ :: (operator.glyphs.tail ++ target.glyphs) := by
    cases operator <;> rfl
  rw [conditionGlyphs, hglyphs] at h
  rcases h with _ | ⟨hfirst, _ | ⟨hsecond, _ | ⟨hword, hmore⟩⟩⟩
  exact ⟨_, _, _, _, rfl, hfirst.kind, hsecond.kind, hword.kind, hmore⟩

/-- No item begins with the words before the cast. -/
theorem Placed.Idle.of_ident {t : Placed} {name : String} (h : t.kind = .ident name)
    (hname : name ∉ itemKeywords) : t.Idle := by
  have hno : ∀ c, t.is c = false := Token.is_eq_false_of_name? (by simp [Token.name?, h])
  refine ⟨hno '{', hno '}', hno '@', fun word hword => ?_⟩
  obtain rfl : name = word := by simpa [Token.name?, h] using hword
  exact hname

theorem IsPlainName.not_keyword {name : String} (h : IsPlainName name) : name ∉ itemKeywords := by
  have hfree := h.free
  simp only [reservedWords, itemKeywords, List.mem_append, not_or] at hfree ⊢
  refine ⟨hfree.1.1, fun hmem => hfree.2 ?_⟩
  have hsub : ∀ w ∈ ["as", "is"], w ∈ ["as", "is", "where", "async", "throws", "rethrows"] := by
    decide
  exact hsub name hmem

/-- The third token of a text is a member if the second is a dot. -/
theorem afterDot_of_ofTokens {tokens : List Token} {first second third : Placed}
    {ts : List Placed} (h : Placed.ofTokens tokens = first :: second :: third :: ts) :
    third.afterDot = second.is '.' := by
  match tokens, h with
  | _ :: _ :: _ :: _, h =>
    cases h
    rfl

namespace TokenParser

variable {after ts : List Placed} {n : Nat}

theorem readsOn_castOperator (operator : CastOperator) :
    ReadsOn after (castOperator operator) ts := by
  cases operator with
  | cast =>
    refine readsOn_optionalMark?.bind advancesIfFound_optionalMark?.splits fun mark rest _ => ?_
    rcases mark with _ | _ | _ <;> exact .pure
  | optionalCast | forcedCast | test => exact .pure

/-- A cast stands where its word does. -/
theorem castExpr_cons (n : Nat) (operator : CastOperator) (t : Placed) (ts : List Placed) :
    castExpr n operator (t :: ts) = (do
      let operator ← castOperator operator
      return [.cast t.start operator (← typeExpr n)] : TokenParser (List Item)) ts := rfl

/-- **A cast is read in front of whatever no type goes on with.** -/
theorem item_of_cast (canonical : target.Canonical .whole) {t : Placed} {us : List Placed}
    (hword : t.kind = .ident operator.word) (hdot : t.afterDot = false)
    (written : Written (operator.glyphs.tail ++ target.glyphs) us) (closes : ClosesType after) :
    ∃ found, found.unplaced = target.unplaced ∧ ∀ n, 16 * (t :: (us ++ after)).length + 10 ≤ n →
      item n (t :: (us ++ after)) = .ok (some [.cast t.start operator found], after) := by
  have hparted : Parted us after :=
    (canonical.finishes.append operator.glyphs.tail).parted written closes
  have hhead : ∀ g ∈ target.glyphs.head?, g.kind ≠ .punct '?' ∧ g.kind ≠ .punct '!' := by
    rw [← List.append_nil target.glyphs]
    exact head_ne_castMark canonical
  obtain ⟨_, ts, hmark, hfound, hts⟩ := reads_castOperator operator hhead written
  rw [hfound] at hmark
  have hlen : ts.length ≤ us.length := by
    rw [hts.length_eq, written.length_eq, List.length_append]
    omega
  obtain ⟨target', hsame, htype⟩ :=
    canonical.typeExpr_of_written (n := 16 * (t :: (us ++ after)).length + 9) hts closes
      (by simp only [List.length_cons, List.length_append]; omega)
  refine ⟨target', hsame, fun n hn => ?_⟩
  rw [(itemReadersSettle _).item n _ hn (Nat.le_refl _)]
  have hcast : castExpr (16 * (t :: (us ++ after)).length + 9) operator.wordAlone
      (t :: (us ++ after)) = .ok ([.cast t.start operator target'], after) := by
    rw [castExpr_cons, bind_of_eq_ok (readsOn_castOperator operator.wordAlone hparted hmark)]
    exact bind_of_eq_ok htype
  have hlook : look castWord? (t :: (us ++ after)) =
      .ok (some operator.wordAlone, t :: (us ++ after)) := by
    rw [look, castWord?_of_word hword hdot]
  refine (bind_of_eq_ok hlook).trans ?_
  change (castExpr _ operator.wordAlone >>= fun found => pure (some found)) _ = _
  exact bind_of_eq_ok hcast

end TokenParser

/-- The tokens of a text that begins with a condition: those of the condition, and tokens with which
no type goes on. -/
theorem tokens_of_condition (plain : IsPlainName subject) (canonical : target.Canonical .whole)
    (loose : Nat → Bool) {text : Text} (goes_on : GoesOn text) {tokens : List Token}
    (htokens : tokenize (render loose (conditionGlyphs subject operator target) ++ text) =
      .ok tokens) :
    ∃ before after, Placed.ofTokens tokens = before ++ after ∧
      Written (conditionGlyphs subject operator target) before ∧ ClosesType after := by
  have legible := legible_conditionGlyphs operator plain canonical
  obtain ⟨operand, hcut⟩ := cut_render_append loose legible goes_on.endsName
  rw [conditionGlyphs, tokenize, hcut] at htokens
  split at htokens
  · next pieces hpieces =>
    obtain ⟨more, rfl, hmore⟩ := cutFrom_eq_ok.1 hpieces
    obtain ⟨before, last, hbefore, hwritten⟩ := written_render_append loose legible rfl more
    cases htokens
    rw [List.reverse_reverse]
    exact ⟨before, _, hbefore, hwritten, goes_on.closesType hmore last⟩
  · cases htokens

/-- A condition has no braces of its own. -/
theorem braces_of_condition (plain : IsPlainName subject) (canonical : target.Canonical .whole)
    {tokens : List Token} {before after : List Placed}
    (hsplit : Placed.ofTokens tokens = before ++ after)
    (written : Written (conditionGlyphs subject operator target) before) :
    BracesBalanced tokens ↔ BracesBalanced (after.map (·.toToken)) := by
  have hall : tokens = before.map (·.toToken) ++ after.map (·.toToken) := by
    rw [← List.map_append, ← hsplit]
    exact (Placed.map_toToken_following none tokens).symm
  rw [← closes_zero_iff, ← closes_zero_iff, hall]
  exact (legible_conditionGlyphs operator plain canonical).closes_append written 0 _

open TokenParser in
/-- **A cast is recorded whatever the expression does next**, unless that begins with an operator
that would join its type to another or make it a function type: it is the first item of the file,
its target is the one that is written, and every tuple of that is observed. The file can be read
if the braces after the cast are balanced, among the tokens and among those at which loops over
items stand; these are the same braces where no item begins. -/
theorem cast_recorded (plain : IsPlainName subject) (canonical : target.Canonical .whole)
    (loose : Nat → Bool) {text : Text} (goes_on : GoesOn text) {tokens : List Token}
    (htokens : tokenize (render loose (conditionGlyphs subject operator target) ++ text) =
      .ok tokens) :
    let source := render loose (conditionGlyphs subject operator target) ++ text
    ∃ before after start found, Placed.ofTokens tokens = before ++ after ∧
      Written (conditionGlyphs subject operator target) before ∧
      found.unplaced = target.unplaced ∧
      LoopReads (Placed.ofTokens tokens) [.cast start operator found] after ∧
      (∀ file, SourceFile.parse source = .ok file →
        (∃ others, file.items = .cast start operator found :: others) ∧
          (Node.type found).observations <:+: file.observations) ∧
      ((SourceFile.parse source).isOk ↔
        BracesBalanced (after.map (·.toToken)) ∧ BracesBalanced (outside after)) ∧
      ((∀ t ∈ after, t.is '{' ∨ t.is '}' ∨ t.Idle) →
        ((SourceFile.parse source).isOk ↔ BracesBalanced (after.map (·.toToken)))) := by
  intro source
  obtain ⟨before, after, hsplit, hwritten, hcloses⟩ :=
    tokens_of_condition plain canonical loose goes_on htokens
  obtain ⟨first, second, word, us, rfl, hfirst, hsecond, hword, hus⟩ :=
    written_conditionGlyphs hwritten
  have hdot : word.afterDot = false := by
    rw [afterDot_of_ofTokens hsplit, Token.is, hsecond]
    rfl
  obtain ⟨found, hsame, hitem⟩ := item_of_cast canonical hword hdot hus hcloses
  have hloop : LoopReads (Placed.ofTokens tokens) [.cast word.start operator found] after := by
    have hwords : ∀ t ∈ [first, second], t.Idle := by
      simpa using ⟨Placed.Idle.of_ident hfirst (by decide), .of_ident hsecond plain.not_keyword⟩
    have hidle : LoopReads (first :: second :: word :: (us ++ after)) [] (word :: (us ++ after)) :=
      .of_idle hwords _
    rw [hsplit]
    refine hidle.trans (.of_item ?_ ?_ hitem (by simp))
    all_goals simp [Token.is, hword]
  have hok := hloop.parse_isOk htokens
  rw [braces_of_condition plain canonical hsplit hwritten] at hok
  refine ⟨_, after, word.start, found, hsplit, hwritten, hsame, hloop, fun file hfile => ?_, hok,
    fun hidle => ?_⟩
  · obtain ⟨-, others, rest, -, hitems⟩ := (hloop.parse_eq_ok htokens).1 hfile
    have hmem : .cast word.start operator found ∈ file.items := by
      rw [hitems]
      exact List.mem_cons_self
    have hinside : (Node.type found).observations <:+:
        (Node.item (.cast word.start operator found)).observations :=
      Node.observations_infix (by simp [Node.children, Node.insideItem])
    exact ⟨⟨others, hitems⟩, hinside.trans (Node.item_observations_infix hmem)⟩
  · rw [hok, ← closes_zero_iff, ← closes_zero_iff, closes_outside hidle, and_self_iff]

end condition

/-- Names in a tuple are canonical. -/
theorem canonical_tuple_of_names {names : List String} (h : ∀ name ∈ names, IsPlainName name) :
    (TypeExpr.tuple 0 (names.map fun name => ⟨none, .named 0 name []⟩)).Canonical .whole := by
  refine .whole (.composed (.single (.tuple ?_ ?_)))
  · simp
  · simp only [List.mem_map]
    rintro e ⟨name, hname, rfl⟩
    exact .whole (.composed (.single (.named (h name hname) (by simp))))

/-- A tuple is recorded before a disjunction. -/
theorem cast_before_or_recorded :
    let target : TypeExpr := .tuple 0 (["A", "B", "C"].map fun name => ⟨none, .named 0 name []⟩)
    let condition : Text :=
      render (fun n => [1, 3, 6].contains n) (conditionGlyphs "x" .optionalCast target)
    condition = "if x as? (A, B, C)".toList ∧ IsPlainName "x" ∧ target.Canonical .whole ∧
      GoesOn " || y \x7b\x7d".toList ∧ (tokenize (condition ++ " || y \x7b\x7d".toList)).isOk ∧
      ∃ file start found others,
        SourceFile.parse (condition ++ " || y \x7b\x7d".toList) = .ok file ∧
          file.items = .cast start .optionalCast found :: others ∧
            found.unplaced = target.unplaced := by
  intro target condition
  have plain : IsPlainName "x" := by decide
  have canonical : target.Canonical .whole := canonical_tuple_of_names (by decide)
  have operator : IsExpressionOperator ['|', '|'] :=
    ⟨by simp, by simp [expressionMarks, operatorMarks], by decide, by decide, by simp⟩
  have whole : ∀ c ∈ " y \x7b\x7d".toList.head?, c ∉ expressionMarks := by
    simp [expressionMarks, operatorMarks]
  have goes_on : GoesOn " || y \x7b\x7d".toList := .operator operator ⟨by simp, by decide⟩ whole
  have htokens : (tokenize (condition ++ " || y \x7b\x7d".toList)).isOk := by decide +kernel
  have hparse : (SourceFile.parse (condition ++ " || y \x7b\x7d".toList)).isOk := by decide +kernel
  refine ⟨by decide +kernel, plain, canonical, goes_on, htokens, ?_⟩
  cases hcut : tokenize (condition ++ " || y \x7b\x7d".toList) with
  | error e =>
    rw [hcut] at htokens
    cases htokens
  | ok tokens =>
    obtain ⟨_, _, start, found, _, _, hsame, _, hfile, _⟩ :=
      cast_recorded plain canonical _ goes_on hcut
    cases hread : SourceFile.parse (condition ++ " || y \x7b\x7d".toList) with
    | error e =>
      rw [hread] at hparse
      cases hparse
    | ok file =>
      obtain ⟨⟨others, hitems⟩, -⟩ := hfile file hread
      exact ⟨file, start, found, others, rfl, hitems, hsame⟩

/-- **An operator that begins with an ampersand hides a cast.** The cast before a conjunction is not
found, nor is the tuple that is its target. -/
theorem cast_before_and_lost :
    let target : TypeExpr := .tuple 0 (["A", "B", "C"].map fun name => ⟨none, .named 0 name []⟩)
    let condition : Text := render (fun n => [1, 3, 6].contains n)
      (conditionGlyphs "x" .cast target)
    condition = "if x as (A, B, C)".toList ∧ IsPlainName "x" ∧ target.Canonical .whole ∧
      IsExpressionOperator ['&', '&'] ∧
      (SourceFile.parse (condition ++ " && y \x7b\x7d".toList)).map (·.items.map Item.isBlock) =
        .ok [true] ∧
      (SourceFile.parse (condition ++ " && y \x7b\x7d".toList)).map (·.observations) = .ok [] ∧
      (SourceFile.parse (condition ++ " || y \x7b\x7d".toList)).map (·.items.map Item.isBlock) =
        .ok [false, true] ∧
      (SourceFile.parse (condition ++ " || y \x7b\x7d".toList)).map (·.observations) =
        .ok [⟨8, 3, 0⟩] :=
  ⟨by decide +kernel, by decide, canonical_tuple_of_names (by decide),
    ⟨by simp, by simp [expressionMarks, operatorMarks], by decide, by decide, by simp⟩,
    by decide +kernel, by decide +kernel, by decide +kernel, by decide +kernel⟩

end SwiftTuples
