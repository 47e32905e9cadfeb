import SwiftTuples.Tuple
import SwiftTuples.Proofs.Printing.RoundTrip
/-!
# Functions named by operators

The name of a function may be an operator, which is cut into its characters. The reader of the name
joins them again, up to the parenthesis after it; but an angle bracket that is not the first of them
opens generic parameters. So a function is read back under an operator with no such bracket, and
under no other one: no function that is read at all has such a name.
-/

namespace SwiftTuples

open TokenParser

/-- The characters of operators. -/
def operatorMarks : List Char :=
  ['/', '=', '-', '+', '!', '*', '%', '<', '>', '&', '|', '^', '~', '?']

/-- An operator that a function can have for its name: no arrow and no comment begins in it, and no
two slashes can enclose an expression. -/
structure IsOperator (op : Text) : Prop where
  ne_nil : op ≠ []
  marks : ∀ c ∈ op, c ∈ operatorMarks
  no_arrow : ¬ ['-', '>'] <:+: op
  no_comment : ¬ ['/', '*'] <:+: op
  one_slash : op.count '/' ≤ 1

/-! ## Cutting an operator -/

/-- The pieces of an operator. -/
def operatorPieces (op : Text) : List Piece := op.map fun c => ⟨.token (.punct c), [c]⟩

/-- No regular expression is closed where there is no slash. -/
theorem Literal.regexBody_eq_none {hashes seen : Nat} {t : Text} (h : '/' ∉ t) :
    regexBody hashes seen t = none := by
  fun_induction regexBody hashes seen t with
  | case1 | case2 | case4 => rfl
  | case3 seen c rest ih =>
    simp only [List.mem_cons, not_or] at h
    exact ih h.2.2
  | case5 seen c rest _ _ _ hslash =>
    simp only [Bool.and_eq_true, decide_eq_true_eq] at hslash
    exact absurd (hslash.1 ▸ List.mem_cons_self) h
  | case6 seen c rest _ _ _ _ ih => exact ih fun hmem => h (List.mem_cons_of_mem _ hmem)

/-- A slash is cut off alone, if it begins no comment and no other slash follows. -/
theorem PieceKind.atFront_slash {rest : Text} (hcomment : rest.head? ≠ some '*')
    (hslash : '/' ∉ rest) (operand : Bool) :
    atFront operand '/' rest = .ok (.token (.punct '/'), 0) := by
  have hnone : Literal.regex ('/' :: rest) = none := by
    have hbody : Literal.regexBody 0 1 rest = none := Literal.regexBody_eq_none hslash
    simp [Literal.regex, Literal.hashes, hbody]
  have hhead : rest.head? ≠ some '/' := fun hhead => hslash (List.mem_of_mem_head? hhead)
  rw [atFront, if_neg (by decide), if_neg (by simp [hhead]), if_neg (by simp [hcomment]),
    if_neg (by decide), if_neg (by decide), if_neg (by decide), if_neg (by simp)]
  cases operand <;> simp [hnone]

/-- A character of an operator is cut off alone, if it begins neither an arrow nor a comment and no
slash follows one. -/
theorem PieceKind.atFront_operatorMark {c : Char} {rest : Text} (hc : c ∈ operatorMarks)
    (harrow : c = '-' → rest.head? ≠ some '>') (hcomment : c = '/' → rest.head? ≠ some '*')
    (hslash : c = '/' → '/' ∉ rest) (operand : Bool) :
    atFront operand c rest = .ok (.token (.punct c), 0) := by
  simp only [operatorMarks, List.mem_cons, List.not_mem_nil, or_false] at hc
  rcases hc with rfl | rfl | rfl | rfl | rfl | rfl | rfl | rfl | rfl | rfl | rfl | rfl | rfl | rfl
  · exact atFront_slash (hcomment rfl) (hslash rfl) operand
  · rfl
  · have hhead := harrow rfl
    rw [atFront, if_neg (by decide), if_neg (by simp), if_neg (by simp), if_neg (by decide),
      if_neg (by decide), if_neg (by decide), if_neg (by simp)]
    simp [hhead]
  all_goals rfl

/-- **An operator is cut into its characters.** -/
theorem Piece.cutFrom_operator {op rest : Text} (hmarks : ∀ c ∈ op, c ∈ operatorMarks)
    (harrow : ¬ ['-', '>'] <:+: op) (hcomment : ¬ ['/', '*'] <:+: op) (hslash : op.count '/' ≤ 1)
    (hhead : ∀ c ∈ rest.head?, c = ' ' ∨ c = '(') (hrest : '/' ∉ rest) (operand : Bool)
    (done : List Piece) :
    ∃ operand', cutFrom operand done (op ++ rest) =
      cutFrom operand' ((operatorPieces op).reverse ++ done) rest := by
  induction op generalizing operand done with
  | nil => exact ⟨operand, rfl⟩
  | cons c op ih =>
    rw [List.forall_mem_cons] at hmarks
    -- what comes next is the next character of the operator or the first one after it
    have hnext : ∀ d, d ≠ ' ' → d ≠ '(' → ¬ [c, d] <:+: c :: op → (op ++ rest).head? ≠ some d := by
      intro d hspace hparen hinfix hd
      cases op with
      | nil => exact (hhead d hd).elim hspace hparen
      | cons e op =>
        cases hd
        exact hinfix ⟨[], op, rfl⟩
    have hno : c = '/' → '/' ∉ op ++ rest := by
      rintro rfl
      rw [List.count_cons_self] at hslash
      have : '/' ∉ op := List.count_eq_zero.1 (by omega)
      simpa [hrest] using this
    have hfront := PieceKind.atFront_operatorMark hmarks.1
      (fun hc => hnext '>' (by decide) (by decide) (hc ▸ harrow))
      (fun hc => hnext '*' (by decide) (by decide) (hc ▸ hcomment)) hno operand
    have hinfix : ∀ {l : Text}, l <:+: op → l <:+: c :: op := fun h =>
      h.trans (List.suffix_cons c op).isInfix
    obtain ⟨operand', hmore⟩ := ih hmarks.2 (mt hinfix harrow) (mt hinfix hcomment)
      ((List.count_le_count_cons ..).trans hslash) ((TokenKind.punct c).beforeOperand)
      (⟨.token (.punct c), [c]⟩ :: done)
    refine ⟨operand', ?_⟩
    rw [List.cons_append, cutFrom, hfront]
    simp only [List.take_zero, List.drop_zero, PieceKind.beforeOperand]
    rw [hmore]
    simp [operatorPieces]

/-- A word is made of letters and digits. -/
theorem not_mem_of_isWord {t : Text} (h : isWord t) {c : Char} (hc : ¬ isWordPart c) : c ∉ t := by
  cases t with
  | nil => simp
  | cons d t =>
    rw [isWord, Bool.and_eq_true, List.all_eq_true] at h
    have hd : isWordPart d := by
      have hstart := h.1
      simp only [isWordStart, isWordPart, Bool.or_eq_true] at hstart ⊢
      exact hstart.imp isAlphanum_of_isAlpha id
    rintro (_ | ⟨_, hmem⟩)
    · exact hc hd
    · exact hc (h.2 _ hmem)

/-- No slash is printed. -/
theorem slash_not_mem_renderAfter (loose : Nat → Bool) {afterName afterDot : Bool} {pending : Nat}
    {gs : List Glyph} (h : Legible afterDot pending gs) : '/' ∉ renderAfter loose afterName gs := by
  induction gs generalizing afterName afterDot pending with
  | nil => simp [renderAfter]
  | cons g gs ih =>
    obtain ⟨⟨hprintable, -⟩, -, _, hmore⟩ := h.uncons
    have hlead : '/' ∉ g.lead (loose gs.length) afterName := by
      unfold Glyph.lead
      cases g.gap with
      | nothing | space | line => simp
      | free =>
        dsimp only
        split <;> simp
    have hprinted : '/' ∉ g.kind.printed := by
      cases hkind : g.kind with
      | literal | arrow => simp [TokenKind.printed]
      | punct c =>
        rw [hkind] at hprintable
        rintro hmem
        obtain rfl : '/' = c := by simpa [TokenKind.printed] using hmem
        cases hprintable
      | ident name =>
        rw [hkind] at hprintable
        exact not_mem_of_isWord hprintable (by decide)
    rw [renderAfter]
    simp [hlead, hprinted, ih hmore]

/-! ## The tokens of an operator -/

theorem ne_dot_of_mem_operatorMarks {c : Char} (h : c ∈ operatorMarks) :
    c ≠ '.' ∧ c ≠ '(' ∧ c ≠ '{' ∧ c ≠ '}' := by
  have hall : ∀ c ∈ operatorMarks, c ≠ '.' ∧ c ≠ '(' ∧ c ≠ '{' ∧ c ≠ '}' := by
    simp [operatorMarks]
  exact hall c h

/-- The tokens of an operator, and of what is printed after it. -/
theorem written_operator (loose : Nat → Bool) {op : Text} (hne : op ≠ [])
    (hmarks : ∀ c ∈ op, c ∈ operatorMarks) {pending : Nat} {gs : List Glyph}
    (h : Legible false pending gs) (before : Token) (offset : Nat) (afterName : Bool) :
    Written (op.map .mark ++ gs) (Placed.following (some before) (Piece.tokensFrom offset false
      (operatorPieces op ++ piecesAfter loose afterName gs))) := by
  induction op generalizing before offset with
  | nil => exact absurd rfl hne
  | cons c op ih =>
    rw [List.forall_mem_cons] at hmarks
    have hfirst : ∀ t : Placed, t.kind = .punct c → t.newlineBefore = false →
        (Glyph.mark c).Matches t := fun t hkind hnewline => {
      kind := hkind
      newline := hnewline
      touching := fun hgap => by cases hgap
      apart := fun hgap => by rcases hgap with hgap | hgap <;> cases hgap
      afterDot := fun hgap => by cases hgap }
    refine .cons (hfirst _ rfl rfl) ?_
    cases op with
    | nil =>
      have hdot : ∀ stop newline, Legible (Token.is ⟨.punct c, offset, stop, newline⟩ '.') pending
          gs := by
        simpa [Token.is, ne_dot_of_mem_operatorMarks hmarks.1] using h
      exact written_piecesAfter loose _ (hdot _ _) afterName
    | cons d op => exact ih (List.cons_ne_nil d op) hmarks.2 ⟨.punct c, offset, _, _⟩ _

/-- Marks that are no braces leave the braces after them as they are. -/
theorem closes_marks {op : Text} (hmarks : ∀ c ∈ op, c ∈ operatorMarks) {gs : List Glyph}
    {ts : List Placed} (h : Written (op.map .mark ++ gs) ts) {pending : Nat}
    (hrest : ∀ us, Written gs us → Closes pending (us.map (·.toToken))) :
    Closes pending (ts.map (·.toToken)) := by
  induction op generalizing ts with
  | nil => exact hrest ts h
  | cons c op ih =>
    rw [List.forall_mem_cons] at hmarks
    rcases h with _ | ⟨first, more⟩
    have hc := ne_dot_of_mem_operatorMarks hmarks.1
    rw [List.map_cons, Closes, if_neg (by simp [first.is, Glyph.mark, hc]),
      if_neg (by simp [first.is, Glyph.mark, hc])]
    exact ih hmarks.2 more

/-- The braces of a function are closed in its tokens, whatever operator is its name. -/
theorem closes_operator {op : Text} (hop : IsOperator op) {gs : List Glyph}
    (h : Legible false 0 gs) {ts : List Placed}
    (hts : Written ((Glyph.word "func").onLine :: (op.map .mark ++ gs)) ts) :
    Closes 0 (ts.map (·.toToken)) := by
  rcases hts with _ | ⟨first, more⟩
  rw [List.map_cons, Closes, if_neg (by simp [first.is, Glyph.word, Glyph.onLine]),
    if_neg (by simp [first.is, Glyph.word, Glyph.onLine])]
  exact closes_marks hop.marks more fun us hus => h.closes hus

namespace TokenParser

variable {gs : List Glyph} {op : Text}

/-- The characters of an operator are joined up to the parenthesis after it. -/
theorem operatorName_of_written (hmarks : ∀ c ∈ op, c ∈ operatorMarks)
    (hgs : ∀ g ∈ gs.head?, g.kind = .punct '(') {isFirst : Bool}
    (hangle : '<' ∉ if isFirst then op.tail else op) {ts : List Placed}
    (hts : Written (op.map .mark ++ gs) ts) :
    ∃ rest, operatorName isFirst ts = (op, rest) ∧ Written gs rest := by
  induction op generalizing isFirst ts with
  | nil =>
    cases hts with
    | nil => exact ⟨[], rfl, .nil⟩
    | @cons g _ t us first more =>
      have hkind : t.kind = .punct '(' := first.kind.trans (hgs g rfl)
      exact ⟨t :: us, by simp [operatorName, hkind], .cons first more⟩
  | cons c op ih =>
    rw [List.forall_mem_cons] at hmarks
    rcases hts with _ | @⟨_, _, t, us, first, more⟩
    have hno := ne_dot_of_mem_operatorMarks hmarks.1
    have hc : ¬ (c = '<' ∧ isFirst = false) := by
      rintro ⟨rfl, rfl⟩
      exact hangle List.mem_cons_self
    have htail : '<' ∉ if false then op.tail else op := by
      cases isFirst with
      | true => exact hangle
      | false => exact fun h => hangle (List.mem_cons_of_mem c h)
    obtain ⟨rest, hrest, hwritten⟩ := ih hmarks.2 htail more
    refine ⟨rest, ?_, hwritten⟩
    have hkind : t.kind = .punct c := first.kind
    rw [operatorName, hkind]
    simp [hno, hc, hrest]

theorem reads_functionName_operator (hop : op ≠ []) (hmarks : ∀ c ∈ op, c ∈ operatorMarks)
    (hgs : ∀ g ∈ gs.head?, g.kind = .punct '(') (hangle : '<' ∉ op.tail) :
    Reads (functionName "func") (op.map .mark ++ gs) (· = String.ofList op) gs := by
  refine .ite_pos rfl ?_
  intro ts hts
  have hangle : '<' ∉ if true then op.tail else op := hangle
  obtain ⟨rest, hname, hwritten⟩ := operatorName_of_written hmarks hgs hangle hts
  have hnone : name? ts = .ok (none, ts) := by
    obtain ⟨c, op, rfl⟩ := List.exists_cons_of_ne_nil hop
    rcases hts with _ | @⟨_, _, t, us, first, more⟩
    have hkind : t.kind = .punct c := first.kind
    simp [name?, Token.name?, hkind]
  have hoperator : operator ts = .ok (String.ofList op, rest) := by
    rw [operator, hname]
  exact ⟨_, rest, (bind_of_eq_ok hnone).trans hoperator, rfl, hwritten⟩

end TokenParser

section functions

variable {position : Nat} {op : Text} {parameters : List Parameter} {effects : Effects}
  {result : Option TypeExpr} {requirements : List Requirement} {body : Option (Block Item)}

/-- What follows the name of a canonical function is legible, whatever the name is. -/
theorem legible_signatureGlyphs (canonical_parameters : ∀ p ∈ parameters, p.Canonical)
    (canonical_result : ∀ t ∈ result, t.Canonical .whole)
    (canonical_requirements : ∀ r ∈ requirements, r.Canonical)
    (inside : ∀ b ∈ body, ∀ i ∈ b.items, i.Canonical) (apart : ∀ b ∈ body, Item.Apart b.items) :
    Legible false 0 (Item.signatureGlyphs parameters effects result requirements body) := by
  have canonical : (Item.function 0 "f" parameters effects result requirements body).Canonical :=
    .function (by decide) canonical_parameters canonical_result canonical_requirements inside apart
  have h := canonical.sound .nil
  rw [List.append_nil, Item.glyphs_function] at h
  cases h with
  | other _ _ _ _ more =>
    cases more with
    | other _ _ _ _ more => exact more

/-- The text of a function named by an operator is cut into the tokens of the operator and those of
what follows it. -/
theorem written_of_tokenize_operator (position : Nat) (loose : Nat → Bool) (hop : IsOperator op)
    (legible : Legible false 0 (Item.signatureGlyphs parameters effects result requirements body)) :
    ∃ tokens, tokenize (printItems loose [.function position (String.ofList op) parameters effects
        result requirements body]) = .ok tokens ∧
      Written ((Glyph.word "func").onLine :: (op.map .mark ++
        Item.signatureGlyphs parameters effects result requirements body))
        (Placed.ofTokens tokens) := by
  generalize hsignature : Item.signatureGlyphs parameters effects result requirements body =
    signature at legible
  have hprinted : printItems loose [.function position (String.ofList op) parameters effects
      result requirements body] =
      "func".toList ++ ' ' :: (op ++ renderAfter loose true signature) := by
    rw [printItems, Item.listGlyphs, Item.listGlyphs, List.append_nil, Item.glyphs_function,
      hsignature, render, renderAfter]
    simp [TokenKind.printed, Glyph.word, Glyph.onLine, Glyph.lead, TokenKind.isName]
  have hfirst : ∀ c ∈ (renderAfter loose true signature).head?, c = ' ' ∨ c = '(' := by
    subst hsignature
    intro c hc
    have hlead : ∀ l, (Glyph.mark '(').lead l true = if l then [' '] else [] := by
      intro l
      cases l <;> rfl
    rw [Item.signatureGlyphs, renderAfter, hlead] at hc
    split at hc
    · exact .inl (Option.some.inj hc).symm
    · exact .inr (Option.some.inj hc).symm
  have hendsName : EndsName (' ' :: (op ++ renderAfter loose true signature)) := by
    rintro c ⟨⟩
    decide
  obtain ⟨operand, hoperator⟩ := Piece.cutFrom_operator hop.marks hop.no_arrow hop.no_comment
    hop.one_slash hfirst (slash_not_mem_renderAfter loose legible) false
    [⟨.blank, [' ']⟩, ⟨.token (.ident "func"), "func".toList⟩]
  have hcut : Piece.cut ("func".toList ++ ' ' :: (op ++ renderAfter loose true signature)) =
      .ok (⟨.token (.ident "func"), "func".toList⟩ :: ⟨.blank, [' ']⟩ ::
        (operatorPieces op ++ piecesAfter loose true signature)) := by
    have hprintable : (TokenKind.ident "func").printable := rfl
    have hfunc := Piece.cutFrom_printed hprintable (fun _ => hendsName) true []
    have hblank := Piece.cutFrom_lead ⟨.punct '(', .space⟩ true true false
      [⟨.token (.ident "func"), "func".toList⟩] (op ++ renderAfter loose true signature)
    rw [Piece.cut]
    refine hfunc.trans (hblank.trans (hoperator.trans ?_))
    rw [cutFrom_renderAfter loose legible]
    simp
  refine ⟨_, by rw [hprinted, tokenize, hcut], .cons ?_ ?_⟩
  · exact {
      kind := rfl
      newline := rfl
      touching := fun hgap => by cases hgap
      apart := fun _ => by simp
      afterDot := fun _ => by simp }
  · exact written_operator loose hop.ne_nil hop.marks legible _ _ true

/-- **A function is read back under an operator** in which no angle bracket comes later than
first. -/
theorem reads_item_operator (hop : IsOperator op) (hangle : '<' ∉ op.tail)
    (canonical_parameters : ∀ p ∈ parameters, p.Canonical)
    (canonical_result : ∀ t ∈ result, t.Canonical .whole)
    (canonical_requirements : ∀ r ∈ requirements, r.Canonical)
    (inside : ∀ b ∈ body, ∀ i ∈ b.items, i.Canonical) (apart : ∀ b ∈ body, Item.Apart b.items)
    {gs : List Glyph} {n : Nat} (hgs : Stops Ends.line gs)
    (hopen : body = none → ∀ g ∈ gs.head?, g.kind ≠ .punct '{')
    (hn : 16 * ((Item.signatureGlyphs parameters effects result requirements body).length +
      gs.length) ≤ n) :
    Reads (item (n + 3)) ((Glyph.word "func").onLine :: (op.map .mark ++
        (Item.signatureGlyphs parameters effects result requirements body ++ gs)))
      (fun found => found.map (·.map Item.unplaced) = some [(Item.function position
        (String.ofList op) parameters effects result requirements body).unplaced]) gs := by
  rintro ts (_ | @⟨_, _, t, ts, first, more⟩)
  have hkeyword : t.isWord "func" := by
    have hkind : t.kind = .ident "func" := first.kind
    simp [Token.isWord, hkind]
  have hdot : t.afterDot = false := by simpa using first.afterDot rfl
  have hne : String.ofList op ≠ "" := fun h => hop.ne_nil (String.ofList_eq_empty_iff.1 h)
  rw [item_of_func hkeyword hdot, function_succ]
  have hread : Reads (do
      let name ← functionName "func"
      if name = "" then return none
      signature n t.start name) (op.map .mark ++
        (Item.signatureGlyphs parameters effects result requirements body ++ gs))
      (fun found => found.map (·.map Item.unplaced) = some [(Item.function position
        (String.ofList op) parameters effects result requirements body).unplaced]) gs := by
    refine (reads_functionName_operator hop.ne_nil hop.marks ?_ hangle).bind_known ?_
    · intro g hg
      cases hg
      rfl
    · exact .ite_neg hne (Item.reads_signature canonical_parameters canonical_result
        canonical_requirements (fun b hb i hi => (inside b hb i hi).readBack) apart hgs hopen hn _)
  exact hread more

/-- Such a function is the only item of a text in which it stands alone. -/
theorem reads_items_operator (hop : IsOperator op) (hangle : '<' ∉ op.tail)
    (canonical_parameters : ∀ p ∈ parameters, p.Canonical)
    (canonical_result : ∀ t ∈ result, t.Canonical .whole)
    (canonical_requirements : ∀ r ∈ requirements, r.Canonical)
    (inside : ∀ b ∈ body, ∀ i ∈ b.items, i.Canonical) (apart : ∀ b ∈ body, Item.Apart b.items)
    {n : Nat}
    (hn : 16 * (Item.signatureGlyphs parameters effects result requirements body).length ≤ n + 1) :
    Reads (items (n + 5) false []) ((Glyph.word "func").onLine :: (op.map .mark ++
        Item.signatureGlyphs parameters effects result requirements body))
      (·.map Item.unplaced = [(Item.function position (String.ofList op) parameters effects result
        requirements body).unplaced]) [] := by
  have hitem : Reads (item (n + 4)) ((Glyph.word "func").onLine :: (op.map .mark ++
      (Item.signatureGlyphs parameters effects result requirements body ++ [])))
      (fun found => found.map (·.map Item.unplaced) = some [(Item.function position
        (String.ofList op) parameters effects result requirements body).unplaced]) [] :=
    reads_item_operator hop hangle canonical_parameters canonical_result canonical_requirements
      inside apart (fun g hg => by cases hg) (fun _ g hg => by cases hg) hn
  rw [List.append_nil] at hitem
  refine reads_items_item (by simp [Glyph.word, Glyph.onLine])
    (by simp [Glyph.word, Glyph.onLine]) ?_
  refine (reads_orSkip (hitem.mono fun found hfound => Option.map_eq_some_iff.1 hfound)).bind
    fun found hfound => ?_
  refine (reads_items_end (n + 3) _).mono fun l hl => ?_
  rw [hl, List.append_nil, List.reverse_reverse, hfound]

end functions

/-! ## Names that no function has -/

/-- No angle bracket comes later than first in the name. -/
def AngleFirst (name : String) : Prop := '<' ∉ name.toList.tail

/-- The name of a function. -/
def Item.functionName? : Item → Option String
  | function _ name .. => some name
  | _ => none

/-- If the item is a function, no angle bracket comes later than first in its name. -/
def Item.AngleFirst (i : Item) : Prop := ∀ name ∈ i.functionName?, SwiftTuples.AngleFirst name

theorem Item.angleFirst_of_eq_none {i : Item} (h : i.functionName? = none) : i.AngleFirst := by
  simp [AngleFirst, h]

/-- No angle bracket comes later than first in a name among the tokens. -/
def NamesAngleFirst (ts : List Placed) : Prop := ∀ t ∈ ts, ∀ name ∈ t.name?, AngleFirst name

theorem NamesAngleFirst.of_append {used rest : List Placed} (h : NamesAngleFirst (used ++ rest)) :
    NamesAngleFirst rest := fun t ht => h t (List.mem_append_right used ht)

namespace TokenParser

variable {ts : List Placed} {n : Nat}

/-- The name of an operator has no angle bracket but at its first character. -/
theorem angle_not_mem_operatorName (isFirst : Bool) (ts : List Placed) :
    '<' ∉ if isFirst then (operatorName isFirst ts).1.tail else (operatorName isFirst ts).1 := by
  fun_induction operatorName isFirst ts with
  | case1 | case2 | case4 => split <;> simp
  | case3 isFirst t rest c _ hstop more left hrest ih =>
    rw [hrest] at ih
    cases isFirst with
    | true => exact ih
    | false =>
      have hc : c ≠ '<' := by
        rintro rfl
        simp at hstop
      simpa [hc.symm] using ih

theorem takes_functionName (keyword : String) (hkeyword : AngleFirst keyword)
    (hts : NamesAngleFirst ts) :
    TakesAt (functionName keyword) ts fun name _ => AngleFirst name := by
  refine .ite (fun _ => ?_) fun _ => ?_
  · refine (takes_name? ts).bind fun found used rest _ hused => ?_
    cases found with
    | some name =>
      rcases hused with ⟨⟨⟩, -⟩ | ⟨t, -, hname, rfl⟩
      exact .pure (hts t (by simp [*]) name hname.symm)
    | none =>
      intro name rest' hoperator
      obtain ⟨more, hmore, -⟩ := splits_operator rest hoperator
      cases hoperator
      exact ⟨more, hmore, by simpa [AngleFirst] using angle_not_mem_operatorName true rest⟩
  · exact (advancesIfFound_optionalMark? ts).bind fun _ _ _ _ _ => .pure hkeyword

/-- The items that are found, if any are. -/
def AngleFirstIfFound (found : Option (List Item)) : Prop :=
  ∀ is ∈ found, ∀ i ∈ is, i.AngleFirst

theorem takes_bindings_angleFirst (n position : Nat) :
    Takes (bindings n position) fun found _ => ∀ i ∈ found, i.AngleFirst := by
  induction n with
  | zero => exact fun _ => .fail
  | succ n ih =>
    intro ts
    refine (advancesIfFound_binder? ts).bind fun binder _ rest _ _ => ?_
    cases binder with
    | none => exact .pure (by simp)
    | some binder =>
      refine (splits_optionally splits_declaredColon
        (typeReadersAdvance n).typeExpr.splits rest).bind fun declared _ rest _ _ => ?_
      have hfirst : (Item.variable position binder declared).AngleFirst :=
        Item.angleFirst_of_eq_none rfl
      refine .look_bind (.ite (fun _ => ?_) fun _ =>
        .pure (List.forall_mem_singleton.2 hfirst))
      refine (splits_skip 1 rest).bind fun _ _ rest _ _ => ?_
      exact (ih rest).bind fun _ _ _ _ hmore => .pure (List.forall_mem_cons.2 ⟨hfirst, hmore⟩)

theorem angleFirstIfFound_none : AngleFirstIfFound none := fun _ h => nomatch h

theorem angleFirstIfFound_singleton {i : Item} (h : i.AngleFirst) :
    AngleFirstIfFound (some [i]) := by
  rintro _ ⟨⟩
  exact List.forall_mem_singleton.2 h

theorem takes_signature_angleFirst {name : String} (hname : AngleFirst name) (n position : Nat) :
    Takes (signature n position name) fun found _ => AngleFirstIfFound found := by
  intro ts
  refine (splits_angles ts).bind fun _ _ rest _ _ => ?_
  refine (takes_eats '(' rest).bind fun _ _ rest _ _ =>
    .ite (fun _ => ?_) fun _ => .pure angleFirstIfFound_none
  refine (splits_parameters n rest).bind fun parameters _ rest _ _ => ?_
  refine (splits_effects rest).bind fun effects _ rest _ _ => ?_
  refine (splits_optionally splits_arrow (typeReadersAdvance n).typeExpr.splits rest).bind
    fun result _ rest _ _ => ?_
  refine (splits_whereClause n rest).bind fun requirements _ rest _ _ => ?_
  refine (splits_optionally (fun _ => .look trivial) (itemReadersAdvance n).block.splits rest).bind
    fun body _ _ _ _ => .pure (angleFirstIfFound_singleton ?_)
  rintro _ ⟨⟩
  exact hname

theorem takes_nominal_angleFirst (n position : Nat) (kind : NominalKind) :
    Takes (nominal n position kind) fun found _ => AngleFirstIfFound found := by
  intro ts
  cases n with
  | zero => exact .fail
  | succ n =>
    refine (splits_skip 1 ts).bind fun _ _ rest _ _ => ?_
    refine (splits_nominalName rest).bind fun name _ rest _ _ =>
      .ite (fun _ => .pure angleFirstIfFound_none) fun _ => ?_
    refine (splits_angles rest).bind fun _ _ rest _ _ => ?_
    refine (splits_inherited n rest).bind fun inherits _ rest _ _ => ?_
    refine (splits_whereClause n rest).bind fun requirements _ rest _ _ => ?_
    refine .look_bind (.ite (fun _ => ?_) fun _ => .pure angleFirstIfFound_none)
    exact ((itemReadersAdvance n).block.splits rest).bind fun members _ _ _ _ =>
      .pure (angleFirstIfFound_singleton (Item.angleFirst_of_eq_none rfl))

theorem takes_typeAlias_angleFirst (n position : Nat) :
    Takes (typeAlias n position) fun found _ => AngleFirstIfFound found := by
  intro ts
  refine (splits_skip 1 ts).bind fun _ _ rest _ _ => ?_
  refine (advancesIfFound_name?.splits rest).bind fun name _ rest _ _ => ?_
  cases name with
  | none => exact .pure angleFirstIfFound_none
  | some name =>
    refine (splits_angles rest).bind fun _ _ rest _ _ => ?_
    refine (takes_eats '=' rest).bind fun _ _ rest _ _ =>
      .ite (fun _ => ?_) fun _ => .pure angleFirstIfFound_none
    exact ((typeReadersAdvance n).typeExpr.splits rest).bind fun target _ _ _ _ =>
      .pure (angleFirstIfFound_singleton (Item.angleFirst_of_eq_none rfl))

theorem takes_function_angleFirst (n position : Nat) {keyword : String}
    (hkeyword : AngleFirst keyword) (hts : NamesAngleFirst ts) :
    TakesAt (function n position keyword) ts fun found _ => AngleFirstIfFound found := by
  cases n with
  | zero => exact .fail
  | succ n =>
    rw [function_succ]
    refine (splits_skip 1 ts).bind fun _ _ rest hrest _ => ?_
    refine (takes_functionName keyword hkeyword (hrest ▸ hts).of_append).bind
      fun name _ rest _ hname => .ite (fun _ => .pure angleFirstIfFound_none) fun _ => ?_
    exact takes_signature_angleFirst hname n position rest

theorem takes_declared_angleFirst (n position : Nat) (keyword : String)
    (hts : NamesAngleFirst ts) :
    TakesAt (declared n position keyword) ts fun found _ => AngleFirstIfFound found := by
  refine .ite (fun _ => ?_) fun _ => .ite (fun hkeyword => ?_) fun _ =>
    .ite (fun _ => takes_typeAlias_angleFirst n position ts) fun _ => ?_
  · refine (splits_skip 1 ts).bind fun _ _ rest _ _ => ?_
    refine (takes_bindings_angleFirst n position rest).bind fun found _ _ _ hfound => ?_
    cases found with
    | nil => exact .pure angleFirstIfFound_none
    | cons i found =>
      refine .pure ?_
      rintro _ ⟨⟩
      exact hfound
  · refine takes_function_angleFirst n position ?_ hts
    simp only [Bool.or_eq_true, decide_eq_true_eq] at hkeyword
    rcases hkeyword with (rfl | rfl) | rfl <;> simp [AngleFirst]
  · split
    · exact takes_nominal_angleFirst n position _ ts
    · exact .pure angleFirstIfFound_none

/-- **No function that is read has a name with a later angle bracket**, unless a token is such a
name. -/
theorem takes_item_angleFirst (n : Nat) (hts : NamesAngleFirst ts) :
    TakesAt (item n) ts fun found _ => AngleFirstIfFound found := by
  cases n with
  | zero => exact .fail
  | succ n =>
    refine .look_bind ?_
    split
    · next operator _ =>
      refine TakesAt.map (R := fun found _ => ∀ i ∈ found, i.AngleFirst) ?_ fun found _ hfound => ?_
      · refine .look_bind ((splits_skip 1 ts).bind fun _ _ rest _ _ => ?_)
        refine (splits_castOperator operator rest).bind fun operator _ rest _ _ => ?_
        exact ((typeReadersAdvance n).typeExpr.splits rest).bind fun target _ _ _ _ =>
          .pure (List.forall_mem_singleton.2 (Item.angleFirst_of_eq_none rfl))
      · rintro _ ⟨⟩
        exact hfound
    · cases n with
      | zero => exact .fail
      | succ n =>
        rw [declaration_succ]
        refine .look_bind (.ite (fun _ => .pure angleFirstIfFound_none) fun _ => .look_bind ?_)
        refine (splits_many advancesIfFound_modifier?.splits ts).bind fun _ _ rest hrest _ =>
          .look_bind ?_
        exact takes_declared_angleFirst n _ _ (hrest ▸ hts).of_append

theorem takes_items_angleFirst (n : Nat) (closing : Bool) {done : List Item}
    (hdone : ∀ i ∈ done, i.AngleFirst) (hts : NamesAngleFirst ts) :
    TakesAt (items n closing done) ts fun found _ => ∀ i ∈ found, i.AngleFirst := by
  induction n generalizing done ts with
  | zero => exact .fail
  | succ n ih =>
    have hreverse : ∀ i ∈ done.reverse, i.AngleFirst := by simpa using hdone
    refine .look_bind ?_
    split
    · exact .ite (fun _ => .fail) fun _ => .pure hreverse
    · refine .ite (fun _ => .ite (fun _ => ?_) fun _ => .fail) fun _ =>
        .ite (fun _ => ?_) fun _ => ?_
      · exact (splits_skip 1 ts).bind fun _ _ _ _ _ => .pure hreverse
      · exact ((itemReadersAdvance n).block ts).bind fun block _ rest hrest _ =>
          ih (List.forall_mem_cons.2 ⟨Item.angleFirst_of_eq_none rfl, hdone⟩)
            (hrest ▸ hts).of_append
      · have hfound : TakesAt (orSkip (item n)) ts fun found _ => ∀ i ∈ found, i.AngleFirst := by
          intro found rest hskip
          simp only [orSkip] at hskip
          split at hskip
          · next found rest hitem =>
            cases hskip
            obtain ⟨used, hused, hfound⟩ := takes_item_angleFirst n hts hitem
            exact ⟨used, hused, hfound found rfl⟩
          · cases hskip
            exact ⟨ts.take 1, by cases ts <;> rfl, by simp⟩
        refine hfound.bind fun found _ rest hrest hfound => ih ?_ (hrest ▸ hts).of_append
        exact List.forall_mem_append.2 ⟨by simpa using hfound, hdone⟩

end TokenParser

/-- Printed names have no angle brackets. -/
theorem NamesAngleFirst.of_written {gs : List Glyph} {ts : List Placed} (h : Written gs ts)
    (hgs : ∀ g ∈ gs, ¬ g.kind.isName ∨ g.kind.printable) : NamesAngleFirst ts := by
  induction h with
  | nil => exact fun t ht => by cases ht
  | @cons g gs t ts first _ ih =>
    rw [List.forall_mem_cons] at hgs
    refine List.forall_mem_cons.2 ⟨fun name hname => ?_, ih hgs.2⟩
    rw [Option.mem_def, first.name?] at hname
    have hkind : g.kind = .ident name := by
      unfold Glyph.name? at hname
      split at hname
      · next hkind => rw [hkind, Option.some.inj hname]
      · cases hname
    have hprintable : isWord name.toList := by
      rw [hkind] at hgs
      exact hgs.1.resolve_left (by simp [TokenKind.isName])
    exact fun hmem => not_mem_of_isWord hprintable (by decide) (List.mem_of_mem_tail hmem)

theorem Legible.printable {afterDot : Bool} {pending : Nat} {gs : List Glyph}
    (h : Legible afterDot pending gs) : ∀ g ∈ gs, g.kind.printable := by
  induction gs generalizing afterDot pending with
  | nil => simp
  | cons g gs ih =>
    obtain ⟨hplain, -, _, hmore⟩ := h.uncons
    exact List.forall_mem_cons.2 ⟨hplain.1, ih hmore⟩

open TokenParser in
/-- **A function is read back under an operator exactly if no angle bracket comes later than first
in it.** Its parameters, effects, result and body are those that were printed. Under any other
operator no function is found that has its name. -/
theorem operator_function_read_back_iff {op : Text} {position : Nat} {parameters : List Parameter}
    {effects : Effects} {result : Option TypeExpr} {requirements : List Requirement}
    {body : Option (Block Item)} (hop : IsOperator op)
    (canonical_parameters : ∀ p ∈ parameters, p.Canonical)
    (canonical_result : ∀ t ∈ result, t.Canonical .whole)
    (canonical_requirements : ∀ r ∈ requirements, r.Canonical)
    (inside : ∀ b ∈ body, ∀ i ∈ b.items, i.Canonical) (apart : ∀ b ∈ body, Item.Apart b.items)
    (loose : Nat → Bool) :
    let f := Item.function position (String.ofList op) parameters effects result requirements body
    ('<' ∉ op.tail → ∃ file, SourceFile.parse (printItems loose [f]) = .ok file ∧
      file.items.map Item.unplaced = [f.unplaced]) ∧
    ('<' ∈ op.tail → ∀ file, SourceFile.parse (printItems loose [f]) = .ok file →
      ∀ i ∈ file.items, i.functionName? ≠ some (String.ofList op)) := by
  intro f
  have legible : Legible false 0
      (Item.signatureGlyphs parameters effects result requirements body) :=
    legible_signatureGlyphs canonical_parameters canonical_result canonical_requirements inside
      apart
  obtain ⟨tokens, htokens, hwritten⟩ :=
    written_of_tokenize_operator position loose hop legible
  have hparse : ∀ file, SourceFile.parse _ = .ok file ↔ _ := fun file =>
    (LoopReads.refl (Placed.ofTokens tokens)).parse_eq_ok htokens
  have hbraces : checkBraces tokens = .ok () := by
    rw [checkBraces, matchBraces_eq_ok, ← Placed.map_toToken_following none tokens]
    exact closes_operator hop legible hwritten
  generalize Placed.ofTokens tokens = ts at hwritten hparse
  constructor
  · intro hangle
    have hlen : (Item.signatureGlyphs parameters effects result requirements body).length <
        ts.length := by
      rw [hwritten.length_eq, List.length_cons, List.length_append]
      omega
    have hread : Reads (items (depth ts.length) false [])
        ((Glyph.word "func").onLine :: (op.map .mark ++
          Item.signatureGlyphs parameters effects result requirements body))
        (·.map Item.unplaced = [f.unplaced]) [] :=
      reads_items_operator (n := 16 * ts.length + 11) hop hangle canonical_parameters
        canonical_result canonical_requirements inside apart (by omega)
    obtain ⟨found, rest, hitems, hfound, -⟩ := hread hwritten
    exact ⟨⟨found⟩, (hparse _).2 ⟨hbraces, found, rest, hitems, rfl⟩, hfound⟩
  · intro hangle file hfile i hi hname
    have hnames : NamesAngleFirst ts := by
      refine .of_written hwritten (List.forall_mem_cons.2 ⟨.inr rfl, ?_⟩)
      refine List.forall_mem_append.2 ⟨?_, fun g hg => .inr (legible.printable g hg)⟩
      simp [Glyph.mark, TokenKind.isName]
    obtain ⟨-, found, rest, hread, hitems⟩ := (hparse file).1 hfile
    rw [List.nil_append] at hitems
    obtain ⟨-, -, hall⟩ := takes_items_angleFirst _ false (by simp) hnames hread
    exact hall i (hitems ▸ hi) _ hname (by simpa using hangle)

/-- A function is read back under an operator that begins with an angle bracket. -/
theorem less_or_equal_read_back :
    let name : TypeExpr := .named 0 "A" []
    let f := Item.function 0 (String.ofList ['<', '=']) [⟨["a"], .array 0 name⟩] ⟨false, true⟩
      (some name) [] (some ⟨0, []⟩)
    printItems (fun _ => false) [f] = "func <=(a:[A])throws->A\x7b\n\x7d".toList ∧
      IsOperator ['<', '='] ∧ '<' ∉ ['<', '='].tail ∧
      ∃ file, SourceFile.parse (printItems (fun _ => false) [f]) = .ok file ∧
        file.items.map Item.unplaced = [f.unplaced] := by
  intro name f
  have hop : IsOperator ['<', '='] :=
    ⟨by simp, by simp [operatorMarks], by decide, by decide, by decide⟩
  have hname : name.Canonical .whole :=
    .whole (.composed (.single (.named (by decide) (by simp))))
  have hparameter : Parameter.Canonical ⟨["a"], .array 0 name⟩ :=
    ⟨by simp, by decide, .whole (.composed (.single (.array hname)))⟩
  refine ⟨by decide +kernel, hop, by decide, ?_⟩
  exact (operator_function_read_back_iff hop (List.forall_mem_singleton.2 hparameter)
    (by simpa using hname) (by simp) (by simp) (by simp [Item.Apart]) _).1 (by decide)

/-- **A second angle bracket opens generic parameters.** The function named `<<` is not found, nor
is the tuple of its parameter. -/
theorem shift_operator_lost :
    IsOperator ['<', '<'] ∧
      (SourceFile.parse "func << (a: (A, B, C)) \x7b\x7d".toList).map
        (·.items.filterMap Item.functionName?) = .ok [] ∧
      (SourceFile.parse "func << (a: (A, B, C)) \x7b\x7d".toList).map (·.observations) = .ok [] ∧
      (SourceFile.parse "func <= (a: (A, B, C)) \x7b\x7d".toList).map
        (·.items.filterMap Item.functionName?) = .ok ["<="] ∧
      (SourceFile.parse "func <= (a: (A, B, C)) \x7b\x7d".toList).map (·.observations) =
        .ok [⟨12, 3, 0⟩] :=
  ⟨⟨by simp, by simp [operatorMarks], by decide, by decide, by decide⟩, by decide +kernel,
    by decide +kernel, by decide +kernel, by decide +kernel⟩

end SwiftTuples
