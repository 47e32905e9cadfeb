import SwiftTuples.Proofs.Lexing.Front
/-!
# A comment at the end of a text

A comment that is added at the end of a text is cut off again, and the pieces before it stay, with
one exception. A slash where an operand may begin opens a regular expression as soon as one is
closed, and the first slash of the comment may be what closes it. So the tokens of a text stay
exactly when none of its marks opens an expression once the comment follows (`Piece.opensBefore`).
-/

namespace SwiftTuples

namespace Piece

/-- One of the marks among pieces opens a regular expression when the text goes on with `tail`. -/
def opensBefore (tail : Text) (operand : Bool) : List Piece → Bool
  | [] => false
  | piece :: pieces =>
    (match piece.kind with
      | .token (.punct c) => PieceKind.mayOpenRegex operand c &&
        (Literal.regex (piece.text ++ (pieces.flatMap (·.text) ++ tail))).isSome
      | _ => false) ||
      opensBefore tail (piece.kind.beforeOperand operand) pieces

end Piece

/-- A comment that follows a text on its last line. -/
def trailingComment (words : Text) : Text := ' ' :: '/' :: '/' :: words

/-- One of the marks of a text opens a regular expression when a comment follows the text. -/
def Text.opensInto (source words : Text) : Bool :=
  match Piece.cut source with
  | .ok pieces => Piece.opensBefore (trailingComment words) true pieces
  | .error _ => false

variable {operand : Bool} {c : Char} {body rest words : Text} {kind : PieceKind}
  {pieces : List Piece}

/-- A line comment that the text ends in is a piece. -/
theorem cuts_lineComment (hwords : '\n' ∉ words) :
    Cuts operand ('/' :: '/' :: words) [⟨.comment, '/' :: '/' :: words⟩] := by
  have hcuts := Cuts.cons (@PieceKind.Front.line operand [] words hwords nofun) .nil
  rwa [List.append_nil] at hcuts

/-- The comment by itself has no tokens. -/
theorem cuts_trailingComment (hwords : '\n' ∉ words) :
    Cuts operand (trailingComment words) [⟨.blank, [' ']⟩, ⟨.comment, '/' :: '/' :: words⟩] :=
  @Cuts.cons operand ' ' [] ('/' :: '/' :: words) .blank _ (.blank (by decide))
    (cuts_lineComment hwords)

/-- A piece is at the front before the comment as well, unless it is a mark that opens a regular
expression then, or a line comment that goes on into the one added. -/
theorem PieceKind.Front.before_trailingComment
    (front : Front operand c (body ++ rest) kind body.length)
    (hmark : ∀ d, kind = .token (.punct d) → mayOpenRegex operand d →
      Literal.regex (c :: (body ++ (rest ++ trailingComment words))) = none)
    (hline : ¬ (kind = .comment ∧ (body ++ rest).head? = some '/' ∧ rest = [])) :
    Front operand c (body ++ (rest ++ trailingComment words)) kind body.length := by
  have hyields : Yields rest (rest ++ trailingComment words) := .space rest _
  by_cases hpunct : ∃ d, kind = .token (.punct d)
  · obtain ⟨d, rfl⟩ := hpunct
    obtain ⟨rfl, hlength⟩ := front.punct_eq
    obtain rfl := List.eq_nil_of_length_eq_zero hlength
    exact front.punct_of_yields hyields (hmark d rfl)
  by_cases hcomment : kind = .comment ∧ (body ++ rest).head? = some '/'
  · obtain ⟨rfl, hslash⟩ := hcomment
    obtain ⟨rfl, ⟨more, rfl, hmore, hends⟩ | ⟨more, rfl⟩⟩ := front.comment_cases
    · refine .line hmore fun d hd => hends d ?_
      obtain ⟨e, rest, rfl⟩ := List.exists_cons_of_ne_nil fun hrest => hline ⟨rfl, hslash, hrest⟩
      exact hd
    · cases hslash
  · exact (front.decides (fun hc hhead => hcomment ⟨hc, hhead⟩) fun d hd => hpunct ⟨d, hd⟩).apply
      hyields

namespace Piece

/-- Whether a mark opens an expression is asked piece by piece. -/
theorem opensBefore_cons {tail : Text} :
    opensBefore tail operand (⟨kind, c :: body⟩ :: pieces) = false ↔
      (∀ d, kind = .token (.punct d) → PieceKind.mayOpenRegex operand d →
        Literal.regex (c :: (body ++ (pieces.flatMap (·.text) ++ tail))) = none) ∧
      opensBefore tail (kind.beforeOperand operand) pieces = false := by
  rw [opensBefore, Bool.or_eq_false_iff]
  refine and_congr_left fun _ => ?_
  split
  · next d hd =>
    obtain rfl : kind = .token (.punct d) := hd
    simp
  · next hkind => exact ⟨fun _ d hd => absurd hd (hkind d), fun _ => rfl⟩

/-- If pieces have the same tokens after another piece, they have the same somewhere. -/
theorem exists_tokensFrom_eq {pieces more : List Piece} {piece : Piece} {offset : Nat}
    {newline : Bool}
    (h : tokensFrom offset newline (piece :: more) = tokensFrom offset newline (piece :: pieces)) :
    ∃ offset newline, tokensFrom offset newline more = tokensFrom offset newline pieces := by
  simp only [tokensFrom] at h
  split at h
  · exact ⟨_, _, (List.cons.inj h).2⟩
  · exact ⟨_, _, h⟩

end Piece

/-- A comment is added to a text that ends in a comment. -/
theorem Cuts.append_lineComment (hwords : '\n' ∉ words)
    (front : PieceKind.Front operand c (body ++ []) .comment body.length)
    (hslash : (body ++ []).head? = some '/') :
    Cuts operand (c :: (body ++ trailingComment words))
      [⟨.comment, c :: (body ++ trailingComment words)⟩] := by
  obtain ⟨rfl, ⟨more, rfl, hmore, -⟩ | ⟨more, rfl⟩⟩ := front.comment_cases
  · exact cuts_lineComment (by simp [trailingComment, hmore, hwords])
  · cases hslash

/-- If no mark opens an expression, the tokens stay. -/
theorem Cuts.append_trailingComment (hwords : '\n' ∉ words) {t : Text}
    (h : Cuts operand t pieces)
    (hopens : Piece.opensBefore (trailingComment words) operand pieces = false) :
    ∃ more, Cuts operand (t ++ trailingComment words) more ∧ ∀ offset newline,
      Piece.tokensFrom offset newline more = Piece.tokensFrom offset newline pieces := by
  induction h with
  | nil => exact ⟨_, cuts_trailingComment hwords, fun _ _ => rfl⟩
  | @cons operand c body rest kind pieces front hrest ih =>
    rw [Piece.opensBefore_cons, hrest.flatMap_text] at hopens
    rw [List.cons_append, List.append_assoc]
    by_cases hlast : kind = .comment ∧ (body ++ rest).head? = some '/' ∧ rest = []
    · obtain ⟨rfl, hslash, rfl⟩ := hlast
      cases hrest
      exact ⟨_, .append_lineComment hwords front hslash, fun _ _ => rfl⟩
    · obtain ⟨more, hmore, htokens⟩ := ih hopens.2
      exact ⟨_, .cons (front.before_trailingComment hopens.1 hlast) hmore,
        Piece.tokensFrom_cons_congr _ htokens⟩

/-- If a mark opens an expression, the tokens do not stay. -/
theorem Cuts.opensBefore_eq_false {t : Text} {more : List Piece} {offset : Nat} {newline : Bool}
    (h : Cuts operand t pieces) (h' : Cuts operand (t ++ trailingComment words) more)
    (htokens : Piece.tokensFrom offset newline more = Piece.tokensFrom offset newline pieces) :
    Piece.opensBefore (trailingComment words) operand pieces = false := by
  induction h generalizing more offset newline with
  | nil => rfl
  | @cons operand c body rest kind pieces front hrest ih =>
    rw [List.cons_append, List.append_assoc] at h'
    rw [Piece.opensBefore_cons, hrest.flatMap_text]
    have hmark : ∀ d, kind = .token (.punct d) → PieceKind.mayOpenRegex operand d →
        Literal.regex (c :: (body ++ (rest ++ trailingComment words))) = none := by
      rintro d rfl hopens
      obtain ⟨rfl, hlength⟩ := front.punct_eq
      obtain rfl := List.eq_nil_of_length_eq_zero hlength
      cases hregex : Literal.regex (d :: ([] ++ (rest ++ trailingComment words))) with
      | none => rfl
      | some n =>
        -- the piece is a literal now, so its token is not the mark's
        have hliteral : PieceKind.Front operand d ([] ++ (rest ++ trailingComment words))
            (.token .literal) (n - 1) := by
          cases front with
          | punct mark => exact .regex (mark.of_yields (.space rest _)) hopens hregex
        obtain ⟨more, rfl, -⟩ := h'.uncons hliteral
        exact absurd (congrArg Token.kind (List.cons.inj htokens).1) nofun
    refine ⟨hmark, ?_⟩
    by_cases hlast : kind = .comment ∧ (body ++ rest).head? = some '/' ∧ rest = []
    · obtain ⟨-, -, rfl⟩ := hlast
      cases hrest
      rfl
    · obtain ⟨more, rfl, hmore⟩ := h'.uncons (front.before_trailingComment hmark hlast)
      rw [List.take_left] at htokens
      rw [List.drop_left] at hmore
      obtain ⟨offset, newline, htokens⟩ := Piece.exists_tokensFrom_eq htokens
      exact ih hmore htokens

/-- **A comment at the end of a text leaves the tokens as they are, exactly when none of the marks
opens a regular expression once it is there.** -/
theorem tokenize_append_trailingComment {source : Text} {tokens : List Token}
    (h : tokenize source = .ok tokens) (hwords : '\n' ∉ words) :
    tokenize (source ++ trailingComment words) = .ok tokens ↔
      source.opensInto words = false := by
  obtain ⟨pieces, hpieces, rfl⟩ := tokenize_eq_ok.1 h
  rw [Text.opensInto, cut_eq_ok.2 hpieces]
  constructor
  · intro hsame
    obtain ⟨more, hmore, htokens⟩ := tokenize_eq_ok.1 hsame
    exact hpieces.opensBefore_eq_false hmore htokens.symm
  · intro hopens
    obtain ⟨more, hmore, htokens⟩ := hpieces.append_trailingComment hwords hopens
    exact tokenize_eq_ok.2 ⟨more, hmore, (htokens 0 true).symm⟩

/-- A division stays one before a comment. -/
theorem division_before_comment :
    '\n' ∉ "half".toList ∧ tokenize ("f(a / b)".toList ++ trailingComment "half".toList) = .ok
      [⟨.ident "f", 0, 1, true⟩, ⟨.punct '(', 1, 2, false⟩, ⟨.ident "a", 2, 3, false⟩,
        ⟨.punct '/', 4, 5, false⟩, ⟨.ident "b", 6, 7, false⟩, ⟨.punct ')', 7, 8, false⟩] :=
  ⟨by decide, (tokenize_append_trailingComment (by decide +kernel) (by decide)).2
    (by decide +kernel)⟩

/-- An operator that is passed as an argument takes the first slash of the comment, and the second
is an operator then. -/
theorem comment_closes_regex :
    tokenize "f(/)".toList = .ok
        [⟨.ident "f", 0, 1, true⟩, ⟨.punct '(', 1, 2, false⟩, ⟨.punct '/', 2, 3, false⟩,
          ⟨.punct ')', 3, 4, false⟩] ∧
      tokenize ("f(/)".toList ++ trailingComment []) = .ok
        [⟨.ident "f", 0, 1, true⟩, ⟨.punct '(', 1, 2, false⟩, ⟨.literal, 2, 6, false⟩,
          ⟨.punct '/', 6, 7, false⟩] ∧
      tokenize ("f(/)".toList ++ trailingComment []) ≠ tokenize "f(/)".toList := by
  decide +kernel

end SwiftTuples
