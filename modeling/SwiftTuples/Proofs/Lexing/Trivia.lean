import SwiftTuples.Syntax.Piece
/-!
# What stands between tokens, and what tokens are written with

A grammar beside the cut. `Trivia` says which texts hold blanks and comments and nothing else,
and `TokenKind.Spells` which texts a token of a kind is written with. Both are stated without the
counting functions the cut is made with; that the cut finds only such pieces is
`PieceKind.fits_of_atFront`, which the tiling of a text is read off.

A comment is judged before the text that follows it. A line comment reaches to the next line end,
and whether two characters open a comment depends on both, so where a gap ends is not a matter of
the gap alone.
-/

namespace SwiftTuples

/-- A block comment neither opens nor closes at the front of a text. -/
def Text.Uncommented (t : Text) : Prop :=
  (∀ rest, t ≠ '/' :: '*' :: rest) ∧ ∀ rest, t ≠ '*' :: '/' :: rest

/-- The inside of a block comment, before the text `after`. A comment inside it is closed
inside it. -/
inductive CommentBody : Text → Text → Prop
  | nil {after : Text} : CommentBody [] after
  | char {c : Char} {body after : Text} (plain : Text.Uncommented (c :: (body ++ after)))
      (more : CommentBody body after) : CommentBody (c :: body) after
  | nested {inner body after : Text}
      (inside : CommentBody inner ('*' :: '/' :: (body ++ after)))
      (more : CommentBody body after) :
      CommentBody ('/' :: '*' :: (inner ++ '*' :: '/' :: body)) after

/-- Blanks, line comments and closed block comments, before the text `after`. -/
inductive Trivia : Text → Text → Prop
  | nil {after : Text} : Trivia [] after
  | blank {c : Char} {gap after : Text} (blank : Unicode.isBlank c) (more : Trivia gap after) :
      Trivia (c :: gap) after
  | lineComment {body gap after : Text} (within : '\n' ∉ body)
      (ends : ∀ c ∈ (gap ++ after).head?, c = '\n') (more : Trivia gap after) :
      Trivia ('/' :: '/' :: (body ++ gap)) after
  | blockComment {body gap after : Text}
      (inside : CommentBody body ('*' :: '/' :: (gap ++ after))) (more : Trivia gap after) :
      Trivia ('/' :: '*' :: (body ++ '*' :: '/' :: gap)) after

/-- A character that a number, a string or a regular expression can start with. -/
def opensLiteral (c : Char) : Bool := c.isDigit || c = '"' || c = '#' || c = '/'

/-- A text that a token of a kind is written with. -/
inductive TokenKind.Spells : TokenKind → Text → Prop
  | name {c : Char} {rest : Text} (start : isNameStart c) (parts : ∀ d ∈ rest, isNamePart d) :
      Spells (.ident (String.ofList (c :: rest))) (c :: rest)
  | escaped {name : Text} (within : ∀ d ∈ name, d ≠ '\x60' ∧ d ≠ '\n') :
      Spells (.ident (String.ofList name)) ('\x60' :: (name ++ ['\x60']))
  | literal {c : Char} {rest : Text} (opens : opensLiteral c) : Spells .literal (c :: rest)
  | arrow : Spells .arrow ['-', '>']
  | punct {c : Char} (solid : ¬ Unicode.isBlank c) (nameless : ¬ isNameStart c) :
      Spells (.punct c) [c]

/-- The text of a piece says what its kind says, before the text `after`. -/
def PieceKind.Fits (text after : Text) : PieceKind → Prop
  | token kind => kind.Spells text
  | _ => Trivia text after

namespace Trivia

/-- Trivia before trivia is trivia. -/
theorem append {a b after : Text} (ha : Trivia a (b ++ after)) (hb : Trivia b after) :
    Trivia (a ++ b) after := by
  -- the induction is on the first trivia alone, so what follows it is named and kept equal
  generalize hmid : b ++ after = mid at ha
  induction ha with
  | nil => exact hb
  | blank hc _ ih => exact .blank hc (ih hmid)
  | @lineComment body gap _ within ends _ ih =>
    subst hmid
    rw [List.cons_append, List.cons_append, List.append_assoc]
    exact .lineComment within (by rwa [List.append_assoc]) (ih rfl)
  | @blockComment body gap _ inside _ ih =>
    subst hmid
    rw [List.cons_append, List.cons_append, List.append_assoc, List.cons_append, List.cons_append]
    exact .blockComment (by rwa [List.append_assoc]) (ih rfl)

end Trivia

/-! ## Block comments

The count of open comments is the number of bodies still to be closed, so what a count of `depth`
leaves is `depth + 1` bodies one after the other. -/

/-- Bodies of comments that are open, `depth` of them around the first. -/
def ClosesComments : Nat → Text → Text → Prop
  | 0, text, after =>
    ∃ body, text = body ++ ['*', '/'] ∧ CommentBody body ('*' :: '/' :: after)
  | depth + 1, text, after =>
    ∃ body more, text = body ++ '*' :: '/' :: more ∧
      CommentBody body ('*' :: '/' :: (more ++ after)) ∧ ClosesComments depth more after

/-- A character goes in front of the first body. -/
theorem ClosesComments.char {depth : Nat} {c : Char} {text after : Text}
    (plain : Text.Uncommented (c :: (text ++ after))) (h : ClosesComments depth text after) :
    ClosesComments depth (c :: text) after := by
  cases depth with
  | zero =>
    obtain ⟨body, rfl, hbody⟩ := h
    exact ⟨c :: body, rfl, .char (by simpa using plain) hbody⟩
  | succ depth =>
    obtain ⟨body, more, rfl, hbody, hmore⟩ := h
    exact ⟨c :: body, more, rfl, .char (by simpa using plain) hbody, hmore⟩

/-- A comment opened and closed goes in front of the first body around it. -/
theorem ClosesComments.nested {depth : Nat} {text after : Text}
    (h : ClosesComments (depth + 1) text after) :
    ClosesComments depth ('/' :: '*' :: text) after := by
  obtain ⟨inner, more, rfl, hinner, hmore⟩ := h
  cases depth with
  | zero =>
    obtain ⟨body, rfl, hbody⟩ := hmore
    exact ⟨'/' :: '*' :: (inner ++ '*' :: '/' :: body), by simp,
      .nested (by simpa using hinner) hbody⟩
  | succ depth =>
    obtain ⟨body, rest, rfl, hbody, hrest⟩ := hmore
    exact ⟨'/' :: '*' :: (inner ++ '*' :: '/' :: body), rest, by simp,
      .nested (by simpa using hinner) hbody, hrest⟩

/-- **What is counted is closed.** The characters up to the end of a block comment are the
bodies of the comments open there. -/
theorem closesComments_of_blockComment {depth seen n : Nat} {t : Text}
    (h : Literal.blockComment depth seen t = some n) :
    ∃ text after, t = text ++ after ∧ n = seen + text.length ∧
      ClosesComments depth text after := by
  fun_induction Literal.blockComment depth seen t with
  | case1 seen rest =>
    obtain rfl : seen + 2 = n := Option.some.inj h
    exact ⟨['*', '/'], rest, rfl, rfl, [], rfl, .nil⟩
  | case2 seen rest depth ih =>
    -- the body at hand ends here, and the ones around it go on
    obtain ⟨text, after, rfl, rfl, hcloses⟩ := ih h
    exact ⟨'*' :: '/' :: text, after, rfl, by simp; omega, [], text, rfl, .nil, hcloses⟩
  | case3 depth seen rest ih =>
    obtain ⟨text, after, rfl, rfl, hcloses⟩ := ih h
    exact ⟨'/' :: '*' :: text, after, rfl, by simp; omega, hcloses.nested⟩
  | case4 depth seen c rest hclose hopen ih =>
    obtain ⟨text, after, rfl, rfl, hcloses⟩ := ih h
    have plain : Text.Uncommented (c :: (text ++ after)) :=
      ⟨fun tail he => hopen tail (List.cons.inj he).1 (List.cons.inj he).2,
        fun tail he => hclose tail (List.cons.inj he).1 (List.cons.inj he).2⟩
    exact ⟨c :: text, after, rfl, by simp; omega, hcloses.char plain⟩
  | case5 => cases h

end SwiftTuples
