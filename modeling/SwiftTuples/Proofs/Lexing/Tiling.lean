import Mathlib.Data.List.TakeWhile
import SwiftTuples.Proofs.Lexing.Trivia
/-!
# Tokens tile a text

The tokens of a text and the trivia between them are the text, piece by piece. The cut is followed
once (`Laid`, the pieces of a text in their order), and the offsets, the order and the line ends
of the tokens are read off it. `Tiles` carries the offset it starts at and the trivia already
passed, since a gap is made of several pieces.
-/

namespace SwiftTuples

/-! ## Pieces -/

namespace PieceKind

variable {α : Type} (p : α → Bool) (l : List α)

/-- Counting a run and taking that many is taking the run. -/
theorem take_length_takeWhile : l.take (l.takeWhile p).length = l.takeWhile p :=
  (List.prefix_iff_eq_take.1 (List.takeWhile_prefix p)).symm

/-- And what is left is what comes after the run. -/
theorem drop_length_takeWhile : l.drop (l.takeWhile p).length = l.dropWhile p := by
  have h : (l.takeWhile p ++ l.dropWhile p).drop (l.takeWhile p).length = l.dropWhile p :=
    List.drop_left ..
  rwa [List.takeWhile_append_dropWhile] at h

/-- A line comment, as it is counted. -/
theorem trivia_lineComment {rest : Text} (h : rest.head? = some '/') :
    Trivia ('/' :: rest.take (rest.takeWhile (· ≠ '\n')).length)
      (rest.drop (rest.takeWhile (· ≠ '\n')).length) := by
  cases rest with
  | nil => cases h
  | cons d rest =>
    obtain rfl : d = '/' := Option.some.inj h
    have hends : ∀ c ∈ ([] ++ rest.dropWhile (· ≠ '\n')).head?, c = '\n' := by
      intro c hc
      have := List.head?_dropWhile_not (· ≠ '\n') rest
      rw [List.nil_append, Option.mem_def] at hc
      rw [hc] at this
      simpa using this
    have hwithin : '\n' ∉ rest.takeWhile (· ≠ '\n') := fun hmem => by
      simpa using List.mem_takeWhile_imp hmem
    rw [List.takeWhile_cons_of_pos (by decide), List.length_cons, List.take_succ_cons,
      List.drop_succ_cons, take_length_takeWhile, drop_length_takeWhile]
    simpa using Trivia.lineComment hwithin hends .nil

/-- A block comment, as it is counted. -/
theorem trivia_blockComment {rest : Text} {n : Nat} (h : rest.head? = some '*')
    (hn : Literal.blockComment 0 1 rest.tail = some n) :
    Trivia ('/' :: rest.take n) (rest.drop n) := by
  cases rest with
  | nil => cases h
  | cons d rest =>
    obtain rfl : d = '*' := Option.some.inj h
    obtain ⟨text, after, htext, rfl, body, rfl, hbody⟩ := closesComments_of_blockComment hn
    rw [List.tail_cons] at htext
    subst htext
    have : Trivia ('/' :: '*' :: (body ++ '*' :: '/' :: [])) after :=
      .blockComment (by simpa using hbody) .nil
    rw [Nat.add_comm 1, List.take_succ_cons, List.drop_succ_cons, List.take_left, List.drop_left]
    exact this

/-- A name, as it is counted. -/
theorem spells_name {c : Char} {rest : Text} (h : isNameStart c) :
    TokenKind.Spells (.ident (String.ofList (c :: rest.takeWhile isNamePart)))
      (c :: rest.take (rest.takeWhile isNamePart).length) := by
  rw [take_length_takeWhile]
  exact .name h fun d hd => List.mem_takeWhile_imp hd

/-- An escaped name, as it is counted. -/
theorem spells_escaped {rest name : Text}
    (hname : name = rest.takeWhile fun d => d ≠ '\x60' ∧ d ≠ '\n')
    (h : (rest.drop name.length).head? = some '\x60') :
    TokenKind.Spells (.ident (String.ofList name)) ('\x60' :: rest.take (name.length + 1)) := by
  have htake : rest.take name.length = name := by
    subst hname
    exact take_length_takeWhile _ _
  -- the name ends at the backtick that closes it, which is taken too
  have hlast : rest.take (name.length + 1) = name ++ ['\x60'] := by
    rw [List.take_add, htake]
    cases hd : rest.drop name.length with
    | nil => rw [hd] at h; cases h
    | cons d more =>
      rw [hd] at h
      obtain rfl : d = '\x60' := Option.some.inj h
      rfl
  rw [hlast]
  refine .escaped fun d hd => ?_
  subst hname
  simpa using List.mem_takeWhile_imp hd

/-- **A piece at the front of a text is what its kind says.** -/
theorem fits_of_atFront {operand : Bool} {c : Char} {rest : Text} {kind : PieceKind} {n : Nat}
    (h : atFront operand c rest = .ok (kind, n)) : kind.Fits (c :: rest.take n) (rest.drop n) := by
  -- the cases are split in the order in which the cut tries them
  unfold atFront at h
  by_cases hblank : Unicode.isBlank c
  · rw [if_pos hblank] at h
    cases h
    exact .blank hblank .nil
  rw [if_neg hblank] at h
  by_cases hline : c = '/' && rest.head? = some '/'
  · rw [if_pos hline] at h
    cases h
    simp only [Bool.and_eq_true, decide_eq_true_eq] at hline
    obtain ⟨rfl, hhead⟩ := hline
    exact trivia_lineComment hhead
  rw [if_neg hline] at h
  by_cases hopen : c = '/' && rest.head? = some '*'
  · rw [if_pos hopen] at h
    simp only [Bool.and_eq_true, decide_eq_true_eq] at hopen
    obtain ⟨rfl, hhead⟩ := hopen
    cases hn : Literal.blockComment 0 1 rest.tail with
    | none => rw [hn] at h; cases h
    | some m =>
      rw [hn] at h
      cases h
      exact trivia_blockComment hhead hn
  rw [if_neg hopen] at h
  by_cases hname : isNameStart c
  · rw [if_pos hname] at h
    cases h
    exact spells_name hname
  rw [if_neg hname] at h
  by_cases htick : c = '\x60'
  · rw [if_pos htick] at h
    subst htick
    dsimp only at h
    split at h
    · next hclose =>
      cases h
      exact spells_escaped (by simp) hclose
    · cases h
  rw [if_neg htick] at h
  by_cases hdigit : c.isDigit
  · rw [if_pos hdigit] at h
    cases h
    exact .literal (by simp [opensLiteral, hdigit])
  rw [if_neg hdigit] at h
  by_cases hquote : c = '"' || (c = '#' && Literal.isRawString (c :: rest))
  · rw [if_pos hquote] at h
    have hopens : opensLiteral c := by
      simp only [Bool.or_eq_true, Bool.and_eq_true, decide_eq_true_eq] at hquote
      rcases hquote with rfl | ⟨rfl, -⟩ <;> decide
    split at h
    · cases h
      exact .literal hopens
    · cases h
  rw [if_neg hquote] at h
  split at h
  · next m hregex =>
    cases h
    have hopens : opensLiteral c := by
      by_cases hmark : (c = '/' || c = '#') && operand
      · simp only [Bool.or_eq_true, Bool.and_eq_true, decide_eq_true_eq] at hmark
        rcases hmark.1 with rfl | rfl <;> decide
      · rw [if_neg hmark] at hregex
        cases hregex
    exact .literal hopens
  · by_cases harrow : c = '-' && rest.head? = some '>'
    · rw [if_pos harrow] at h
      cases h
      simp only [Bool.and_eq_true, decide_eq_true_eq] at harrow
      obtain ⟨rfl, hhead⟩ := harrow
      cases rest with
      | nil => cases hhead
      | cons d rest =>
        obtain rfl : d = '>' := Option.some.inj hhead
        exact .arrow
    · rw [if_neg harrow] at h
      cases h
      exact .punct hblank hname

end PieceKind

/-- Pieces make up a text, each of them nonempty and what its kind says. -/
inductive Laid : List Piece → Text → Prop
  | nil : Laid [] []
  | cons {piece : Piece} {pieces : List Piece} {rest : Text} (nonempty : piece.text ≠ [])
      (fits : piece.kind.Fits piece.text rest) (more : Laid pieces rest) :
      Laid (piece :: pieces) (piece.text ++ rest)

/-- The cut adds to the pieces already made the pieces of the text at hand. -/
theorem laid_of_cutFrom {operand : Bool} {done pieces : List Piece} {t : Text}
    (h : Piece.cutFrom operand done t = .ok pieces) :
    ∃ more, pieces = done.reverse ++ more ∧ Laid more t := by
  fun_induction Piece.cutFrom operand done t with
  | case1 => exact ⟨[], by cases h; simp, .nil⟩
  | case2 => cases h
  | case3 operand done c rest kind n hfront ih =>
    obtain ⟨more, rfl, hmore⟩ := ih h
    have hcons : Laid (⟨kind, c :: rest.take n⟩ :: more) (c :: rest.take n ++ rest.drop n) :=
      .cons (List.cons_ne_nil _ _) (PieceKind.fits_of_atFront hfront) hmore
    rw [List.cons_append, List.take_append_drop] at hcons
    exact ⟨_ :: more, by simp, hcons⟩

/-- **The pieces of a text are the text.** -/
theorem laid_of_cut {pieces : List Piece} {t : Text} (h : Piece.cut t = .ok pieces) :
    Laid pieces t := by
  obtain ⟨more, rfl, hmore⟩ := laid_of_cutFrom h
  simpa using hmore

/-! ## Tokens -/

/-- A character boundary of a text. -/
def Text.IsBoundary (t : Text) (offset : Nat) : Prop :=
  ∃ before after, t = before ++ after ∧ before.size = offset

/-- Tokens, and trivia before, between and after them, make up a text that starts at `offset`.
`first` says that no token stands before it. -/
inductive Tiles : Nat → Bool → List Token → Text → Prop
  | last {offset : Nat} {first : Bool} {gap : Text} (trivia : Trivia gap []) :
      Tiles offset first [] gap
  | token {offset : Nat} {first : Bool} {t : Token} {tokens : List Token} {gap slice rest : Text}
      (trivia : Trivia gap (slice ++ rest)) (spells : t.kind.Spells slice)
      (start : t.start = offset + gap.size) (stop : t.stop = t.start + slice.size)
      (newline : t.newlineBefore = true ↔ first = true ∨ '\n' ∈ gap)
      (more : Tiles t.stop false tokens rest) :
      Tiles offset first (t :: tokens) (gap ++ (slice ++ rest))

namespace Text

/-- A character takes at least a byte, so a nonempty text does. -/
theorem size_pos {t : Text} (h : t ≠ []) : 0 < t.size := by
  cases t with
  | nil => exact absurd rfl h
  | cons c t =>
    have := c.utf8Size_pos
    rw [size_cons]
    omega

end Text

/-- A token is written with at least a character. -/
theorem TokenKind.Spells.ne_nil {kind : TokenKind} {text : Text} (h : kind.Spells text) :
    text ≠ [] := by
  cases h <;> exact List.cons_ne_nil _ _

namespace Tiles

variable {offset : Nat} {first : Bool} {tokens : List Token} {text : Text}

/-- Trivia that has been passed goes in front of the first gap. -/
theorem prepend {gap : Text} (hgap : Trivia gap text)
    (h : Tiles (offset + gap.size) (first || gap.contains '\n') tokens text) :
    Tiles offset first tokens (gap ++ text) := by
  cases h with
  | last trivia => exact .last (.append (by simpa using hgap) trivia)
  | @token _ _ t tokens inner slice rest trivia spells start stop newline more =>
    rw [← List.append_assoc]
    refine .token (hgap.append (by simpa using trivia)) spells ?_ stop ?_ more
    · rw [start, Text.size_append]
      omega
    · rw [newline]
      simp only [Bool.or_eq_true, List.contains_iff_mem, List.mem_append, or_assoc]

end Tiles

/-- Pieces make up a tiling by their tokens. -/
theorem tiles_of_laid {pieces : List Piece} {t : Text} (h : Laid pieces t) :
    ∀ (offset : Nat) (first : Bool),
      Tiles offset first (Piece.tokensFrom offset first pieces) t := by
  induction h with
  | nil => exact fun offset first => .last .nil
  | @cons piece pieces rest _ fits _ ih =>
    intro offset first
    obtain ⟨kind, text⟩ := piece
    cases kind with
    | token kind =>
      have htoken : Tiles offset first
          (⟨kind, offset, offset + text.size, first⟩ ::
            Piece.tokensFrom (offset + text.size) false pieces) ([] ++ (text ++ rest)) :=
        .token .nil fits rfl rfl (by simp) (ih (offset + text.size) false)
      exact htoken
    | blank => exact Tiles.prepend fits (ih _ _)
    | comment => exact Tiles.prepend fits (ih _ _)

/-- The tokens of a text tile it from its start. -/
theorem tiles_of_tokenize {source : Text} {tokens : List Token}
    (h : tokenize source = .ok tokens) : Tiles 0 true tokens source := by
  unfold tokenize at h
  split at h
  · next pieces hcut =>
    cases h
    exact tiles_of_laid (laid_of_cut hcut) 0 true
  · cases h

namespace Tiles

variable {offset : Nat} {first : Bool} {tokens : List Token} {text : Text}

/-- Every token lies in the text, spans at least a byte and ends where characters end. -/
theorem within (h : Tiles offset first tokens text) : ∀ t ∈ tokens,
    offset ≤ t.start ∧ t.start < t.stop ∧ t.stop ≤ offset + text.size ∧
      text.IsBoundary (t.start - offset) ∧ text.IsBoundary (t.stop - offset) := by
  induction h with
  | last => exact fun t ht => absurd ht List.not_mem_nil
  | @token offset first t tokens gap slice rest _ spells start stop _ _ ih =>
    have hslice := Text.size_pos spells.ne_nil
    intro u hu
    rcases List.mem_cons.1 hu with rfl | hu
    · refine ⟨by omega, by omega, by simp only [Text.size_append]; omega, ?_, ?_⟩
      · exact ⟨gap, slice ++ rest, rfl, by omega⟩
      · exact ⟨gap ++ slice, rest, by simp, by rw [Text.size_append]; omega⟩
    · obtain ⟨hfrom, hlt, hto, hstart, hstop⟩ := ih u hu
      -- where characters of the rest end, characters of the whole end
      have boundary : ∀ {n : Nat}, t.stop ≤ n → rest.IsBoundary (n - t.stop) →
          Text.IsBoundary (gap ++ (slice ++ rest)) (n - offset) := by
        rintro n hn ⟨before, after, rfl, hsize⟩
        exact ⟨gap ++ (slice ++ before), after, by simp,
          by simp only [Text.size_append]; omega⟩
      exact ⟨by omega, hlt, by simp only [Text.size_append]; omega, boundary hfrom hstart,
        boundary (by omega) hstop⟩

/-- At its start a token is written as its kind says. -/
theorem written (h : Tiles offset first tokens text) : ∀ t ∈ tokens, ∃ before slice after,
    text = before ++ (slice ++ after) ∧ t.start = offset + before.size ∧ t.kind.Spells slice := by
  induction h with
  | last => exact fun t ht => absurd ht List.not_mem_nil
  | @token offset first t tokens gap slice rest _ spells start stop _ _ ih =>
    intro u hu
    rcases List.mem_cons.1 hu with rfl | hu
    · exact ⟨gap, slice, rest, rfl, start, spells⟩
    · obtain ⟨before, inner, after, rfl, hstart, hspells⟩ := ih u hu
      exact ⟨gap ++ (slice ++ before), inner, after, by simp,
        by simp only [Text.size_append]; omega, hspells⟩

/-- A token ends before the next one starts. -/
theorem ordered (h : Tiles offset first tokens text) :
    tokens.Pairwise fun a b => a.stop ≤ b.start := by
  induction h with
  | last => exact .nil
  | token _ _ _ _ _ more ih =>
    exact .cons (fun u hu => (more.within u hu).1) ih

/-- A token spans something, so it starts before the next one does. -/
theorem starts_increase (h : Tiles offset first tokens text) :
    tokens.Pairwise fun a b => a.start < b.start :=
  h.ordered.imp_of_mem fun ha _ hle => Nat.lt_of_lt_of_le (h.within _ ha).2.1 hle

end Tiles

/-- **The tokens of a text and the trivia between them tile it.** Tokens span at least a byte, lie
between characters and follow one another; before, between and after them stand blanks and
comments alone; a token is written as its kind says, and has a line end before it exactly when it
is the first or the gap before it holds one. -/
theorem tokens_tile_text {source : Text} {tokens : List Token} (h : tokenize source = .ok tokens) :
    Tiles 0 true tokens source ∧
      (∀ t ∈ tokens, t.start < t.stop ∧ t.stop ≤ source.size ∧
        source.IsBoundary t.start ∧ source.IsBoundary t.stop) ∧
      tokens.Pairwise (fun a b => a.stop ≤ b.start) := by
  have htiles := tiles_of_tokenize h
  refine ⟨htiles, fun t ht => ?_, htiles.ordered⟩
  obtain ⟨-, hlt, hto, hstart, hstop⟩ := htiles.within t ht
  exact ⟨hlt, by simpa using hto, hstart, hstop⟩

/-- A comment inside a comment, whose line end marks the arrow after it, and a comment that the
text ends in. -/
theorem nested_comment_tiles :
    Tiles 0 true
        [⟨.ident "a", 0, 1, true⟩, ⟨.arrow, 10, 12, true⟩, ⟨.ident "b", 12, 15, false⟩,
          ⟨.punct '(', 15, 16, false⟩]
        "a/*/*\n*/*/->\x60b\x60(//x".toList :=
  (tokens_tile_text (by decide +kernel)).1

end SwiftTuples
