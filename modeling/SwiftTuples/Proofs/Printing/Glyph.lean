import Mathlib.Data.List.Forall2
import Mathlib.Data.List.TakeWhile
import SwiftTuples.Syntax.Piece
import SwiftTuples.Syntax.TokenParser
/-!
# Glyphs

A printed text is a list of glyphs: tokens, each with what stands between it and the one before it.
A layout says where a space is put that may as well be left out; whatever it says, a legible list
of glyphs is cut into its tokens again (`written_of_tokenize`), each touching the one before it
or beginning a line as its glyph has it.
-/

namespace SwiftTuples

/-! ## Words and marks -/

/-- A letter of a word: ASCII, or a low line. -/
def isWordStart (c : Char) : Bool := c.isAlpha || c = '_'

/-- A character that a word goes on with. -/
def isWordPart (c : Char) : Bool := c.isAlphanum || c = '_'

/-- The characters are a letter and then letters and digits. -/
def isWord : Text → Bool
  | [] => false
  | c :: rest => isWordStart c && rest.all isWordPart

/-- The marks that are printed. -/
def printedMarks : List Char :=
  ['(', ')', '[', ']', '{', '}', '<', '>', '?', '!', '.', ',', ':', '=', '&', '@']

theorem toNat_of_isAlphanum {c : Char} (h : c.isAlphanum) : 48 ≤ c.toNat ∧ c.toNat < 128 := by
  have hranges : (decide (c.val ≥ 'A'.val ∧ c.val ≤ 'Z'.val) ||
      (decide (c.val ≥ 'a'.val) && decide (c.val ≤ 'z'.val)) ||
      (decide (c.val ≥ '0'.val) && decide (c.val ≤ '9'.val))) = true := h
  simp only [Bool.or_eq_true, Bool.and_eq_true, decide_eq_true_eq, ge_iff_le,
    UInt32.le_iff_toNat_le] at hranges
  have hval : c.toNat = c.val.toNat := rfl
  simp at hranges
  omega

theorem isAlphanum_of_isAlpha {c : Char} (h : c.isAlpha) : c.isAlphanum := by
  simp [Char.isAlphanum, h]

theorem isNameStart_of_isWordStart {c : Char} (h : isWordStart c) : isNameStart c := by
  simp only [isWordStart, Bool.or_eq_true, decide_eq_true_eq] at h
  rcases h with halpha | rfl
  · have hlt := (toNat_of_isAlphanum (isAlphanum_of_isAlpha halpha)).2
    simp [isNameStart, Unicode.isAlphabetic, hlt, halpha]
  · decide

theorem isNamePart_of_isWordPart {c : Char} (h : isWordPart c) : isNamePart c := by
  simp only [isWordPart, Bool.or_eq_true, decide_eq_true_eq] at h
  rcases h with halnum | rfl
  · have hlt := (toNat_of_isAlphanum halnum).2
    simp only [Char.isAlphanum, Bool.or_eq_true] at halnum
    simp [isNamePart, isAlphanumeric, Unicode.isAlphabetic, Unicode.isNumber, hlt, halnum]
  · decide

/-- A word begins neither like a blank nor like a comment. -/
theorem not_isBlank_of_isWordStart {c : Char} (h : isWordStart c) :
    ¬ Unicode.isBlank c ∧ c ≠ '/' := by
  simp only [isWordStart, Bool.or_eq_true, decide_eq_true_eq] at h
  rcases h with halpha | rfl
  · obtain ⟨hge, hlt⟩ := toNat_of_isAlphanum (isAlphanum_of_isAlpha halpha)
    constructor
    · intro hblank
      rw [Unicode.isBlank, if_pos hlt] at hblank
      simp only [Bool.or_eq_true, Bool.and_eq_true, beq_iff_eq, decide_eq_true_eq] at hblank
      rcases hblank with rfl | ⟨-, hle⟩
      · cases halpha
      · omega
    · rintro rfl
      cases halpha
  · decide

/-! ## Glyphs -/

/-- What stands between a glyph and the one before it. -/
inductive Gap where
  | nothing
  | space
  /-- A space, or nothing where the glyphs stay apart without one. -/
  | free
  /-- A line end. -/
  | line
deriving DecidableEq, Repr

/-- A token to be printed, and the gap before it. -/
structure Glyph where
  kind : TokenKind
  gap : Gap
deriving DecidableEq, Repr

namespace TokenKind

/-- What a token that is no literal is printed as. -/
def printed : TokenKind → Text
  | ident name => name.toList
  | literal => []
  | arrow => ['-', '>']
  | punct c => [c]

/-- The token is a name. -/
def isName : TokenKind → Bool
  | ident _ => true
  | _ => false

/-- The token can be printed: it is a word, an arrow or one of the marks. -/
def printable : TokenKind → Bool
  | ident name => isWord name.toList
  | literal => false
  | arrow => true
  | punct c => printedMarks.contains c

end TokenKind

namespace Glyph

/-- A word. -/
def word (text : String) : Glyph := ⟨.ident text, .free⟩

/-- A mark. -/
def mark (c : Char) : Glyph := ⟨.punct c, .free⟩

/-- A mark that touches what it follows. -/
def suffix (c : Char) : Glyph := ⟨.punct c, .nothing⟩

/-- The arrow before a result. -/
def arrow : Glyph := ⟨.arrow, .free⟩

/-- The glyph at the start of a line. -/
def onLine (g : Glyph) : Glyph := { g with gap := .line }

/-- What is printed before a glyph, `afterName` saying that it follows a name. -/
def lead (loose afterName : Bool) (g : Glyph) : Text :=
  match g.gap with
  | .nothing => []
  | .space => [' ']
  | .free => if loose || (afterName && g.kind.isName) then [' '] else []
  | .line => ['\n']

/-- The glyph can be read back: its token can be printed, and no name touches what it follows. -/
def Plain (g : Glyph) : Prop := g.kind.printable ∧ (g.kind.isName → g.gap ≠ .nothing)

end Glyph

/-- Glyphs after others, in the layout that puts a space where `loose` of the number of glyphs to
come says so. -/
def renderAfter (loose : Nat → Bool) (afterName : Bool) : List Glyph → Text
  | [] => []
  | g :: gs =>
    g.lead (loose gs.length) afterName ++ g.kind.printed ++ renderAfter loose g.kind.isName gs

/-- Glyphs, the first of them at the start of the text. -/
def render (loose : Nat → Bool) : List Glyph → Text
  | [] => []
  | g :: gs => g.kind.printed ++ renderAfter loose g.kind.isName gs

/-- The glyphs are plain, no line begins right after a dot, and the braces close `pending` braces
opened before them and those they open. `afterDot` says that a dot stands before them. -/
inductive Legible : Bool → Nat → List Glyph → Prop
  | nil {afterDot : Bool} : Legible afterDot 0 []
  | opening {afterDot : Bool} {pending : Nat} {gap : Gap} {gs : List Glyph}
      (line : afterDot → gap ≠ .line) (more : Legible false (pending + 1) gs) :
      Legible afterDot pending (⟨.punct '{', gap⟩ :: gs)
  | closing {afterDot : Bool} {pending : Nat} {gap : Gap} {gs : List Glyph}
      (line : afterDot → gap ≠ .line) (more : Legible false pending gs) :
      Legible afterDot (pending + 1) (⟨.punct '}', gap⟩ :: gs)
  | other {afterDot : Bool} {pending : Nat} {g : Glyph} {gs : List Glyph} (plain : g.Plain)
      (line : afterDot → g.gap ≠ .line) (no_opening : g.kind ≠ .punct '{')
      (no_closing : g.kind ≠ .punct '}') (more : Legible (g.kind = .punct '.') pending gs) :
      Legible afterDot pending (g :: gs)

namespace Legible

variable {afterDot : Bool} {pending : Nat} {g : Glyph} {gs : List Glyph}

/-- What legibility says of the first glyph, and that the others are legible. -/
theorem uncons (h : Legible afterDot pending (g :: gs)) :
    g.Plain ∧ (afterDot → g.gap ≠ .line) ∧
      ∃ pending, Legible (g.kind = .punct '.') pending gs := by
  cases h with
  | opening line more => exact ⟨⟨by rfl, fun h => by cases h⟩, line, _, more⟩
  | closing line more => exact ⟨⟨by rfl, fun h => by cases h⟩, line, _, more⟩
  | other plain line _ _ more => exact ⟨plain, line, _, more⟩

theorem head_plain (h : Legible afterDot pending gs) : ∀ g ∈ gs.head?, g.Plain := by
  cases gs with
  | nil => exact fun g hg => by cases hg
  | cons g gs => exact fun _ hg => by cases hg; exact h.uncons.1

end Legible

/-- The token is the glyph's, with a gap before it that the glyph's allows. -/
structure Glyph.Matches (g : Glyph) (t : Placed) : Prop where
  kind : t.kind = g.kind
  newline : t.newlineBefore = decide (g.gap = .line)
  touching : g.gap = .nothing → t.touching
  apart : g.gap = .space ∨ g.gap = .line → ¬ t.touching
  afterDot : g.gap = .line → ¬ t.afterDot

/-- The tokens are those of the glyphs. -/
inductive Written : List Glyph → List Placed → Prop
  | nil : Written [] []
  | cons {g : Glyph} {gs : List Glyph} {t : Placed} {ts : List Placed} (first : g.Matches t)
      (more : Written gs ts) : Written (g :: gs) (t :: ts)

instance (g : Glyph) (t : Placed) : Decidable (g.Matches t) :=
  decidable_of_iff (t.kind = g.kind ∧ t.newlineBefore = decide (g.gap = .line) ∧
      (g.gap = .nothing → t.touching) ∧ (g.gap = .space ∨ g.gap = .line → ¬ t.touching) ∧
      (g.gap = .line → ¬ t.afterDot))
    ⟨fun ⟨hkind, hline, htouching, hapart, hdot⟩ => ⟨hkind, hline, htouching, hapart, hdot⟩,
      fun h => ⟨h.kind, h.newline, h.touching, h.apart, h.afterDot⟩⟩

theorem written_iff {gs : List Glyph} {ts : List Placed} :
    Written gs ts ↔ List.Forall₂ Glyph.Matches gs ts := by
  constructor
  · intro h
    induction h with
    | nil => exact .nil
    | cons first _ ih => exact .cons first ih
  · intro h
    induction h with
    | nil => exact .nil
    | cons first _ ih => exact .cons first ih

instance (gs : List Glyph) (ts : List Placed) : Decidable (Written gs ts) :=
  decidable_of_iff _ written_iff.symm

/-! ## Cutting a printed text -/

namespace Glyph

/-- The pieces of a glyph: what stands before it, and its token. -/
def pieces (loose afterName : Bool) (g : Glyph) : List Piece :=
  (g.lead loose afterName).map (fun c => ⟨.blank, [c]⟩) ++ [⟨.token g.kind, g.kind.printed⟩]

end Glyph

/-- The pieces of glyphs after others. -/
def piecesAfter (loose : Nat → Bool) (afterName : Bool) : List Glyph → List Piece
  | [] => []
  | g :: gs => g.pieces (loose gs.length) afterName ++ piecesAfter loose g.kind.isName gs

/-- No name goes on with the text. -/
def EndsName (t : Text) : Prop := ∀ c ∈ t.head?, ¬ isNamePart c

theorem endsName_nil : EndsName [] := fun c hc => by cases hc

theorem takeWhile_append_of_endsName {name rest : Text} (hname : ∀ c ∈ name, isNamePart c)
    (hrest : EndsName rest) : (name ++ rest).takeWhile isNamePart = name := by
  rw [List.takeWhile_append_of_pos hname]
  cases rest with
  | nil => simp
  | cons c rest =>
    rw [List.takeWhile_cons_of_neg (hrest c rfl), List.append_nil]

/-- A printed token is cut off the text that follows it. -/
theorem atFront_printed {kind : TokenKind} (hkind : kind.printable) {rest : Text}
    (hrest : kind.isName → EndsName rest) (operand : Bool) :
    ∃ c more, kind.printed = c :: more ∧
      PieceKind.atFront operand c (more ++ rest) = .ok (.token kind, more.length) := by
  cases kind with
  | literal => cases hkind
  | arrow => exact ⟨'-', ['>'], rfl, rfl⟩
  | punct c =>
    refine ⟨c, [], rfl, ?_⟩
    simp only [TokenKind.printable, printedMarks, List.contains_iff_mem, List.mem_cons,
      List.not_mem_nil, or_false] at hkind
    rcases hkind with rfl | rfl | rfl | rfl | rfl | rfl | rfl | rfl | rfl | rfl | rfl | rfl | rfl |
      rfl | rfl | rfl <;> rfl
  | ident name =>
    simp only [TokenKind.printable] at hkind
    cases hchars : name.toList with
    | nil =>
      rw [hchars] at hkind
      cases hkind
    | cons c more =>
      rw [hchars, isWord, Bool.and_eq_true, List.all_eq_true] at hkind
      obtain ⟨hstart, hparts⟩ := hkind
      obtain ⟨hblank, hslash⟩ := not_isBlank_of_isWordStart hstart
      have htake : (more ++ rest).takeWhile isNamePart = more :=
        takeWhile_append_of_endsName (fun d hd => isNamePart_of_isWordPart (hparts d hd))
          (hrest rfl)
      have hname : String.ofList (c :: more) = name := by rw [← hchars, String.ofList_toList]
      refine ⟨c, more, hchars, ?_⟩
      rw [PieceKind.atFront, if_neg hblank, if_neg (by simp [hslash]), if_neg (by simp [hslash]),
        if_pos (isNameStart_of_isWordStart hstart), htake]
      dsimp only
      rw [hname]

namespace Piece

/-- A printed token is cut off. -/
theorem cutFrom_printed {kind : TokenKind} (hkind : kind.printable) {rest : Text}
    (hrest : kind.isName → EndsName rest) (operand : Bool) (done : List Piece) :
    cutFrom operand done (kind.printed ++ rest) =
      cutFrom kind.beforeOperand (⟨.token kind, kind.printed⟩ :: done) rest := by
  obtain ⟨c, more, hprinted, hfront⟩ := atFront_printed hkind hrest operand
  rw [hprinted, List.cons_append, cutFrom, hfront]
  simp only [List.take_left, List.drop_left]
  rfl

/-- The blank before a glyph is cut off. -/
theorem cutFrom_lead (g : Glyph) (loose afterName operand : Bool) (done : List Piece)
    (rest : Text) : cutFrom operand done (g.lead loose afterName ++ rest) =
      cutFrom operand
        (((g.lead loose afterName).map fun c => ⟨.blank, [c]⟩).reverse ++ done) rest := by
  have hblank : ∀ c, Unicode.isBlank c → cutFrom operand done (c :: rest) =
      cutFrom operand (⟨.blank, [c]⟩ :: done) rest := by
    intro c hc
    have hfront : PieceKind.atFront operand c rest = .ok (.blank, 0) := by
      rw [PieceKind.atFront, if_pos hc]
    rw [cutFrom, hfront]
    rfl
  unfold Glyph.lead
  cases g.gap with
  | nothing => rfl
  | space => exact hblank ' ' rfl
  | line => exact hblank '\n' rfl
  | free =>
    dsimp only
    split
    · exact hblank ' ' rfl
    · rfl

end Piece

/-- A token that is no name is printed with a character that belongs to none. -/
theorem printed_of_not_isName {kind : TokenKind} (hkind : kind.printable) (h : ¬ kind.isName) :
    ∃ c more, kind.printed = c :: more ∧ ¬ isNamePart c := by
  cases kind with
  | ident name => exact absurd rfl h
  | literal => cases hkind
  | arrow => exact ⟨'-', ['>'], rfl, by decide⟩
  | punct c =>
    refine ⟨c, [], rfl, ?_⟩
    simp only [TokenKind.printable, printedMarks, List.contains_iff_mem, List.mem_cons,
      List.not_mem_nil, or_false] at hkind
    rcases hkind with rfl | rfl | rfl | rfl | rfl | rfl | rfl | rfl | rfl | rfl | rfl | rfl | rfl |
      rfl | rfl | rfl <;> decide

/-- What follows a name does not go on with it. -/
theorem endsName_renderAfter (loose : Nat → Bool) {gs : List Glyph}
    (h : ∀ g ∈ gs.head?, g.Plain) {rest : Text} (hrest : EndsName rest) :
    EndsName (renderAfter loose true gs ++ rest) := by
  cases gs with
  | nil => exact hrest
  | cons g gs =>
    obtain ⟨hprintable, hname⟩ := h g rfl
    have hspace : ∀ rest, EndsName (' ' :: rest) := fun rest c hc => by cases hc; decide
    have hmark : ¬ g.kind.isName → ∀ rest, EndsName (g.kind.printed ++ rest) := by
      intro hnot rest c hc
      obtain ⟨d, more, hprinted, hd⟩ := printed_of_not_isName hprintable hnot
      rw [hprinted] at hc
      cases hc
      exact hd
    rw [renderAfter, List.append_assoc, List.append_assoc]
    unfold Glyph.lead
    cases hgap : g.gap with
    | nothing => exact hmark (fun hisName => hname hisName hgap) _
    | space => exact hspace _
    | line => exact fun c hc => by cases hc; decide
    | free =>
      dsimp only
      split
      · exact hspace _
      · next hnot =>
        simp only [Bool.true_and, Bool.or_eq_true, not_or] at hnot
        exact hmark hnot.2 _

/-- **Printed glyphs are cut into their pieces**, in front of any text that goes on with no name. -/
theorem cutFrom_renderAfter_append (loose : Nat → Bool) (afterName : Bool) {afterDot : Bool}
    {pending : Nat} {gs : List Glyph} (h : Legible afterDot pending gs) {rest : Text}
    (hrest : EndsName rest) (operand : Bool) (done : List Piece) :
    ∃ operand', Piece.cutFrom operand done (renderAfter loose afterName gs ++ rest) =
      Piece.cutFrom operand' ((piecesAfter loose afterName gs).reverse ++ done) rest := by
  induction gs generalizing afterName afterDot pending operand done with
  | nil => exact ⟨operand, rfl⟩
  | cons g gs ih =>
    obtain ⟨⟨hprintable, hname⟩, -, _, hmore⟩ := h.uncons
    have hends : g.kind.isName → EndsName (renderAfter loose g.kind.isName gs ++ rest) := fun hg =>
      hg ▸ endsName_renderAfter loose hmore.head_plain hrest
    obtain ⟨operand', hcut⟩ := ih g.kind.isName hmore g.kind.beforeOperand
      (⟨.token g.kind, g.kind.printed⟩ ::
        (((g.lead (loose gs.length) afterName).map fun c => ⟨.blank, [c]⟩).reverse ++ done))
    refine ⟨operand', ?_⟩
    rw [renderAfter, List.append_assoc, List.append_assoc, Piece.cutFrom_lead,
      Piece.cutFrom_printed hprintable hends, hcut]
    simp [piecesAfter, Glyph.pieces]

theorem cutFrom_renderAfter (loose : Nat → Bool) {afterName afterDot : Bool} {pending : Nat}
    {gs : List Glyph} (h : Legible afterDot pending gs) (operand : Bool) (done : List Piece) :
    Piece.cutFrom operand done (renderAfter loose afterName gs) =
      .ok (done.reverse ++ piecesAfter loose afterName gs) := by
  obtain ⟨_, hcut⟩ := cutFrom_renderAfter_append loose afterName h endsName_nil operand done
  rw [List.append_nil, Piece.cutFrom] at hcut
  rw [hcut, List.reverse_append, List.reverse_reverse]

/-- A printed text is cut into the pieces of its glyphs, in front of any text that goes on with no
name. -/
theorem cut_render_append (loose : Nat → Bool) {g : Glyph} {gs : List Glyph}
    (h : Legible false 0 (g :: gs)) {rest : Text} (hrest : EndsName rest) :
    ∃ operand, Piece.cut (render loose (g :: gs) ++ rest) = Piece.cutFrom operand
      (⟨.token g.kind, g.kind.printed⟩ :: piecesAfter loose g.kind.isName gs).reverse rest := by
  obtain ⟨⟨hprintable, hname⟩, -, _, hmore⟩ := h.uncons
  have hends : g.kind.isName → EndsName (renderAfter loose g.kind.isName gs ++ rest) := fun hg =>
    hg ▸ endsName_renderAfter loose hmore.head_plain hrest
  obtain ⟨operand, hcut⟩ := cutFrom_renderAfter_append loose g.kind.isName hmore
    hrest g.kind.beforeOperand [⟨.token g.kind, g.kind.printed⟩]
  refine ⟨operand, ?_⟩
  rw [render, List.append_assoc, Piece.cut, Piece.cutFrom_printed hprintable hends, hcut,
    List.reverse_cons]

/-! ## The tokens of a printed text -/

/-- The pieces of a glyph hold its token. -/
theorem tokensFrom_pieces (g : Glyph) (loose afterName newline : Bool) (offset : Nat)
    (rest : List Piece) :
    Piece.tokensFrom offset newline (g.pieces loose afterName ++ rest) =
      ⟨g.kind, offset + (g.lead loose afterName).size,
        offset + (g.lead loose afterName).size + g.kind.printed.size,
        newline || decide (g.gap = .line)⟩ ::
      Piece.tokensFrom (offset + (g.lead loose afterName).size + g.kind.printed.size) false
        rest := by
  have hblank : ∀ c : Char, Piece.tokensFrom offset newline
      (⟨.blank, [c]⟩ :: ⟨.token g.kind, g.kind.printed⟩ :: rest) =
        ⟨g.kind, offset + Text.size [c], offset + Text.size [c] + g.kind.printed.size,
          newline || [c].contains '\n'⟩ ::
        Piece.tokensFrom (offset + Text.size [c] + g.kind.printed.size) false rest := fun c => rfl
  unfold Glyph.pieces Glyph.lead
  cases hgap : g.gap with
  | nothing => simp [Piece.tokensFrom]
  | space => simpa using hblank ' '
  | line => simpa using hblank '\n'
  | free =>
    dsimp only
    split
    · simpa using hblank ' '
    · simp [Piece.tokensFrom]

/-- The tokens of printed glyphs are those of the glyphs, after a token that ends where they
start and in front of any other pieces. -/
theorem written_piecesAfter_append (loose : Nat → Bool) {pending : Nat} {gs : List Glyph}
    (before : Token) (h : Legible (before.is '.') pending gs) (afterName : Bool)
    (more : List Piece) :
    ∃ ts last, Placed.following (some before)
        (Piece.tokensFrom before.stop false (piecesAfter loose afterName gs ++ more)) =
          ts ++ Placed.following (some last) (Piece.tokensFrom last.stop false more) ∧
      Written gs ts := by
  induction gs generalizing before pending afterName with
  | nil => exact ⟨[], before, rfl, .nil⟩
  | cons g gs ih =>
    obtain ⟨-, hdot, _, hmore⟩ := h.uncons
    rw [piecesAfter, List.append_assoc, tokensFrom_pieces, Placed.following]
    -- the token of this glyph is the one before the rest, wherever it starts and stops
    obtain ⟨ts, last, hts, hwritten⟩ := ih ⟨g.kind, _, _, _⟩ (by simpa [Token.is] using hmore) _
    refine ⟨_ :: ts, last, congrArg _ hts, .cons ?_ hwritten⟩
    have hlead : g.gap = .space ∨ g.gap = .line →
        0 < (g.lead (loose gs.length) afterName).size := by
      rintro (hgap | hgap) <;> simp [Glyph.lead, hgap] <;> decide
    exact {
      kind := rfl
      newline := rfl
      touching := fun hgap => by simp [Glyph.lead, hgap]
      apart := fun hgap => by
        have := hlead hgap
        simp only [Option.any_some, decide_eq_true_eq]
        omega
      afterDot := fun hgap => by
        simp only [Option.any_some]
        exact fun his => hdot his hgap }

theorem written_piecesAfter (loose : Nat → Bool) {pending : Nat} {gs : List Glyph} (before : Token)
    (h : Legible (before.is '.') pending gs) (afterName : Bool) :
    Written gs (Placed.following (some before)
      (Piece.tokensFrom before.stop false (piecesAfter loose afterName gs))) := by
  obtain ⟨ts, last, hts, hwritten⟩ := written_piecesAfter_append loose before h afterName []
  rw [List.append_nil] at hts
  rw [hts]
  simpa [Piece.tokensFrom, Placed.following] using hwritten

/-- The first of printed glyphs may be the first of the text. -/
theorem written_render_append (loose : Nat → Bool) {g : Glyph} {gs : List Glyph}
    (h : Legible false 0 (g :: gs)) (hline : g.gap = .line) (more : List Piece) :
    ∃ ts last, Placed.ofTokens (Piece.tokens
        (⟨.token g.kind, g.kind.printed⟩ :: piecesAfter loose g.kind.isName gs ++ more)) =
          ts ++ Placed.following (some last) (Piece.tokensFrom last.stop false more) ∧
      Written (g :: gs) ts := by
  obtain ⟨-, -, _, hmore⟩ := h.uncons
  obtain ⟨ts, last, hts, hwritten⟩ := written_piecesAfter_append loose
    ⟨g.kind, 0, 0 + g.kind.printed.size, true⟩ (by simpa [Token.is] using hmore) g.kind.isName more
  refine ⟨_ :: ts, last, congrArg _ hts, .cons ?_ hwritten⟩
  exact {
    kind := rfl
    newline := by simp [hline]
    touching := fun hgap => by rw [hline] at hgap; cases hgap
    apart := fun _ => by simp
    afterDot := fun _ => by simp }

/-- **A printed text is cut into the tokens of its glyphs**, whatever the layout. -/
theorem written_of_tokenize (loose : Nat → Bool) {gs : List Glyph} (h : Legible false 0 gs)
    (hfirst : ∀ g ∈ gs.head?, g.gap = .line) :
    ∃ tokens, tokenize (render loose gs) = .ok tokens ∧ Written gs (Placed.ofTokens tokens) := by
  cases gs with
  | nil => exact ⟨[], by rw [render, tokenize, Piece.cut, Piece.cutFrom]; rfl, .nil⟩
  | cons g gs =>
    obtain ⟨_, hcut⟩ := cut_render_append loose h endsName_nil
    obtain ⟨ts, last, hts, hwritten⟩ := written_render_append loose h (hfirst g rfl) []
    rw [List.append_nil, Piece.cutFrom, List.reverse_reverse] at hcut
    rw [List.append_nil, Piece.tokensFrom, Placed.following, List.append_nil] at hts
    exact ⟨_, by rw [tokenize, hcut], hts ▸ hwritten⟩

end SwiftTuples
