import SwiftTuples.Proofs.Lexing.Locality
/-!
# The piece at the front of a text

Which piece the cut makes at the front of a text, case by case in the order in which they are tried
(`Front`), and what it looks at for that. `Cuts` is the cut as a relation, without the pieces
already made.
-/

namespace SwiftTuples

namespace PieceKind

/-- Neither a blank nor a comment is at the front of a text. -/
structure Solid (c : Char) (rest : Text) : Prop where
  blank : ¬ Unicode.isBlank c
  line : ¬ (c = '/' && rest.head? = some '/') = true
  block : ¬ (c = '/' && rest.head? = some '*') = true

/-- And neither is a name, a number or a string. -/
structure Mark (c : Char) (rest : Text) : Prop extends Solid c rest where
  name : ¬ isNameStart c
  tick : c ≠ '\x60'
  digit : ¬ c.isDigit
  quote : ¬ (c = '"' || (c = '#' && Literal.isRawString (c :: rest))) = true

/-- A regular expression may be at the front of a text that starts with the character. -/
def mayOpenRegex (operand : Bool) (c : Char) : Bool := (c = '/' || c = '#') && operand

/-- The piece at the front of a text, and the characters that belong to it after the first. -/
inductive Front (operand : Bool) (c : Char) (rest : Text) : PieceKind → Nat → Prop
  | blank (h : Unicode.isBlank c) : Front operand c rest .blank 0
  | lineComment (slash : c = '/') (h : rest.head? = some '/') :
      Front operand c rest .comment (rest.takeWhile (· ≠ '\n')).length
  | blockComment {n : Nat} (slash : c = '/') (h : rest.head? = some '*')
      (body : Literal.blockComment 0 1 rest.tail = some n) : Front operand c rest .comment n
  | name (solid : Solid c rest) (h : isNameStart c) :
      Front operand c rest (.token (.ident (String.ofList (c :: rest.takeWhile isNamePart))))
        (rest.takeWhile isNamePart).length
  | escaped {name : Text} (solid : Solid c rest) (tick : c = '\x60')
      (h : name = rest.takeWhile fun d => d ≠ '\x60' && d ≠ '\n')
      (closed : (rest.drop name.length).head? = some '\x60') :
      Front operand c rest (.token (.ident (String.ofList name))) (name.length + 1)
  | number (solid : Solid c rest) (name : ¬ isNameStart c) (tick : c ≠ '\x60') (h : c.isDigit) :
      Front operand c rest (.token .literal) (Literal.number 0 rest)
  | string {n : Nat} (solid : Solid c rest) (name : ¬ isNameStart c) (tick : c ≠ '\x60')
      (digit : ¬ c.isDigit)
      (quote : (c = '"' || (c = '#' && Literal.isRawString (c :: rest))) = true)
      (h : Literal.string (c :: rest) = .ok n) : Front operand c rest (.token .literal) (n - 1)
  | regex {n : Nat} (mark : Mark c rest) (slash : mayOpenRegex operand c)
      (h : Literal.regex (c :: rest) = some n) : Front operand c rest (.token .literal) (n - 1)
  | arrow (mark : Mark c rest) (dash : c = '-') (h : rest.head? = some '>') :
      Front operand c rest (.token .arrow) 1
  | punct (mark : Mark c rest) (regex : mayOpenRegex operand c → Literal.regex (c :: rest) = none)
      (arrow : ¬ (c = '-' && rest.head? = some '>') = true) :
      Front operand c rest (.token (.punct c)) 0

variable {operand : Bool} {c : Char} {rest : Text} {kind : PieceKind} {n : Nat}

/-- A mark is itself, unless it opens a regular expression or an arrow. -/
theorem atFront_of_mark (h : Mark c rest) : atFront operand c rest =
    match if mayOpenRegex operand c then Literal.regex (c :: rest) else none with
    | some n => .ok (.token .literal, n - 1)
    | none =>
      if c = '-' && rest.head? = some '>' then .ok (.token .arrow, 1)
      else .ok (.token (.punct c), 0) := by
  rw [atFront, if_neg h.blank, if_neg h.line, if_neg h.block, if_neg h.name, if_neg h.tick,
    if_neg h.digit, if_neg h.quote]
  rfl

/-- The piece that the cut makes is at the front. -/
theorem front_of_atFront (h : atFront operand c rest = .ok (kind, n)) :
    Front operand c rest kind n := by
  by_cases hblank : Unicode.isBlank c
  · rw [atFront, if_pos hblank] at h
    cases h
    exact .blank hblank
  by_cases hline : (c = '/' && rest.head? = some '/') = true
  · rw [atFront, if_neg hblank, if_pos hline] at h
    cases h
    simp only [Bool.and_eq_true, decide_eq_true_eq] at hline
    exact .lineComment hline.1 hline.2
  by_cases hblock : (c = '/' && rest.head? = some '*') = true
  · rw [atFront, if_neg hblank, if_neg hline, if_pos hblock] at h
    simp only [Bool.and_eq_true, decide_eq_true_eq] at hblock
    split at h
    · next body =>
      cases h
      exact .blockComment hblock.1 hblock.2 body
    · cases h
  have solid : Solid c rest := ⟨hblank, hline, hblock⟩
  by_cases hname : isNameStart c
  · rw [atFront, if_neg hblank, if_neg hline, if_neg hblock, if_pos hname] at h
    cases h
    exact .name solid hname
  by_cases htick : c = '\x60'
  · rw [atFront, if_neg hblank, if_neg hline, if_neg hblock, if_neg hname, if_pos htick] at h
    dsimp only at h
    split at h
    · next closed =>
      cases h
      exact .escaped solid htick rfl closed
    · cases h
  by_cases hdigit : c.isDigit
  · rw [atFront, if_neg hblank, if_neg hline, if_neg hblock, if_neg hname, if_neg htick,
      if_pos hdigit] at h
    cases h
    exact .number solid hname htick hdigit
  by_cases hquote : (c = '"' || (c = '#' && Literal.isRawString (c :: rest))) = true
  · rw [atFront, if_neg hblank, if_neg hline, if_neg hblock, if_neg hname, if_neg htick,
      if_neg hdigit, if_pos hquote] at h
    split at h
    · next hstring =>
      cases h
      exact .string solid hname htick hdigit hquote hstring
    · cases h
  have mark : Mark c rest := ⟨solid, hname, htick, hdigit, hquote⟩
  rw [atFront_of_mark mark] at h
  split at h
  · next m hregex =>
    cases h
    split at hregex
    · next slash => exact .regex mark slash hregex
    · cases hregex
  · next hregex =>
    split at h
    · next harrow =>
      cases h
      simp only [Bool.and_eq_true, decide_eq_true_eq] at harrow
      exact .arrow mark harrow.1 harrow.2
    · next harrow =>
      cases h
      exact .punct mark (fun slash => by rwa [if_pos slash] at hregex) harrow

/-- **The cut makes the piece that is at the front.** -/
theorem Front.atFront_eq (h : Front operand c rest kind n) :
    atFront operand c rest = .ok (kind, n) := by
  cases h with
  | blank h => rw [atFront, if_pos h]
  | lineComment slash h =>
    subst slash
    rw [atFront, if_neg (by decide), if_pos (by simp [h])]
  | blockComment slash h body =>
    subst slash
    rw [atFront, if_neg (by decide), if_neg (by simp [h]), if_pos (by simp [h]), body]
  | name solid h =>
    rw [atFront, if_neg solid.blank, if_neg solid.line, if_neg solid.block, if_pos h]
  | @escaped name solid tick h closed =>
    subst tick
    rw [atFront, if_neg solid.blank, if_neg solid.line, if_neg solid.block, if_neg (by decide),
      if_pos rfl]
    simp only [← h, if_pos closed]
  | number solid name tick h =>
    rw [atFront, if_neg solid.blank, if_neg solid.line, if_neg solid.block, if_neg name,
      if_neg tick, if_pos h]
  | string solid name tick digit quote h =>
    rw [atFront, if_neg solid.blank, if_neg solid.line, if_neg solid.block, if_neg name,
      if_neg tick, if_neg digit, if_pos quote, h]
  | regex mark slash h => rw [atFront_of_mark mark, if_pos slash, h]
  | arrow mark dash h =>
    subst dash
    rw [atFront_of_mark mark, if_neg (by cases operand <;> decide)]
    simp [h]
  | punct mark regex arrow =>
    have hnone : (if mayOpenRegex operand c then Literal.regex (c :: rest) else none) = none := by
      split
      · next slash => exact regex slash
      · rfl
    rw [atFront_of_mark mark, hnone]
    simp only [if_neg arrow]

/-! ## What the cut looks at -/

theorem Solid.of_yields {u : Text} (h : Solid c rest) (hu : Yields rest u) : Solid c u := by
  have hhead : ∀ d, d ≠ ' ' → ¬ (c = '/' && rest.head? = some d) = true →
      ¬ (c = '/' && u.head? = some d) = true := by
    intro d hd hrest
    simp only [Bool.and_eq_true, decide_eq_true_eq] at hrest ⊢
    exact fun ⟨hc, hud⟩ => hrest ⟨hc, hu.head hd hud⟩
  exact ⟨h.blank, hhead '/' (by decide) h.line, hhead '*' (by decide) h.block⟩

/-- A text that yields a raw string has it itself. -/
theorem isRawString_of_yields {t u : Text} (hu : Yields t u) (h : Literal.isRawString u) :
    Literal.isRawString t := by
  obtain ⟨k, more, rfl⟩ := Literal.exists_quote h
  have hquote : List.replicate k '#' ++ ['"'] <+: t :=
    hu.starts _ (by simp) ⟨more, by simp⟩
  obtain ⟨after, rfl⟩ := hquote
  rw [List.append_assoc]
  exact Literal.isRawString_replicate k after

theorem Mark.of_yields {u : Text} (h : Mark c rest) (hu : Yields rest u) : Mark c u := by
  refine ⟨h.toSolid.of_yields hu, h.name, h.tick, h.digit, ?_⟩
  have hquote := h.quote
  simp only [Bool.or_eq_true, Bool.and_eq_true, decide_eq_true_eq] at hquote ⊢
  exact fun hraw => hquote
    (hraw.imp_right fun ⟨hc, hraw⟩ => ⟨hc, isRawString_of_yields (hu.append [c]) hraw⟩)

/-- A run of characters that are no spaces ends before the first that does not belong to it. -/
theorem decides_takeWhile (p : Char → Bool) (hp : p ' ' = false) (t : Text) :
    Decides (t.takeWhile p).length t fun u => u.takeWhile p = t.takeWhile p := by
  induction t with
  | nil =>
    refine .zero fun u hu => ?_
    cases hu with
    | stop hspace =>
      cases u with
      | nil => rfl
      | cons d u =>
        obtain rfl := hspace d rfl
        rw [List.takeWhile_cons_of_neg (by simp [hp]), List.takeWhile_nil]
  | cons c t ih =>
    by_cases hc : p c
    · rw [List.takeWhile_cons_of_pos hc]
      exact ih.cons c fun u _ hu => by rw [List.takeWhile_cons_of_pos hc, hu]
    · rw [List.takeWhile_cons_of_neg hc]
      refine .zero fun u hu => ?_
      cases u with
      | nil => rfl
      | cons d u =>
        refine List.takeWhile_cons_of_neg fun hd => ?_
        have hspace : d ≠ ' ' := by
          rintro rfl
          rw [hp] at hd
          cases hd
        obtain rfl : c = d := Option.some.inj (hu.head hspace rfl)
        exact hc hd

/-- A run with the character that ends it is followed by anything. -/
theorem decides_closed {p : Char → Bool} {close : Char} (hp : p close = false) {t : Text}
    (h : (t.drop (t.takeWhile p).length).head? = some close) :
    Decides ((t.takeWhile p).length + 1) t fun u => t.takeWhile p = u.takeWhile p ∧
      (u.drop (t.takeWhile p).length).head? = some close := by
  induction t with
  | nil => cases h
  | cons c t ih =>
    by_cases hc : p c
    · rw [List.takeWhile_cons_of_pos hc] at h ⊢
      exact (ih h).cons c fun u _ hu => ⟨by rw [List.takeWhile_cons_of_pos hc, hu.1], hu.2⟩
    · rw [List.takeWhile_cons_of_neg hc] at h ⊢
      obtain rfl : c = close := Option.some.inj h
      exact .front [c] fun u => ⟨(List.takeWhile_cons_of_neg hc).symm, rfl⟩

/-- **A piece other than a mark or a line comment is found by its own characters**, and by a look
at what follows them. -/
theorem Front.decides (h : Front operand c rest kind n)
    (hline : kind = .comment → rest.head? ≠ some '/') (hpunct : ∀ d, kind ≠ .token (.punct d)) :
    Decides n rest fun u => Front operand c u kind n := by
  cases h with
  | blank h => exact .zero fun _ _ => .blank h
  | lineComment slash h => exact absurd h (hline rfl)
  | @blockComment n slash star body =>
    obtain ⟨k, rfl, hdecides⟩ := Literal.decides_blockComment body
    obtain ⟨more, rfl⟩ := List.head?_eq_some_iff.1 star
    rw [Nat.add_comm]
    exact hdecides.cons '*' fun u _ hu => Nat.add_comm k 1 ▸ .blockComment slash rfl (hu 1)
  | name solid h =>
    refine (decides_takeWhile isNamePart (by decide) rest).imp fun u hu htake => ?_
    rw [← htake]
    exact .name (solid.of_yields hu) h
  | @escaped name solid tick h closed =>
    subst h
    exact (decides_closed (by decide) closed).imp fun u hu hname =>
      .escaped (solid.of_yields hu) tick hname.1 hname.2
  | number solid name tick h =>
    obtain ⟨n, hn, hdecides⟩ := Literal.decides_number 0 rest
    rw [hn, Nat.zero_add]
    refine hdecides.imp fun u hu hnumber => ?_
    rw [← Nat.zero_add n, ← hnumber 0]
    exact .number (solid.of_yields hu) name tick h
  | @string m solid name tick digit quote h =>
    have hraw : Literal.isRawString (c :: rest) := by
      simp only [Bool.or_eq_true, Bool.and_eq_true, decide_eq_true_eq] at quote
      rcases quote with rfl | ⟨-, hraw⟩
      · exact Literal.isRawString_replicate 0 rest
      · exact hraw
    obtain ⟨hpos, hdecides⟩ := Literal.decides_string hraw h
    obtain ⟨n, rfl⟩ := Nat.exists_eq_succ_of_ne_zero hpos.ne'
    refine hdecides.uncons.imp fun u hu hstring => ?_
    refine .string (solid.of_yields hu) name tick digit ?_ hstring.2
    rw [hraw] at quote
    rw [hstring.1]
    exact quote
  | @regex m mark slash h =>
    rw [Literal.regex_eq] at h
    obtain ⟨k, rfl, hdecides⟩ := Literal.decides_regexFrom h
    obtain ⟨n, rfl⟩ := Nat.exists_eq_succ_of_ne_zero (hdecides.pos fun hnil => by cases hnil).ne'
    rw [Nat.zero_add] at *
    refine hdecides.uncons.imp fun u hu hregex => ?_
    exact .regex (mark.of_yields hu) slash (by rw [Literal.regex_eq, hregex])
  | arrow mark dash h =>
    obtain ⟨more, rfl⟩ := List.head?_eq_some_iff.1 h
    exact (Decides.zero fun _ _ => trivial).cons '>' fun u hu _ =>
      .arrow (mark.of_yields (hu.append ['>'])) dash rfl
  | punct => exact absurd rfl (hpunct c)

/-- A mark is a single character. -/
theorem Front.punct_eq {d : Char} (h : Front operand c rest (.token (.punct d)) n) :
    d = c ∧ n = 0 := by
  cases h
  exact ⟨rfl, rfl⟩

/-- A mark stays one in front of a text that its text yields to, unless it opens a regular
expression there. -/
theorem Front.punct_of_yields {d : Char} {u : Text} (h : Front operand c rest (.token (.punct d)) n)
    (hu : Yields rest u) (hregex : mayOpenRegex operand c → Literal.regex (c :: u) = none) :
    Front operand c u (.token (.punct d)) n := by
  cases h with
  | punct mark regex arrow =>
    refine .punct (mark.of_yields hu) hregex ?_
    simp only [Bool.and_eq_true, decide_eq_true_eq] at arrow ⊢
    exact fun ⟨hc, hhead⟩ => arrow ⟨hc, hu.head (by decide) hhead⟩

/-- A piece is part of the text. -/
theorem Front.length_le (h : Front operand c rest kind n) : n ≤ rest.length := by
  by_cases hline : kind = .comment ∧ rest.head? = some '/'
  · obtain ⟨rfl, hhead⟩ := hline
    cases h with
    | lineComment => exact (List.takeWhile_prefix _).length_le
    | blockComment _ star => rw [hhead] at star; cases star
  by_cases hpunct : ∃ d, kind = .token (.punct d)
  · obtain ⟨d, rfl⟩ := hpunct
    cases h
    exact Nat.zero_le _
  · exact (h.decides (fun hc hhead => hline ⟨hc, hhead⟩) fun d hd => hpunct ⟨d, hd⟩).length_le

/-- There is one piece at the front of a text. -/
theorem Front.unique {kind' : PieceKind} {n' : Nat} (h : Front operand c rest kind n)
    (h' : Front operand c rest kind' n') : kind' = kind ∧ n' = n := by
  have := h'.atFront_eq.symm.trans h.atFront_eq
  cases this
  exact ⟨rfl, rfl⟩

/-- A line comment ends with its line. -/
theorem Front.line {body : Text} (hbody : '\n' ∉ body) (hrest : ∀ d ∈ rest.head?, d = '\n') :
    Front operand '/' ('/' :: body ++ rest) .comment ('/' :: body).length := by
  have hlength : (('/' :: body ++ rest).takeWhile (· ≠ '\n')).length = ('/' :: body).length := by
    have hpass : ∀ d ∈ '/' :: body, decide (d ≠ '\n') = true := by
      rintro d hd
      rcases List.mem_cons.1 hd with rfl | hd
      · decide
      · exact decide_eq_true fun h => hbody (h ▸ hd)
    rw [List.takeWhile_append_of_pos hpass]
    cases rest with
    | nil => rw [List.takeWhile_nil, List.append_nil]
    | cons d rest =>
      obtain rfl := hrest d rfl
      rw [List.takeWhile_cons_of_neg (by decide), List.append_nil]
  rw [← hlength]
  exact .lineComment rfl rfl

/-- A comment is a line comment up to the end of its line, or a block comment with its end. -/
theorem Front.comment_cases {body : Text}
    (h : Front operand c (body ++ rest) .comment body.length) :
    c = '/' ∧
      ((∃ more, body = '/' :: more ∧ '\n' ∉ more ∧ ∀ d ∈ rest.head?, d = '\n') ∨
        ∃ more, body = '*' :: (more ++ ['*', '/'])) := by
  generalize htext : body ++ rest = text at h
  generalize hlength : body.length = n at h
  cases h with
  | lineComment slash hhead =>
    obtain ⟨inner, rfl⟩ := List.head?_eq_some_iff.1 hhead
    rw [List.takeWhile_cons_of_pos (by decide)] at hlength
    have hsplit : body ++ rest =
        ('/' :: inner.takeWhile (· ≠ '\n')) ++ inner.dropWhile (· ≠ '\n') := by
      rw [htext, List.cons_append, List.takeWhile_append_dropWhile]
    obtain ⟨rfl, rfl⟩ := List.append_inj hsplit hlength
    refine ⟨slash, .inl ⟨_, rfl, fun hmem => ?_, fun d hd => ?_⟩⟩
    · simpa using List.mem_takeWhile_imp hmem
    · have := List.head?_dropWhile_not (· ≠ '\n') inner
      rw [Option.mem_def.1 hd] at this
      simpa using this
  | blockComment slash star hbody =>
    refine ⟨slash, .inr ?_⟩
    obtain ⟨inner, rfl⟩ := List.head?_eq_some_iff.1 star
    obtain ⟨closed, after, hinner, rfl, more, rfl, -⟩ := closesComments_of_blockComment hbody
    rw [List.tail_cons] at hinner
    subst hinner
    refine ⟨more, List.append_inj_left (htext.trans (List.cons_append ..).symm) ?_⟩
    rw [hlength, List.length_cons, Nat.add_comm]

end PieceKind

namespace Piece

/-- Pieces with the same tokens have the same tokens after another piece. -/
theorem tokensFrom_cons_congr {pieces more : List Piece} (piece : Piece)
    (h : ∀ offset newline, tokensFrom offset newline more = tokensFrom offset newline pieces)
    (offset : Nat) (newline : Bool) :
    tokensFrom offset newline (piece :: more) = tokensFrom offset newline (piece :: pieces) := by
  simp only [tokensFrom, h]

end Piece

/-! ## The cut as a relation -/

/-- A text is cut into pieces, where an operand may begin before it or not. -/
inductive Cuts : Bool → Text → List Piece → Prop
  | nil {operand : Bool} : Cuts operand [] []
  | cons {operand : Bool} {c : Char} {body rest : Text} {kind : PieceKind} {pieces : List Piece}
      (front : PieceKind.Front operand c (body ++ rest) kind body.length)
      (more : Cuts (kind.beforeOperand operand) rest pieces) :
      Cuts operand (c :: (body ++ rest)) (⟨kind, c :: body⟩ :: pieces)

theorem cutFrom_eq_ok {operand : Bool} {done pieces : List Piece} {t : Text} :
    Piece.cutFrom operand done t = .ok pieces ↔
      ∃ more, pieces = done.reverse ++ more ∧ Cuts operand t more := by
  constructor
  · intro h
    fun_induction Piece.cutFrom operand done t with
    | case1 => exact ⟨[], by cases h; simp, .nil⟩
    | case2 => cases h
    | case3 operand done c rest kind n hfront ih =>
      obtain ⟨more, rfl, hmore⟩ := ih h
      have front := PieceKind.front_of_atFront hfront
      obtain ⟨body, after, rfl, rfl⟩ : ∃ body after, rest = body ++ after ∧ body.length = n :=
        ⟨rest.take n, rest.drop n, (List.take_append_drop ..).symm,
          List.length_take_of_le front.length_le⟩
      rw [List.drop_left] at hmore
      rw [List.take_left]
      exact ⟨_ :: more, by simp, .cons front hmore⟩
  · rintro ⟨more, rfl, hmore⟩
    induction hmore generalizing done with
    | nil => rw [Piece.cutFrom, List.append_nil]
    | cons front _ ih =>
      rw [Piece.cutFrom, front.atFront_eq]
      simp only [List.take_left, List.drop_left]
      rw [ih]
      simp

/-- **The cut finds the pieces a text is cut into.** -/
theorem cut_eq_ok {t : Text} {pieces : List Piece} :
    Piece.cut t = .ok pieces ↔ Cuts true t pieces := by
  simp [Piece.cut, cutFrom_eq_ok]

/-- A text has tokens when it is cut into pieces, and they are those of its pieces. -/
theorem tokenize_eq_ok {source : Text} {tokens : List Token} :
    tokenize source = .ok tokens ↔
      ∃ pieces, Cuts true source pieces ∧ tokens = Piece.tokens pieces := by
  constructor
  · intro h
    unfold tokenize at h
    split at h
    · next pieces hcut => exact ⟨pieces, cut_eq_ok.1 hcut, (Except.ok.inj h).symm⟩
    · cases h
  · rintro ⟨pieces, hcuts, rfl⟩
    rw [tokenize, cut_eq_ok.2 hcuts]

namespace Cuts

variable {operand : Bool} {t : Text} {pieces : List Piece}

/-- The pieces are the text. -/
theorem flatMap_text (h : Cuts operand t pieces) : pieces.flatMap (·.text) = t := by
  induction h with
  | nil => rfl
  | cons _ _ ih => rw [List.flatMap_cons, ih, List.cons_append]

/-- The piece at the front is the first. -/
theorem uncons {c : Char} {rest : Text} {kind : PieceKind} {n : Nat}
    (front : PieceKind.Front operand c rest kind n) (h : Cuts operand (c :: rest) pieces) :
    ∃ more, pieces = ⟨kind, c :: rest.take n⟩ :: more ∧
      Cuts (kind.beforeOperand operand) (rest.drop n) more := by
  generalize ht : c :: rest = t at h
  cases h with
  | nil => cases ht
  | @cons _ _ body after _ more front' hmore =>
    obtain ⟨rfl, rfl⟩ := List.cons.inj ht
    obtain ⟨rfl, rfl⟩ := front.unique front'
    rw [List.take_left, List.drop_left]
    exact ⟨more, rfl, hmore⟩

end Cuts

end SwiftTuples
