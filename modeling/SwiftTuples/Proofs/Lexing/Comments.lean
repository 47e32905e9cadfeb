import SwiftTuples.Proofs.Lexing.Front
import SwiftTuples.Syntax.Source
/-!
# Comments do not matter

The comments of a text may be overwritten by spaces, byte by byte and with their line ends left:
the tokens stay as they are, and so does the tree. What could go wrong is a slash before a comment
that opens no regular expression because none is closed: the search for its end runs over the
comment, and a backslash before the comment or in it may hide a slash or a line end
(`Literal.Unclosed`). It does not: a comment that the search has passed over left it as spaces do.
-/

namespace SwiftTuples

/-! ## Overwriting -/

/-- What a character of a comment is overwritten by: line ends stay, and any other character
becomes as many spaces as it has bytes. -/
def blankOut (c : Char) : Text := if c = '\n' then ['\n'] else List.replicate c.utf8Size ' '

/-- A comment overwritten. -/
def Text.blanked (t : Text) : Text := t.flatMap blankOut

/-- The text of a piece once comments are overwritten. -/
def Piece.erased (piece : Piece) : Text :=
  if piece.kind = .comment then piece.text.blanked else piece.text

/-- A text with its comments overwritten. -/
def Text.eraseComments (source : Text) : Text :=
  match Piece.cut source with
  | .ok pieces => pieces.flatMap (·.erased)
  | .error _ => source

theorem size_blankOut (c : Char) : (blankOut c).size = c.utf8Size := by
  unfold blankOut
  split
  · next h => subst h; rfl
  · induction c.utf8Size with
    | zero => rfl
    | succ n ih =>
      rw [List.replicate_succ, Text.size_cons, ih]
      exact Nat.add_comm 1 n

namespace Text

@[simp] theorem blanked_cons (c : Char) (t : Text) :
    blanked (c :: t) = blankOut c ++ blanked t := rfl

/-- A comment begins with a slash, so it begins with a space when it is overwritten. -/
theorem blanked_slash (t : Text) : blanked ('/' :: t) = ' ' :: blanked t := rfl

@[simp] theorem size_blanked (t : Text) : t.blanked.size = t.size := by
  induction t with
  | nil => rfl
  | cons c t ih => rw [blanked_cons, size_append, size_blankOut, ih, size_cons]

theorem mem_blanked {t : Text} {c : Char} (h : c ∈ t.blanked) : c = ' ' ∨ c = '\n' := by
  obtain ⟨d, -, hc⟩ := List.mem_flatMap.1 h
  unfold blankOut at hc
  split at hc
  · exact .inr (List.mem_singleton.1 hc)
  · exact .inl (List.eq_of_mem_replicate hc)

theorem newline_mem_blanked {t : Text} : '\n' ∈ t.blanked ↔ '\n' ∈ t := by
  rw [blanked, List.mem_flatMap]
  constructor
  · rintro ⟨c, hc, hmem⟩
    unfold blankOut at hmem
    split at hmem
    · next h => exact h ▸ hc
    · exact absurd (List.eq_of_mem_replicate hmem) (by decide)
  · intro h
    exact ⟨'\n', h, List.mem_singleton.2 rfl⟩

theorem contains_blanked (t : Text) : t.blanked.contains '\n' = t.contains '\n' := by
  rw [Bool.eq_iff_iff, List.contains_iff_mem, List.contains_iff_mem, newline_mem_blanked]

end Text

/-- The second text is the first with its comments overwritten. -/
inductive Erased : Text → Text → Prop
  | nil : Erased [] []
  | keep {t u : Text} (c : Char) (more : Erased t u) : Erased (c :: t) (c :: u)
  | line {words t u : Text} (ends : ∀ c ∈ t.head?, c = '\n') (more : Erased t u) :
      Erased ('/' :: '/' :: (words ++ t)) (Text.blanked ('/' :: '/' :: words) ++ u)
  | block {words t u : Text} (more : Erased t u) :
      Erased ('/' :: '*' :: (words ++ '*' :: '/' :: t))
        (Text.blanked ('/' :: '*' :: (words ++ ['*', '/'])) ++ u)

namespace Erased

variable {t u : Text}

theorem append (h : Erased t u) : (front : Text) → Erased (front ++ t) (front ++ u)
  | [] => h
  | c :: front => .keep c (append h front)

theorem yields (h : Erased t u) : Yields t u := by
  induction h with
  | nil => exact .refl []
  | keep c _ ih => exact .keep c ih
  | line => exact .stop fun c hc => (Option.some.inj hc).symm
  | block => exact .stop fun c hc => (Option.some.inj hc).symm

theorem size_eq (h : Erased t u) : u.size = t.size := by
  induction h with
  | nil => rfl
  | keep c _ ih => rw [Text.size_cons, Text.size_cons, ih]
  | @line words t u _ _ ih =>
    rw [Text.size_append, Text.size_blanked, ih, ← Text.size_append]
    rfl
  | @block words t u _ ih =>
    rw [Text.size_append, Text.size_blanked, ih, ← Text.size_append]
    simp

/-- So a text that begins with a blank goes on doing so. -/
theorem isBlank_head (h : Erased t u) (ht : t.head?.any Unicode.isBlank) :
    u.head?.any Unicode.isBlank := by
  cases h with
  | nil => exact ht
  | keep => exact ht
  | line => rfl
  | block => rfl

end Erased

namespace Literal

/-- No regular expression is closed in the text. -/
def Unclosed (marks : Nat) (escaped : Bool) : Text → Prop
  | [] => True
  | c :: rest =>
    if escaped then Unclosed marks false rest
    else if c = '\\' then Unclosed marks true rest
    else if c = '\n' && marks = 0 then True
    else ¬ (c = '/' && (List.replicate marks '#').isPrefixOf rest) = true ∧
      Unclosed marks false rest

variable {marks seen : Nat} {escaped : Bool} {t u : Text}

theorem regexScan_eq_none : regexScan marks escaped seen t = none ↔ Unclosed marks escaped t := by
  fun_induction regexScan marks escaped seen t with
  | case1 => simp [Unclosed]
  | case2 seen c rest ih => rw [ih, Unclosed, if_pos rfl]
  | case3 escaped seen rest hplain ih => rw [ih, Unclosed, if_neg hplain, if_pos rfl]
  | case4 escaped seen c rest hplain hc hline =>
    rw [Unclosed, if_neg hplain, if_neg hc, if_pos hline]
    simp
  | case5 escaped seen c rest hplain hc hline hclose =>
    rw [Unclosed, if_neg hplain, if_neg hc, if_neg hline]
    simp [hclose]
  | case6 escaped seen c rest hplain hc hline hclose ih =>
    rw [ih, Unclosed, if_neg hplain, if_neg hc, if_neg hline]
    simp [hclose]

namespace Unclosed

theorem escaped_cons (c : Char) : Unclosed marks true (c :: t) ↔ Unclosed marks false t := by
  rw [Unclosed, if_pos rfl]

/-- A blank between hash marks, or a space, ends what a backslash escapes and closes nothing. -/
theorem blank_cons {c : Char} (hc : c = ' ' ∨ c = '\n' ∧ marks ≠ 0) :
    Unclosed marks escaped (c :: t) ↔ Unclosed marks false t := by
  cases escaped
  · rcases hc with rfl | ⟨rfl, hmarks⟩
    · simp [Unclosed]
    · simp [Unclosed, hmarks]
  · exact escaped_cons c

/-- Between hash marks a comment that is overwritten leaves the search where it is. -/
theorem blanked_append (hmarks : marks ≠ 0) (words : Text) :
    Unclosed marks escaped (Text.blanked ('/' :: words) ++ u) ↔ Unclosed marks false u := by
  have hblanks : ∀ blanks : Text, (∀ d ∈ blanks, d = ' ' ∨ d = '\n') →
      (Unclosed marks false (blanks ++ u) ↔ Unclosed marks false u) := by
    intro blanks hall
    induction blanks with
    | nil => rfl
    | cons d blanks ih =>
      rw [List.cons_append, blank_cons ((hall d List.mem_cons_self).imp_right fun h => ⟨h, hmarks⟩)]
      exact ih fun e he => hall e (List.mem_cons_of_mem d he)
  rw [Text.blanked_slash, List.cons_append, blank_cons (.inl rfl)]
  exact hblanks _ fun d hd => Text.mem_blanked hd

/-- Without hash marks the line end that is left stops the search. -/
theorem of_newline_mem {blanks : Text} (hall : ∀ c ∈ blanks, c = ' ' ∨ c = '\n')
    (h : '\n' ∈ blanks) : Unclosed 0 false (blanks ++ u) := by
  induction blanks with
  | nil => cases h
  | cons c blanks ih =>
    rcases hall c List.mem_cons_self with rfl | rfl
    · rw [List.cons_append, blank_cons (.inl rfl)]
      exact ih (fun d hd => hall d (List.mem_cons_of_mem _ hd))
        ((List.mem_cons.1 h).resolve_left (by decide))
    · simp [Unclosed]

/-- Between hash marks the search goes on through any text. -/
theorem exists_of_append (hmarks : marks ≠ 0) (front : Text)
    (h : Unclosed marks escaped (front ++ t)) : ∃ escaped, Unclosed marks escaped t := by
  induction front generalizing escaped with
  | nil => exact ⟨escaped, h⟩
  | cons c front ih =>
    rw [List.cons_append, Unclosed] at h
    split_ifs at h with hescaped hc hline
    · exact ih h
    · exact ih h
    · simp [hmarks] at hline
    · exact ih h.2

/-- Without hash marks it ends in a block comment, so there is a line end before the end of the
comment. -/
theorem newline_mem {front : Text} (h : Unclosed 0 escaped (front ++ '*' :: '/' :: t)) :
    '\n' ∈ front := by
  induction front generalizing escaped with
  | nil => cases escaped <;> simp [Unclosed] at h
  | cons c front ih =>
    rw [List.cons_append, Unclosed] at h
    split_ifs at h with hescaped hc hline
    · exact List.mem_cons_of_mem c (ih h)
    · exact List.mem_cons_of_mem c (ih h)
    · simp at hline
      exact hline ▸ List.mem_cons_self
    · exact List.mem_cons_of_mem c (ih h.2)

/-- **The search goes on over a comment that is overwritten as it did over the comment.** -/
theorem of_erased (herased : Erased t u) (h : Unclosed marks escaped t) :
    Unclosed marks escaped u := by
  induction herased generalizing escaped with
  | nil => exact h
  | @keep t u c more ih =>
    rw [Unclosed] at h ⊢
    split_ifs at h ⊢ with hescaped hc hline
    · exact ih h
    · exact ih h
    · refine ⟨fun hclose => h.1 ?_, ih h.2⟩
      simp only [Bool.and_eq_true, List.isPrefixOf_iff_prefix] at hclose ⊢
      exact ⟨hclose.1, more.yields.starts _ (by simp) hclose.2⟩
  | @line words t u ends more ih =>
    by_cases hmarks : marks = 0
    · -- one of the two slashes would have closed the expression
      subst hmarks
      cases escaped <;> simp [Unclosed] at h
    rw [blanked_append hmarks]
    obtain ⟨escaped, ht⟩ := exists_of_append hmarks ('/' :: '/' :: words) h
    refine ih ?_
    -- the line end after the comment is passed over, whether or not it is escaped
    cases t with
    | nil => trivial
    | cons c t =>
      obtain rfl := ends c rfl
      exact (blank_cons (.inr ⟨rfl, hmarks⟩)).2 ((blank_cons (.inr ⟨rfl, hmarks⟩)).1 ht)
  | @block words t u more ih =>
    by_cases hmarks : marks = 0
    · subst hmarks
      cases escaped with
      | false => simp [Unclosed] at h
      | true =>
        have hline : '\n' ∈ '*' :: words := newline_mem ((escaped_cons '/').1 h)
        refine (escaped_cons ' ').2 (of_newline_mem (fun c hc => Text.mem_blanked hc) ?_)
        exact Text.newline_mem_blanked.2 (List.mem_append_left ['*', '/'] hline)
    · rw [blanked_append hmarks]
      obtain ⟨escaped, ht⟩ := exists_of_append hmarks ('/' :: '*' :: words) h
      refine ih ?_
      cases escaped <;> simp [Unclosed] at ht
      · exact ht.2
      · exact ht.2

end Unclosed

/-- A mark that opens no regular expression opens none when comments are overwritten. -/
theorem regex_of_erased (herased : Erased t u) (h : regex t = none) : regex u = none := by
  rw [regex_eq] at h ⊢
  generalize 0 = marks at h ⊢
  induction herased generalizing marks with
  | nil => rfl
  | @keep t u c more ih =>
    rw [regexFrom] at h ⊢
    by_cases hmark : c = '#'
    · rw [if_pos hmark] at h ⊢
      exact ih _ h
    rw [if_neg hmark] at h ⊢
    by_cases hslash : c = '/'
    · rw [if_pos hslash] at h ⊢
      split
      · rfl
      · next hblank =>
        have hnone : ¬ (marks = 0 && t.head?.any Unicode.isBlank) = true := fun hblank' => by
          rw [Bool.and_eq_true] at hblank hblank'
          exact hblank (hblank'.imp_right more.isBlank_head)
        rw [if_neg hnone] at h
        exact regexScan_eq_none.2 ((regexScan_eq_none.1 h).of_erased more)
    · rw [if_neg hslash]
  | line => rfl
  | block => rfl

end Literal

/-! ## Cutting a text without its comments -/

/-- Overwriting the comments among the pieces of a text overwrites them in the text. -/
theorem Cuts.erased {operand : Bool} {t : Text} {pieces : List Piece} (h : Cuts operand t pieces) :
    Erased t (pieces.flatMap (·.erased)) := by
  induction h with
  | nil => exact .nil
  | @cons operand c body rest kind pieces front _ ih =>
    rw [List.flatMap_cons, Piece.erased]
    split
    · next hcomment =>
      obtain rfl : kind = .comment := hcomment
      obtain ⟨rfl, ⟨words, rfl, -, hends⟩ | ⟨words, rfl⟩⟩ := front.comment_cases
      · exact .line hends ih
      · simpa using Erased.block ih
    · exact ih.append (c :: body)

/-- Blanks are cut into pieces of their own. -/
theorem cuts_blanks {operand : Bool} {blanks t : Text} {pieces : List Piece}
    (hblanks : ∀ c ∈ blanks, Unicode.isBlank c) (h : Cuts operand t pieces) :
    Cuts operand (blanks ++ t) (blanks.map (fun c => ⟨.blank, [c]⟩) ++ pieces) := by
  induction blanks with
  | nil => exact h
  | cons c blanks ih =>
    exact @Cuts.cons operand c [] (blanks ++ t) .blank _ (.blank (hblanks c List.mem_cons_self))
      (ih fun d hd => hblanks d (List.mem_cons_of_mem c hd))

/-- And have no tokens, but the line ends among them count. -/
theorem tokensFrom_blanks (blanks : Text) (pieces : List Piece) (offset : Nat) (newline : Bool) :
    Piece.tokensFrom offset newline (blanks.map (fun c => ⟨.blank, [c]⟩) ++ pieces) =
      Piece.tokensFrom (offset + blanks.size) (newline || blanks.contains '\n') pieces := by
  induction blanks generalizing offset newline with
  | nil => simp
  | cons c blanks ih =>
    rw [List.map_cons, List.cons_append, Piece.tokensFrom]
    simp only [Text.size_cons, Text.size_nil, Nat.add_zero]
    rw [ih, Nat.add_assoc]
    simp [Bool.or_assoc]

/-- **The cut of a text without its comments has the same tokens.** -/
theorem Cuts.eraseComments {operand : Bool} {t : Text} {pieces : List Piece}
    (h : Cuts operand t pieces) : ∃ more, Cuts operand (pieces.flatMap (·.erased)) more ∧
      ∀ offset newline,
        Piece.tokensFrom offset newline more = Piece.tokensFrom offset newline pieces := by
  induction h with
  | nil => exact ⟨[], .nil, fun _ _ => rfl⟩
  | @cons operand c body rest kind pieces front hrest ih =>
    obtain ⟨more, hmore, htokens⟩ := ih
    have herased := hrest.erased
    rw [List.flatMap_cons, Piece.erased]
    split
    · next hcomment =>
      obtain rfl : kind = .comment := hcomment
      have hblanks : ∀ d ∈ Text.blanked (c :: body), Unicode.isBlank d := fun d hd => by
        rcases Text.mem_blanked hd with rfl | rfl <;> decide
      refine ⟨_, cuts_blanks hblanks hmore, fun offset newline => ?_⟩
      rw [tokensFrom_blanks, Text.size_blanked, Text.contains_blanked, htokens]
      rfl
    · next hcomment =>
      refine ⟨⟨kind, c :: body⟩ :: more, .cons ?_ hmore, Piece.tokensFrom_cons_congr _ htokens⟩
      by_cases hpunct : ∃ d, kind = .token (.punct d)
      · obtain ⟨d, rfl⟩ := hpunct
        obtain ⟨rfl, hlength⟩ := front.punct_eq
        obtain rfl := List.eq_nil_of_length_eq_zero hlength
        refine front.punct_of_yields herased.yields fun hopens => ?_
        cases front with
        | punct _ hregex => exact Literal.regex_of_erased (herased.append [d]) (hregex hopens)
      · exact (front.decides (fun hc => absurd hc hcomment) fun d hd => hpunct ⟨d, hd⟩).apply
          herased.yields

/-- **Comments may be overwritten.** A text whose comments are overwritten by spaces, byte by byte
and with their line ends left, has the same tokens as before, and is read as before. -/
theorem tokenize_eraseComments {source : Text} {tokens : List Token}
    (h : tokenize source = .ok tokens) :
    tokenize source.eraseComments = .ok tokens ∧
      SourceFile.parse source.eraseComments = SourceFile.parse source := by
  obtain ⟨pieces, hpieces, rfl⟩ := tokenize_eq_ok.1 h
  obtain ⟨more, hmore, htokens⟩ := hpieces.eraseComments
  have herased : source.eraseComments = pieces.flatMap (·.erased) := by
    rw [Text.eraseComments, cut_eq_ok.2 hpieces]
  have hsame : tokenize source.eraseComments = .ok (Piece.tokens pieces) := by
    rw [herased]
    exact tokenize_eq_ok.2 ⟨more, hmore, (htokens 0 true).symm⟩
  refine ⟨hsame, ?_⟩
  rw [SourceFile.parse, SourceFile.parse, h, hsame, herased, hpieces.erased.size_eq]

/-- The search for the end of a regular expression runs over the comment to the end of the text. -/
theorem overwritten_below_search :
    Text.eraseComments "x = #/ // é\ny".toList = "x = #/      \ny".toList ∧
      tokenize "x = #/ // é\ny".toList = .ok
        [⟨.ident "x", 0, 1, true⟩, ⟨.punct '=', 2, 3, false⟩, ⟨.punct '#', 4, 5, false⟩,
          ⟨.punct '/', 5, 6, false⟩, ⟨.ident "y", 13, 14, true⟩] ∧
      tokenize "x = #/      \ny".toList = tokenize "x = #/ // é\ny".toList ∧
      SourceFile.parse "x = #/      \ny".toList = SourceFile.parse "x = #/ // é\ny".toList := by
  have herase : Text.eraseComments "x = #/ // é\ny".toList = "x = #/      \ny".toList := by
    decide +kernel
  have htokens : tokenize "x = #/ // é\ny".toList = .ok
      [⟨.ident "x", 0, 1, true⟩, ⟨.punct '=', 2, 3, false⟩, ⟨.punct '#', 4, 5, false⟩,
        ⟨.punct '/', 5, 6, false⟩, ⟨.ident "y", 13, 14, true⟩] := by
    decide +kernel
  have hboth := tokenize_eraseComments htokens
  rw [herase] at hboth
  exact ⟨herase, htokens, hboth.1.trans htokens.symm, hboth.2⟩

end SwiftTuples
