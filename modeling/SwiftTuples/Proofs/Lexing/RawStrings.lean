import SwiftTuples.Proofs.Lexing.Strings
/-!
# Raw string literals

A literal between a quote with hash marks on either side holds any text of one line in which that
end and an escape with as many marks do not occur. Its end is found for every such text but one
kind: a text that turns the opening quote into three, and does not end in two quotes itself, is
taken for the text of a literal over several lines, whose end is not there
(`raw_string_hides_contents_iff`).
-/

namespace SwiftTuples

/-- Two quotes in front of the text are not taken together with the opening one for the opening of
a literal over several lines, unless the closing quotes are taken in the same way. -/
def Text.KeepsQuotes (w : Text) : Prop :=
  ['"', '"'] <+: w ++ ['"'] → ∃ v, w = ['"', '"'] ++ (v ++ ['"', '"'])

namespace Literal

variable {d : Delimiter} {n : Nat} {x : Char} {s t u v w body : Text}

/-- A text that holds neither the end nor an escape is searched in vain. -/
theorem stringBody_unclosed (hclose : ¬ d.closing <:+: t) (hescape : ¬ d.escape <:+: t)
    (opening : Text) (seen : Nat) :
    stringBody d opening seen t = .error ⟨.stringLiteral, opening⟩ := by
  induction t generalizing seen with
  | nil => rw [stringBody]
  | cons c t ih =>
    have hfront : ¬ d.closing.isPrefixOf (c :: t) := by
      rw [List.isPrefixOf_iff_prefix]
      exact fun h => hclose h.isInfix
    have hfront' : ¬ d.escape.isPrefixOf (c :: t) := by
      rw [List.isPrefixOf_iff_prefix]
      exact fun h => hescape h.isInfix
    rw [stringBody, if_neg hfront, if_neg hfront']
    split
    · rfl
    · exact ih (fun h => hclose (h.trans (List.suffix_cons c t).isInfix))
        (fun h => hescape (h.trans (List.suffix_cons c t).isInfix)) _

/-- A text without an escape, which the closing quotes follow and do not overlap. -/
theorem inside_of_plain (hescape : ¬ d.escape <:+: body ++ d.closing)
    (hclose : ∀ front after, body ++ d.closing = front ++ (d.closing ++ after) → front = body)
    (hline : '\n' ∈ body → d.multiline) : Inside (.quotes d) body := by
  induction body with
  | nil => exact .nil
  | cons c body ih =>
    refine .char ?closes ?escapes ?line (ih ?escape ?close ?lines)
    case closes =>
      rintro ⟨after, h⟩
      exact absurd (hclose [] after h.symm) (List.cons_ne_nil c body).symm
    case escapes => exact fun h => hescape h.isInfix
    case line => rintro rfl; exact hline List.mem_cons_self
    case escape => exact fun h => hescape (h.trans (List.suffix_cons c _).isInfix)
    case close =>
      intro front after h
      exact (List.cons.inj (hclose (c :: front) after (by rw [List.cons_append, h]; rfl))).2
    case lines => exact fun h => hline (List.mem_cons_of_mem c h)

/-- **A quote and hash marks do not overlap themselves.** A character with its marks that is not in
a text is found at its end alone, where a quote with as many marks follows it. -/
theorem append_marks_eq (hmark : ¬ x :: List.replicate n '#' <:+: w)
    (h : s ++ (x :: List.replicate n '#' ++ u) = w ++ '"' :: List.replicate n '#') :
    s = w ∧ x = '"' := by
  rcases List.append_eq_append_iff.1 h with ⟨a, rfl, ha⟩ | ⟨a, rfl, ha⟩
  · cases a with
    | nil => exact ⟨(List.append_nil s).symm, (List.cons.inj ha).1⟩
    | cons c a =>
      obtain rfl : x = c := (List.cons.inj ha).1
      have hmarks : List.replicate n '#' ++ u = a ++ '"' :: List.replicate n '#' :=
        (List.cons.inj ha).2
      -- the marks would end before the quote, or hold it
      rcases List.append_eq_append_iff.1 hmarks with ⟨b, rfl, -⟩ | ⟨b, hb, hquote⟩
      · exact absurd ⟨s, b, by simp⟩ hmark
      · cases b with
        | nil =>
          rw [List.append_nil] at hb
          exact absurd ⟨s, [], by simp [hb]⟩ hmark
        | cons c b =>
          obtain ⟨rfl, -⟩ := List.cons.inj hquote
          have hmem : '"' ∈ List.replicate n '#' := by rw [hb]; simp
          exact absurd (List.eq_of_mem_replicate hmem) (by decide)
  · have hlength := congrArg List.length ha
    simp only [List.length_append, List.length_cons, List.length_replicate] at hlength
    obtain rfl : a = [] := List.eq_nil_of_length_eq_zero (by omega)
    exact ⟨List.append_nil w, (List.cons.inj ha).1.symm⟩

/-- Whether a third quote opens a raw literal is seen from the text and the quote after it. -/
theorem opens_raw_iff (hn : 1 ≤ n) : (Delimiter.mk n false).Opens w [] ↔
    ¬ ['"', '"'] <+: w ++ ['"'] := by
  obtain ⟨n, rfl⟩ := Nat.exists_eq_succ_of_ne_zero (Nat.one_le_iff_ne_zero.1 hn)
  have hclosing : (Delimiter.mk (n + 1) false).closing = '"' :: '#' :: List.replicate n '#' := rfl
  rw [Delimiter.Opens, hclosing]
  cases w with
  | nil => simp
  | cons c w => cases w <;> simp

section Raw

variable (hclose : ¬ '"' :: List.replicate n '#' <:+: w)
variable (hescape : ¬ '\\' :: List.replicate n '#' <:+: w)

include hescape in
/-- No escape is found up to the end of a text without one. -/
theorem not_escape_isInfix (h : w ++ '"' :: List.replicate n '#' = s ++ t) (multiline : Bool) :
    ¬ (Delimiter.mk n multiline).escape <:+: t := by
  rintro ⟨front, after, rfl⟩
  have hends := append_marks_eq (s := s ++ front) (u := after) hescape
    (by simp [h, Delimiter.escape])
  exact absurd hends.2 (by decide)

include hclose hescape in
theorem inside_raw (hline : '\n' ∉ w) : Inside (.quotes ⟨n, false⟩) w :=
  inside_of_plain (not_escape_isInfix (s := []) hescape rfl false)
    (fun _ _ h => (append_marks_eq hclose h.symm).1) fun h => absurd h hline

include hclose hescape in
/-- Two quotes on either side belong to the delimiters of a literal over several lines. -/
theorem inside_raw_quotes (hw : w = ['"', '"'] ++ (v ++ ['"', '"'])) :
    Inside (.quotes ⟨n, true⟩) v := by
  have htext : w ++ '"' :: List.replicate n '#' =
      ['"', '"'] ++ (v ++ (Delimiter.mk n true).closing) := by
    simp [hw, Delimiter.closing, Delimiter.quotes]
  refine inside_of_plain (not_escape_isInfix hescape htext true) (fun front after h => ?_)
    fun _ => rfl
  have hends := append_marks_eq (s := ['"', '"'] ++ (front ++ ['"', '"'])) (u := after) hclose
    (by rw [htext, h]; simp [Delimiter.closing, Delimiter.quotes])
  rw [hw] at hends
  exact List.append_cancel_right (List.append_cancel_left hends.1)

include hclose hescape in
/-- What is taken for a literal over several lines has no end. -/
theorem string_raw_error (hkeeps : ¬ w.KeepsQuotes) :
    string ((Delimiter.mk n false).enclose w) =
      .error ⟨.stringLiteral, (Delimiter.mk n false).enclose w⟩ := by
  simp only [Text.KeepsQuotes, Classical.not_imp] at hkeeps
  obtain ⟨⟨t, ht⟩, hquotes⟩ := hkeeps
  have htext : w ++ '"' :: List.replicate n '#' =
      ['"', '"'] ++ (t ++ List.replicate n '#') := by
    rw [← List.singleton_append, ← List.append_assoc, ← ht, List.append_assoc]
  have hliteral : (Delimiter.mk n false).enclose w =
      List.replicate n '#' ++ '"' :: (['"', '"'] ++ (t ++ List.replicate n '#')) := by
    rw [← htext]
    rfl
  have hunclosed : ¬ (Delimiter.mk n true).closing <:+: t ++ List.replicate n '#' := by
    rintro ⟨front, after, hclosing⟩
    have hends := append_marks_eq (s := ['"', '"'] ++ (front ++ ['"', '"'])) (u := after) hclose
      (by simp [htext, ← hclosing, Delimiter.closing, Delimiter.quotes])
    exact hquotes ⟨front, hends.1.symm⟩
  have hfront : Delimiter.atFront ((Delimiter.mk n false).enclose w) = ⟨n, true⟩ := by
    rw [hliteral, atFront_replicate]
    simp
  have hdrop : ((Delimiter.mk n false).enclose w).drop (Delimiter.mk n true).openingLength =
      t ++ List.replicate n '#' := by
    have hquoted : (Delimiter.mk n false).enclose w =
        (List.replicate n '#' ++ ['"', '"', '"']) ++ (t ++ List.replicate n '#') := by
      simp [hliteral]
    rw [hquoted, List.drop_left' (by simp [Delimiter.openingLength, Delimiter.quotes])]
  rw [string, hfront, hdrop,
    stringBody_unclosed hunclosed (not_escape_isInfix hescape htext true)]

end Raw

end Literal

section Literals

open Literal

variable {n : Nat} {w : Text}

/-- A literal on its own is one token. -/
theorem tokenize_enclose {d : Delimiter} {body : Text} (inside : Inside (.quotes d) body)
    (opens : d.Opens body []) : tokenize (d.enclose body) =
      .ok [⟨.literal, 0, (d.enclose body).size, true⟩] := by
  have hcut : Piece.cutFrom true [] (d.enclose body ++ []) =
      Piece.cutFrom false [⟨.token .literal, d.enclose body⟩] [] :=
    Piece.cutFrom_enclose inside opens []
  rw [List.append_nil, Piece.cutFrom] at hcut
  rw [tokenize, Piece.cut, hcut]
  simp [Piece.tokens, Piece.tokensFrom]

/-- A raw literal that does not end fails the whole text. -/
theorem tokenize_raw_error (hn : 1 ≤ n)
    (h : string ((Delimiter.mk n false).enclose w) =
      .error ⟨.stringLiteral, (Delimiter.mk n false).enclose w⟩) :
    tokenize ((Delimiter.mk n false).enclose w) = .error ⟨0, .unterminated .stringLiteral⟩ := by
  have hraw : isRawString ((Delimiter.mk n false).enclose w) := isRawString_replicate n _
  obtain ⟨n, rfl⟩ := Nat.exists_eq_succ_of_ne_zero (Nat.one_le_iff_ne_zero.1 hn)
  obtain ⟨rest, hrest⟩ : ∃ rest, (Delimiter.mk (n + 1) false).enclose w = '#' :: rest := ⟨_, rfl⟩
  rw [hrest] at h hraw ⊢
  have hfront : PieceKind.atFront true '#' rest = .error ⟨.stringLiteral, '#' :: rest⟩ := by
    rw [PieceKind.atFront, if_neg (by decide), if_neg (by simp), if_neg (by simp),
      if_neg (by decide), if_neg (by decide), if_neg (by decide), if_pos (by simp [hraw]), h]
  rw [tokenize, Piece.cut, Piece.cutFrom, hfront]
  simp

/-- **A raw string literal hides what it holds exactly if its quotes are kept.** It is one token
then, over its whole length. Otherwise the text is not read at all, though the literal ends. -/
theorem raw_string_hides_contents_iff (hn : 1 ≤ n) (hline : '\n' ∉ w)
    (hclose : ¬ '"' :: List.replicate n '#' <:+: w)
    (hescape : ¬ '\\' :: List.replicate n '#' <:+: w) :
    let literal : Text :=
      List.replicate n '#' ++ (['"'] ++ (w ++ (['"'] ++ List.replicate n '#')))
    (tokenize literal = .ok [⟨.literal, 0, literal.size, true⟩] ↔ w.KeepsQuotes) ∧
      (¬ w.KeepsQuotes → tokenize literal = .error ⟨0, .unterminated .stringLiteral⟩) := by
  intro literal
  have hfails : ¬ w.KeepsQuotes → tokenize literal = .error ⟨0, .unterminated .stringLiteral⟩ :=
    fun hkeeps => tokenize_raw_error hn (string_raw_error hclose hescape hkeeps)
  refine ⟨⟨fun hone => ?_, fun hkeeps => ?_⟩, hfails⟩
  · by_contra hkeeps
    rw [hfails hkeeps] at hone
    cases hone
  · by_cases hquotes : ['"', '"'] <+: w ++ ['"']
    · obtain ⟨v, hw⟩ := hkeeps hquotes
      have hmultiline : literal = (Delimiter.mk n true).enclose v := by
        simp [literal, hw, Delimiter.enclose, Delimiter.quotes, Delimiter.closing]
      rw [hmultiline]
      exact tokenize_enclose (inside_raw_quotes hclose hescape hw) fun hsingle => by cases hsingle
    · exact tokenize_enclose (inside_raw hclose hescape hline) ((opens_raw_iff hn).2 hquotes)

/-- A quote, hash marks, a backslash and a brace at the ends of what a raw literal holds. -/
theorem raw_string_at_ends :
    1 ≤ 2 ∧ '\n' ∉ "\\\"# // \x7b \"#".toList ∧
      ¬ '"' :: List.replicate 2 '#' <:+: "\\\"# // \x7b \"#".toList ∧
      ¬ '\\' :: List.replicate 2 '#' <:+: "\\\"# // \x7b \"#".toList ∧
      tokenize "##\"\\\"# // \x7b \"#\"##".toList = .ok [⟨.literal, 0, 17, true⟩] := by
  have hline : '\n' ∉ "\\\"# // \x7b \"#".toList := by decide +kernel
  have hclose : ¬ '"' :: List.replicate 2 '#' <:+: "\\\"# // \x7b \"#".toList := by decide +kernel
  have hescape : ¬ '\\' :: List.replicate 2 '#' <:+: "\\\"# // \x7b \"#".toList := by
    decide +kernel
  have hkeeps : Text.KeepsQuotes "\\\"# // \x7b \"#".toList :=
    fun hquotes => absurd hquotes (by decide +kernel)
  have hone := (raw_string_hides_contents_iff (by decide) hline hclose hescape).1.2 hkeeps
  have htext : List.replicate 2 '#' ++ (['"'] ++ ("\\\"# // \x7b \"#".toList ++
      (['"'] ++ List.replicate 2 '#'))) = "##\"\\\"# // \x7b \"#\"##".toList := by decide +kernel
  have hsize : Text.size "##\"\\\"# // \x7b \"#\"##".toList = 17 := by decide +kernel
  rw [htext, hsize] at hone
  exact ⟨by decide, hline, hclose, hescape, hone⟩

/-- **A raw literal that holds a quote alone is not found**, nor is one that begins with two. -/
theorem raw_quote_unterminated :
    1 ≤ 1 ∧ '\n' ∉ ['"'] ∧ ¬ '"' :: List.replicate 1 '#' <:+: ['"'] ∧
      ¬ '\\' :: List.replicate 1 '#' <:+: ['"'] ∧
      List.replicate 1 '#' ++ (['"'] ++ (['"'] ++ (['"'] ++ List.replicate 1 '#'))) =
        "#\"\"\"#".toList ∧
      tokenize "#\"\"\"#".toList = .error ⟨0, .unterminated .stringLiteral⟩ ∧
      tokenize "#\"\"\"a\"#".toList = .error ⟨0, .unterminated .stringLiteral⟩ := by
  decide +kernel

end Literals

end SwiftTuples
