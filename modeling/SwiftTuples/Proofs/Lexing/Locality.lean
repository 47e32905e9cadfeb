import Mathlib.Data.List.TakeWhile
import SwiftTuples.Proofs.Lexing.Trivia
/-!
# How far the cut looks

Whether a literal, a name or a block comment ends is seen from its own characters and a look at
the ones that follow, and a space ends each of them. So the cut finds the same piece in front of
another text, as long as that text goes on like the first until it ends or has a space (`Yields`).
Only a slash that opens no regular expression is judged by all the text that follows it.

`Decides n t P` says that the first `n` characters of `t` are enough for `P` in this sense. What a
scan does after a few characters it decides together with them, which is `Decides.append` and
`Decides.andThen`.
-/

namespace SwiftTuples

/-- The second text goes like the first until it ends or has a space. -/
inductive Yields : Text → Text → Prop
  | stop {t u : Text} (space : ∀ c ∈ u.head?, c = ' ') : Yields t u
  | keep {t u : Text} (c : Char) (more : Yields t u) : Yields (c :: t) (c :: u)

namespace Yields

variable {t u : Text}

theorem refl : (t : Text) → Yields t t
  | [] => .stop fun _ hc => by cases hc
  | c :: t => .keep c (refl t)

/-- What a space follows yields to that. -/
theorem space (t u : Text) : Yields t (t ++ ' ' :: u) := by
  induction t with
  | nil => exact .stop fun c hc => (Option.some.inj hc).symm
  | cons c t ih => exact .keep c ih

theorem append (h : Yields t u) : (front : Text) → Yields (front ++ t) (front ++ u)
  | [] => h
  | c :: front => .keep c (append h front)

/-- What the second text starts with, the first starts with, if there is no space in it. -/
theorem starts (h : Yields t u) (front : Text) (hspace : ' ' ∉ front) (hu : front <+: u) :
    front <+: t := by
  induction h generalizing front with
  | stop hstop =>
    cases front with
    | nil => exact List.nil_prefix
    | cons c front =>
      obtain ⟨v, rfl⟩ := hu
      exact absurd (hstop c rfl ▸ List.mem_cons_self) hspace
  | keep c _ ih =>
    cases front with
    | nil => exact List.nil_prefix
    | cons d front =>
      rw [List.cons_prefix_cons] at hu ⊢
      exact ⟨hu.1, ih front (fun hmem => hspace (List.mem_cons_of_mem d hmem)) hu.2⟩

theorem head {c : Char} (h : Yields t u) (hc : c ≠ ' ') (hu : u.head? = some c) :
    t.head? = some c := by
  cases h with
  | stop hstop => exact absurd (hstop c hu) hc
  | keep => exact hu

end Yields

/-- The first `n` characters of a text are enough for `P`: it holds of them and any text that the
rest of the text yields to. -/
def Decides (n : Nat) (t : Text) (P : Text → Prop) : Prop :=
  ∃ body after, t = body ++ after ∧ body.length = n ∧ ∀ u, Yields after u → P (body ++ u)

namespace Decides

variable {n m : Nat} {t : Text} {P Q R : Text → Prop}

theorem zero (h : ∀ u, Yields t u → P u) : Decides 0 t P := ⟨[], t, rfl, rfl, h⟩

/-- A text that decides by itself what it is followed by does not matter. -/
theorem front (body : Text) (h : ∀ u, P (body ++ u)) : Decides body.length (body ++ t) P :=
  ⟨body, t, rfl, rfl, fun u _ => h u⟩

/-- What is decided holds of the same characters before another text. -/
theorem apply {body rest u : Text} (h : Decides body.length (body ++ rest) P) (hu : Yields rest u) :
    P (body ++ u) := by
  obtain ⟨body', after, ht, hlength, hP⟩ := h
  obtain ⟨rfl, rfl⟩ := List.append_inj ht hlength.symm
  exact hP u hu

theorem length_le (h : Decides n t P) : n ≤ t.length := by
  obtain ⟨body, after, rfl, rfl, -⟩ := h
  exact (List.prefix_append ..).length_le

/-- Characters go in front of what is decided. -/
theorem append (h : Decides n t P) (body : Text) (hQ : ∀ u, Yields t u → P u → Q (body ++ u)) :
    Decides (body.length + n) (body ++ t) Q := by
  obtain ⟨inner, after, rfl, rfl, hP⟩ := h
  refine ⟨body ++ inner, after, (List.append_assoc ..).symm, List.length_append, fun u hu => ?_⟩
  rw [List.append_assoc]
  exact hQ _ (hu.append inner) (hP u hu)

theorem cons (h : Decides n t P) (c : Char) (hQ : ∀ u, Yields t u → P u → Q (c :: u)) :
    Decides (n + 1) (c :: t) Q := by
  rw [Nat.add_comm]
  exact h.append [c] hQ

theorem imp (h : Decides n t P) (hQ : ∀ u, Yields t u → P u → Q u) : Decides n t Q := by
  simpa using h.append [] hQ

theorem uncons {c : Char} (h : Decides (n + 1) (c :: t) P) : Decides n t fun u => P (c :: u) := by
  obtain ⟨body, after, ht, hlength, hP⟩ := h
  cases body with
  | nil => cases hlength
  | cons d body =>
    obtain ⟨rfl, rfl⟩ := List.cons.inj ht
    exact ⟨body, after, rfl, Nat.succ.inj hlength, hP⟩

/-- What does not hold of the empty text is not decided by nothing. -/
theorem pos (h : Decides n t P) (hP : ¬ P []) : 0 < n := by
  obtain ⟨body, after, rfl, rfl, hdecides⟩ := h
  refine List.length_pos_iff.2 ?_
  rintro rfl
  exact hP (hdecides [] (.stop fun _ hc => by cases hc))

/-- A character that is among those that decide is there. -/
theorem sameHead (h : Decides n t P) (hn : 0 < n) :
    Decides n t fun u => u.head? = t.head? ∧ P u := by
  obtain ⟨body, after, rfl, rfl, hP⟩ := h
  refine ⟨body, after, rfl, rfl, fun u hu => ⟨?_, hP u hu⟩⟩
  obtain ⟨c, body, rfl⟩ := List.exists_cons_of_length_pos hn
  rfl

/-- One thing is decided, and then another by what follows. -/
theorem andThen (h : Decides n t P) (h' : Decides m (t.drop n) Q)
    (hR : ∀ u, Yields t u → P u → Q (u.drop n) → R u) : Decides (n + m) t R := by
  obtain ⟨body, after, rfl, rfl, hP⟩ := h
  rw [List.drop_left] at h'
  refine h'.append body fun u hu hQ => hR _ (hu.append body) (hP u hu) ?_
  rwa [List.drop_left]

end Decides

namespace Literal

/-! ## Comments and numbers -/

/-- A block comment ends with its own end. -/
theorem decides_blockComment {depth seen m : Nat} {t : Text}
    (h : blockComment depth seen t = some m) :
    ∃ n, m = seen + n ∧
      Decides n t fun u => ∀ seen, blockComment depth seen u = some (seen + n) := by
  fun_induction blockComment depth seen t with
  | case1 seen rest =>
    exact ⟨2, (Option.some.inj h).symm, .front ['*', '/'] fun u seen => by simp [blockComment]⟩
  | case2 seen rest depth ih =>
    obtain ⟨n, rfl, hn⟩ := ih h
    refine ⟨2 + n, by omega, hn.append ['*', '/'] fun u _ hu seen => ?_⟩
    simp only [List.cons_append, List.nil_append, blockComment, hu, Nat.add_assoc]
  | case3 depth seen rest ih =>
    obtain ⟨n, rfl, hn⟩ := ih h
    refine ⟨2 + n, by omega, hn.append ['/', '*'] fun u _ hu seen => ?_⟩
    simp only [List.cons_append, List.nil_append, blockComment, hu, Nat.add_assoc]
  | case4 depth seen c rest hclose hopen ih =>
    obtain ⟨n, rfl, hn⟩ := ih h
    refine ⟨n + 1, by omega, hn.cons c fun u hyields hu seen => ?_⟩
    -- the two characters in front of a yielding text open or close nothing either
    rw [blockComment, hu, Nat.add_assoc, Nat.add_comm 1]
    · rintro v rfl rfl
      obtain ⟨w, rfl⟩ := hyields.starts ['/'] (by decide) ⟨v, rfl⟩
      exact hclose w rfl rfl
    · rintro v rfl rfl
      obtain ⟨w, rfl⟩ := hyields.starts ['*'] (by decide) ⟨v, rfl⟩
      exact hopen w rfl rfl
  | case5 => cases h

/-- A number goes on with the first character of the text. -/
def numberGoesOn : Text → Bool
  | [] => false
  | c :: rest => isAlphanumeric c || c = '_' || (c = '.' && rest.head?.any Char.isDigit)

theorem number_eq (seen : Nat) (t : Text) :
    number seen t = if numberGoesOn t then number (seen + 1) t.tail else seen := by
  cases t with
  | nil => rfl
  | cons c rest => rw [number, numberGoesOn, List.tail_cons]

theorem le_number (seen : Nat) (t : Text) : seen ≤ number seen t := by
  fun_induction number seen t with
  | case1 => exact Nat.le_refl _
  | case2 seen c rest _ ih => exact Nat.le_of_succ_le ih
  | case3 => exact Nat.le_refl _

/-- A number goes on with no space. -/
theorem head_of_numberGoesOn {t : Text} (h : numberGoesOn t) :
    ∃ c, t.head? = some c ∧ c ≠ ' ' := by
  cases t with
  | nil => cases h
  | cons c rest =>
    refine ⟨c, rfl, ?_⟩
    rintro rfl
    have hspace : isAlphanumeric ' ' = false := by decide
    simp [numberGoesOn, hspace] at h

/-- A digit after a point belongs to the number, so the number goes on with it. -/
theorem numberGoesOn_of_isDigit {t : Text} (h : t.head?.any Char.isDigit) : numberGoesOn t := by
  cases t with
  | nil => cases h
  | cons d rest =>
    replace h : d.isDigit = true := h
    have halnum : isAlphanumeric d := by
      have hlt : d.toNat < 128 := by
        simp only [Char.isDigit, Bool.and_eq_true, decide_eq_true_eq, UInt32.le_iff_toNat_le] at h
        exact Nat.lt_of_le_of_lt h.2 (by decide)
      simp [isAlphanumeric, Unicode.isNumber, hlt, h]
    simp [numberGoesOn, halnum]

/-- If a number goes on with what a text yields to, it goes on with the text. -/
theorem numberGoesOn_of_yields {t u : Text} (h : Yields t u) (hu : numberGoesOn u) :
    numberGoesOn t := by
  obtain ⟨c, hhead, hc⟩ := head_of_numberGoesOn hu
  cases h with
  | stop hspace => exact absurd (hspace c hhead) hc
  | @keep t u d more =>
    simp only [numberGoesOn, Bool.or_eq_true, Bool.and_eq_true] at hu ⊢
    refine hu.imp_right (And.imp_right fun hdigit => ?_)
    obtain ⟨e, he, hspace⟩ := head_of_numberGoesOn (numberGoesOn_of_isDigit hdigit)
    rw [he] at hdigit
    rwa [more.head hspace he]

/-- A number ends before the first character that it does not go on with. -/
theorem decides_number (seen : Nat) (t : Text) : ∃ n, number seen t = seen + n ∧
    Decides n t fun u => ∀ seen, number seen u = seen + n := by
  have hends : ∀ t : Text, ¬ numberGoesOn t → ∀ u, Yields t u → ∀ seen, number seen u = seen :=
    fun t ht u hu seen => by rw [number_eq, if_neg fun h => ht (numberGoesOn_of_yields hu h)]
  induction t generalizing seen with
  | nil => exact ⟨0, rfl, .zero (hends [] Bool.false_ne_true)⟩
  | cons c rest ih =>
    by_cases hgoes : numberGoesOn (c :: rest)
    · obtain ⟨n, hn, hdecides⟩ := ih (seen + 1)
      have hnext : Decides n rest fun u =>
          numberGoesOn (c :: u) ∧ ∀ seen, number seen u = seen + n := by
        rw [numberGoesOn, Bool.or_eq_true, Bool.and_eq_true] at hgoes
        rcases hgoes with hgoes | ⟨hpoint, hdigit⟩
        · exact hdecides.imp fun u _ hu => ⟨by rw [numberGoesOn, hgoes]; rfl, hu⟩
        · -- the digit after the point belongs to the number, so it is there in either text
          have hpos : 0 < n := by
            have := le_number (seen + 1 + 1) rest.tail
            rw [number_eq, if_pos (numberGoesOn_of_isDigit hdigit)] at hn
            omega
          refine (hdecides.sameHead hpos).imp fun u _ hu => ⟨?_, hu.2⟩
          rw [numberGoesOn, hu.1, hpoint, hdigit]
          exact Bool.or_true _
      refine ⟨n + 1, ?_, hnext.cons c fun u _ hu seen => ?_⟩
      · rw [number_eq, if_pos hgoes, List.tail_cons, hn, Nat.add_assoc, Nat.add_comm 1]
      · rw [number_eq, if_pos hu.1, List.tail_cons, hu.2, Nat.add_assoc, Nat.add_comm 1]
    · exact ⟨0, by rw [number_eq, if_neg hgoes]; rfl, .zero (hends _ hgoes)⟩

/-! ## Regular expressions

The search for the end of a regular expression is followed character by character, `escaped` saying
that a backslash stands before the text. -/

/-- Characters up to the end of a regular expression, as `regexBody` counts them. -/
def regexScan (marks : Nat) (escaped : Bool) (seen : Nat) : Text → Option Nat
  | [] => none
  | c :: rest =>
    if escaped then regexScan marks false (seen + 1) rest
    else if c = '\\' then regexScan marks true (seen + 1) rest
    else if c = '\n' && marks = 0 then none
    else if c = '/' && (List.replicate marks '#').isPrefixOf rest then some (seen + 1 + marks)
    else regexScan marks false (seen + 1) rest

theorem regexBody_eq (marks : Nat) : (seen : Nat) → (t : Text) →
    regexBody marks seen t = regexScan marks false seen t
  | _, [] => rfl
  | seen, c :: rest => by
    by_cases hc : c = '\\'
    · subst hc
      cases rest with
      | nil => rfl
      | cons d rest => exact regexBody_eq marks (seen + 2) rest
    · rw [regexScan, if_neg Bool.false_ne_true, if_neg hc, ← regexBody_eq marks (seen + 1) rest,
        regexBody]
      · exact fun hback => absurd hback hc
      · exact fun _ _ hback => absurd hback hc

variable {marks seen m : Nat} {escaped : Bool} {t : Text}

/-- A regular expression ends with the slash that closes it and its hash marks. -/
theorem decides_regexScan (h : regexScan marks escaped seen t = some m) : ∃ n, m = seen + n ∧
    Decides n t fun u => ∀ seen, regexScan marks escaped seen u = some (seen + n) := by
  fun_induction regexScan marks escaped seen t with
  | case1 => cases h
  | case2 seen c rest ih =>
    obtain ⟨n, rfl, hn⟩ := ih h
    refine ⟨n + 1, by omega, hn.cons c fun u _ hu seen => ?_⟩
    rw [regexScan, if_pos rfl, hu, Nat.add_assoc, Nat.add_comm 1]
  | case3 escaped seen rest hplain ih =>
    obtain ⟨n, rfl, hn⟩ := ih h
    refine ⟨n + 1, by omega, hn.cons '\\' fun u _ hu seen => ?_⟩
    rw [regexScan, if_neg hplain, if_pos rfl, hu, Nat.add_assoc, Nat.add_comm 1]
  | case4 => cases h
  | case5 escaped seen c rest hplain hc hline hclose =>
    simp only [Bool.and_eq_true, decide_eq_true_eq, List.isPrefixOf_iff_prefix] at hclose
    obtain ⟨rfl, after, rfl⟩ := hclose
    refine ⟨marks + 1, by cases h; omega, ?_⟩
    have hlength : marks + 1 = ('/' :: List.replicate marks '#').length := by simp
    rw [hlength]
    refine .front _ fun u seen => ?_
    rw [List.cons_append, regexScan, if_neg hplain, if_neg hc, if_neg hline, if_pos]
    · simp; omega
    · simp [List.isPrefixOf_iff_prefix]
  | case6 escaped seen c rest hplain hc hline hclose ih =>
    obtain ⟨n, rfl, hn⟩ := ih h
    refine ⟨n + 1, by omega, hn.cons c fun u hyields hu seen => ?_⟩
    rw [regexScan, if_neg hplain, if_neg hc, if_neg hline, if_neg, hu, Nat.add_assoc,
      Nat.add_comm 1]
    simp only [Bool.and_eq_true, decide_eq_true_eq, List.isPrefixOf_iff_prefix] at hclose ⊢
    exact fun ⟨hslash, hmarks⟩ => hclose ⟨hslash, hyields.starts _ (by simp) hmarks⟩

/-- A text is hash marks and what begins otherwise. -/
theorem exists_marks (t : Text) :
    ∃ k rest, t = List.replicate k '#' ++ rest ∧ rest.head? ≠ some '#' := by
  induction t with
  | nil => exact ⟨0, [], rfl, nofun⟩
  | cons c t ih =>
    by_cases hc : c = '#'
    · obtain ⟨k, rest, rfl, hrest⟩ := ih
      exact ⟨k + 1, rest, by rw [hc, List.replicate_succ, List.cons_append], hrest⟩
    · exact ⟨0, c :: t, rfl, fun h => hc (Option.some.inj h)⟩

theorem hashes_replicate (k : Nat) {rest : Text} (h : rest.head? ≠ some '#') :
    hashes (List.replicate k '#' ++ rest) = k := by
  cases rest with
  | nil => simp [hashes]
  | cons c rest =>
    have hc : c ≠ '#' := fun hc => h (congrArg some hc)
    simp [hashes, hc]

/-- Characters of the regular expression at the front of a text, after `marks` hash marks. -/
def regexFrom (marks : Nat) : Text → Option Nat
  | [] => none
  | c :: rest =>
    if c = '#' then regexFrom (marks + 1) rest
    else if c = '/' then
      if marks = 0 && rest.head?.any Unicode.isBlank then none
      else regexScan marks false (marks + 1) rest
    else none

theorem regexFrom_replicate (k : Nat) (marks : Nat) (t : Text) :
    regexFrom marks (List.replicate k '#' ++ t) = regexFrom (marks + k) t := by
  induction k generalizing marks with
  | zero => rfl
  | succ k ih =>
    rw [List.replicate_succ, List.cons_append, regexFrom, if_pos rfl, ih, Nat.add_assoc,
      Nat.add_comm 1]

theorem regex_eq (t : Text) : regex t = regexFrom 0 t := by
  obtain ⟨k, rest, rfl, hrest⟩ := exists_marks t
  have hdrop : (List.replicate k '#' ++ rest).drop k = rest := List.drop_left' List.length_replicate
  rw [regexFrom_replicate, Nat.zero_add, regex, hashes_replicate k hrest]
  cases rest with
  | nil => simp only [hdrop, regexFrom]
  | cons c rest =>
    rw [regexFrom, if_neg fun hc => hrest (congrArg some hc)]
    by_cases hslash : c = '/'
    · subst hslash
      simp only [hdrop, if_pos, regexBody_eq]
    · simp [hdrop, hslash]

/-- A regular expression is found by its own characters. -/
theorem decides_regexFrom (h : regexFrom marks t = some m) :
    ∃ n, m = marks + n ∧ Decides n t fun u => regexFrom marks u = some m := by
  fun_induction regexFrom marks t with
  | case1 => cases h
  | case2 marks rest ih =>
    obtain ⟨n, rfl, hn⟩ := ih h
    exact ⟨n + 1, by omega, hn.cons '#' fun u _ hu => by rw [regexFrom, if_pos rfl, hu]⟩
  | case3 => cases h
  | case4 marks rest hblank hc =>
    obtain ⟨n, rfl, hn⟩ := decides_regexScan h
    have hpos : 0 < n := hn.pos fun hnil => by cases hnil 0
    refine ⟨n + 1, by omega, (hn.sameHead hpos).cons '/' fun u _ hu => ?_⟩
    rw [regexFrom, if_neg hc, if_pos rfl, hu.1, if_neg hblank, hu.2]
  | case5 => cases h

/-! ## Strings -/

namespace Delimiter

variable (d : Delimiter)

theorem exists_quotes : ∃ more, d.quotes = '"' :: more := by
  unfold quotes
  split <;> exact ⟨_, rfl⟩

theorem exists_closing : ∃ more, d.closing = '"' :: more := by
  obtain ⟨more, hmore⟩ := d.exists_quotes
  exact ⟨_, by rw [closing, hmore, List.cons_append]⟩

theorem space_not_mem_closing : ' ' ∉ d.closing := by
  unfold closing quotes
  split <;> simp

theorem space_not_mem_escape : ' ' ∉ d.escape := by simp [escape]

@[simp] theorem length_escape : d.escape.length = d.hashes + 1 := by simp [escape]

/-- An escape is no end. -/
theorem not_closing_of_escape (t : Text) : ¬ d.closing.isPrefixOf (d.escape ++ t) := by
  obtain ⟨more, hmore⟩ := d.exists_closing
  simp [hmore, escape]

end Delimiter

variable {d : Delimiter} {opening t u : Text} {seen n : Nat}

theorem stringBody_closing (d : Delimiter) (opening : Text) (seen : Nat) (u : Text) :
    stringBody d opening seen (d.closing ++ u) = .ok (seen + d.closing.length) := by
  obtain ⟨more, hmore⟩ := d.exists_closing
  have hcloses : d.closing.isPrefixOf ('"' :: (more ++ u)) := by
    rw [List.isPrefixOf_iff_prefix, hmore]
    exact List.prefix_append ..
  rw [hmore, List.cons_append, stringBody, if_pos hcloses, hmore]

theorem Delimiter.eq_escape_append {c e : Char} {rest after : Text}
    (h : d.escape.isPrefixOf (c :: rest)) (hdrop : rest.drop d.hashes = e :: after) :
    c :: rest = (d.escape ++ [e]) ++ after := by
  obtain ⟨more, ht⟩ := List.isPrefixOf_iff_prefix.1 h
  rw [Delimiter.escape, List.cons_append] at ht
  obtain ⟨rfl, rfl⟩ := List.cons.inj ht
  rw [List.drop_left' List.length_replicate] at hdrop
  simp [Delimiter.escape, hdrop]

/-- What comes after an escape is looked at. -/
theorem stringBody_escape (d : Delimiter) (opening : Text) (seen : Nat) (e : Char) (u : Text) :
    stringBody d opening seen ((d.escape ++ [e]) ++ u) =
      if e = '(' then
        match interpolation 0 (e :: u) 0 u with
        | .error fault => .error fault
        | .ok n => stringBody d opening (seen + d.hashes + 2 + n) (u.drop n)
      else stringBody d opening (seen + d.hashes + 2) u := by
  have hclose := d.not_closing_of_escape (e :: u)
  have hescape : d.escape.isPrefixOf (d.escape ++ e :: u) := by
    rw [List.isPrefixOf_iff_prefix]
    exact List.prefix_append ..
  have hdrop : (List.replicate d.hashes '#' ++ e :: u).drop d.hashes = e :: u :=
    List.drop_left' List.length_replicate
  have hcons : d.escape ++ e :: u = '\\' :: (List.replicate d.hashes '#' ++ e :: u) := rfl
  rw [hcons] at hclose hescape
  rw [List.append_assoc, List.singleton_append, hcons, stringBody, if_neg hclose, if_pos hescape]
  split
  · next hnil => rw [hdrop] at hnil; cases hnil
  · next e' after hafter =>
    rw [hdrop] at hafter
    cases hafter
    rfl

theorem stringBody_char {c : Char} (hclose : ¬ d.closing.isPrefixOf (c :: u))
    (hescape : ¬ d.escape.isPrefixOf (c :: u)) (hline : ¬ (c = '\n' && !d.multiline) = true)
    (opening : Text) (seen : Nat) :
    stringBody d opening seen (c :: u) = stringBody d opening (seen + 1) u := by
  rw [stringBody, if_neg hclose, if_neg hescape, if_neg hline]

theorem interpolation_open (depth : Nat) (opening : Text) (seen : Nat) (u : Text) :
    interpolation depth opening seen ('(' :: u) =
      interpolation (depth + 1) opening (seen + 1) u := by
  rw [interpolation.eq_def]
  rfl

theorem interpolation_close (depth : Nat) (opening : Text) (seen : Nat) (u : Text) :
    interpolation (depth + 1) opening seen (')' :: u) =
      interpolation depth opening (seen + 1) u := by
  rw [interpolation.eq_def]
  rfl

theorem interpolation_end (opening : Text) (seen : Nat) (u : Text) :
    interpolation 0 opening seen (')' :: u) = .ok (seen + 1) := by
  rw [interpolation.eq_def]
  rfl

theorem interpolation_string (hd : Delimiter.atFront ('"' :: u) = d) (depth : Nat)
    (opening : Text) (seen : Nat) : interpolation depth opening seen ('"' :: u) =
      match stringBody d ('"' :: u) (d.quotes.length - 1) (u.drop (d.quotes.length - 1)) with
      | .error fault => .error fault
      | .ok n => interpolation depth opening (seen + 1 + n) (u.drop n) := by
  subst hd
  rw [interpolation.eq_def]
  rfl

theorem interpolation_char {c : Char} (hopen : c ≠ '(') (hclose : c ≠ ')') (hquote : c ≠ '"')
    (depth : Nat) (opening : Text) (seen : Nat) (u : Text) :
    interpolation depth opening seen (c :: u) = interpolation depth opening (seen + 1) u := by
  rw [interpolation.eq_def]
  simp only [if_neg hopen, if_neg hclose, if_neg hquote]

/-- Hash marks and a quote are at the front of a raw string. -/
theorem exists_quote (h : isRawString t) : ∃ k rest, t = List.replicate k '#' ++ '"' :: rest := by
  obtain ⟨k, rest, rfl, hrest⟩ := exists_marks t
  cases rest with
  | nil => simp [isRawString] at h
  | cons c rest =>
    have hc : c ≠ '#' := fun hc => hrest (congrArg some hc)
    obtain rfl : c = '"' := by simpa [isRawString, hc] using h
    exact ⟨k, rest, rfl⟩

theorem isRawString_replicate (k : Nat) (rest : Text) :
    isRawString (List.replicate k '#' ++ '"' :: rest) := by simp [isRawString]

theorem atFront_replicate (k : Nat) (rest : Text) :
    Delimiter.atFront (List.replicate k '#' ++ '"' :: rest) =
      ⟨k, ['"', '"'].isPrefixOf rest⟩ := by
  have hmarks : hashes (List.replicate k '#' ++ '"' :: rest) = k := hashes_replicate k (by simp)
  simp [Delimiter.atFront, hmarks]

/-- Whether two further quotes follow is seen from them, or from what is there instead. -/
theorem decides_quotes (t : Text) : Decides (if ['"', '"'].isPrefixOf t then 2 else 0) t
    fun u => ['"', '"'].isPrefixOf u = ['"', '"'].isPrefixOf t := by
  by_cases hquotes : ['"', '"'] <+: t
  · obtain ⟨rest, rfl⟩ := hquotes
    exact .front ['"', '"'] fun u => by simp
  · have hsingle : ∀ u, Yields t u → ['"', '"'].isPrefixOf u = false := fun u hu => by
      rw [Bool.eq_false_iff, ne_eq, List.isPrefixOf_iff_prefix]
      exact fun hfront => hquotes (hu.starts _ (by decide) hfront)
    rw [hsingle t (.refl t)]
    exact .zero hsingle

/-- How a string is delimited is seen from what opens it. -/
theorem decides_delimiter (h : isRawString t) : Decides (Delimiter.atFront t).openingLength t
    fun u => isRawString u ∧ Delimiter.atFront u = Delimiter.atFront t := by
  obtain ⟨k, rest, rfl⟩ := exists_quote h
  have happend : ∀ u : Text, List.replicate k '#' ++ '"' :: u =
      (List.replicate k '#' ++ ['"']) ++ u := fun u => by simp
  have hlength : ∀ b, (Delimiter.mk k b).openingLength =
      (List.replicate k '#' ++ ['"']).length + if b then 2 else 0 := by
    intro b
    cases b <;> simp [Delimiter.openingLength, Delimiter.quotes]
  rw [atFront_replicate, hlength, happend rest]
  refine (decides_quotes rest).append _ fun u _ hu => ?_
  rw [← happend, atFront_replicate, hu]
  exact ⟨isRawString_replicate .., rfl⟩

/-- Inside an interpolation, where a string carries no hash marks, after its first quote. -/
theorem decides_innerDelimiter (t : Text) :
    Decides ((Delimiter.atFront ('"' :: t)).quotes.length - 1) t
      fun u => Delimiter.atFront ('"' :: u) = Delimiter.atFront ('"' :: t) := by
  have hfront : ∀ u, Delimiter.atFront ('"' :: u) = ⟨0, ['"', '"'].isPrefixOf u⟩ :=
    atFront_replicate 0
  have hlength : ∀ b, (Delimiter.mk 0 b).quotes.length - 1 = if b then 2 else 0 := by decide
  simp only [hfront, hlength]
  exact (decides_quotes t).imp fun u _ hu => by rw [hu]

/-- The end that a scan finds is seen from what it passes over. -/
def ScanDecided (scan : Text → Nat → Text → Except Unterminated Nat) (opening : Text) (seen : Nat)
    (t : Text) : Prop :=
  ∀ m, scan opening seen t = .ok m → ∃ n, m = seen + n ∧
    Decides n t fun u => ∀ opening seen, scan opening seen u = .ok (seen + n)

namespace ScanDecided

variable {scan scan' : Text → Nat → Text → Except Unterminated Nat}

theorem fails {fault : Unterminated} (h : scan opening seen t = .error fault) :
    ScanDecided scan opening seen t := by
  intro m hm
  rw [h] at hm
  cases hm

/-- A scan that ends after some characters whatever comes then. -/
theorem ends (front : Text) (h : ∀ u opening seen, scan opening seen (front ++ u) =
    .ok (seen + front.length)) : ScanDecided scan opening seen (front ++ t) := by
  intro m hm
  rw [h] at hm
  exact ⟨front.length, (Except.ok.inj hm).symm, .front front h⟩

/-- A scan that passes over some characters and goes on. -/
theorem passes (front : Text) (hstep : ∀ u, Yields t u → ∀ opening seen,
      scan opening seen (front ++ u) = scan' opening (seen + front.length) u)
    (h : ScanDecided scan' opening (seen + front.length) t) :
    ScanDecided scan opening seen (front ++ t) := by
  intro m hm
  rw [hstep t (.refl t)] at hm
  obtain ⟨n, rfl, hn⟩ := h m hm
  refine ⟨front.length + n, Nat.add_assoc .., hn.append front fun u hyields hu opening seen => ?_⟩
  rw [hstep u hyields, hu, Nat.add_assoc]

end ScanDecided

/-- A character of a string that neither ends it nor begins an escape is passed over. -/
theorem stringDecided_char {c : Char} (hclose : ¬ d.closing.isPrefixOf (c :: t))
    (hescape : ¬ d.escape.isPrefixOf (c :: t)) (hline : ¬ (c = '\n' && !d.multiline) = true)
    (h : ScanDecided (stringBody d) opening (seen + 1) t) :
    ScanDecided (stringBody d) opening seen (c :: t) := by
  rw [List.isPrefixOf_iff_prefix] at hclose hescape
  refine .passes [c] (fun u hu opening seen => stringBody_char ?_ ?_ hline opening seen) h
  -- neither the end nor an escape is there in front of a yielding text
  · rw [List.isPrefixOf_iff_prefix]
    exact fun hfront => hclose ((hu.append [c]).starts _ d.space_not_mem_closing hfront)
  · rw [List.isPrefixOf_iff_prefix]
    exact fun hfront => hescape ((hu.append [c]).starts _ d.space_not_mem_escape hfront)

/-- An interpolation inside a string is passed over as a whole. -/
theorem stringDecided_interpolation (hn : interpolation 0 ('(' :: t) 0 t = .ok n)
    (hinner : ScanDecided (interpolation 0) ('(' :: t) 0 t)
    (h : ScanDecided (stringBody d) opening (seen + d.hashes + 2 + n) (t.drop n)) :
    ScanDecided (stringBody d) opening seen ((d.escape ++ ['(']) ++ t) := by
  intro m hm
  rw [stringBody_escape, if_pos rfl, hn] at hm
  obtain ⟨n, rfl, hinner⟩ := hinner n hn
  obtain ⟨k, rfl, hrest⟩ := h m hm
  rw [Nat.zero_add] at hrest
  have hboth := hinner.andThen hrest fun u _ hu hu' => And.intro hu hu'
  refine ⟨(d.escape ++ ['(']).length + (n + k), by simp; omega,
    hboth.append _ fun u _ hu opening seen => ?_⟩
  rw [stringBody_escape, if_pos rfl, hu.1, Nat.zero_add]
  simp only [hu.2, List.length_append, Delimiter.length_escape, List.length_singleton]
  congr 1
  omega

/-- A string inside an interpolation is passed over as a whole. -/
theorem interpolationDecided_string {depth : Nat} (hd : Delimiter.atFront ('"' :: t) = d)
    (hn : stringBody d ('"' :: t) (d.quotes.length - 1) (t.drop (d.quotes.length - 1)) = .ok n)
    (hbody : ScanDecided (stringBody d) ('"' :: t) (d.quotes.length - 1)
      (t.drop (d.quotes.length - 1)))
    (h : ScanDecided (interpolation depth) opening (seen + 1 + n) (t.drop n)) :
    ScanDecided (interpolation depth) opening seen ('"' :: t) := by
  intro m hm
  rw [interpolation_string hd, hn] at hm
  obtain ⟨k, rfl, hbody⟩ := hbody n hn
  obtain ⟨j, rfl, hrest⟩ := h m hm
  have hdelimiter := decides_innerDelimiter t
  rw [hd] at hdelimiter
  have hstring := hdelimiter.andThen hbody fun u _ hu hu' => And.intro hu hu'
  have hall := hstring.andThen hrest fun u _ hu hu' => And.intro hu hu'
  refine ⟨d.quotes.length - 1 + k + j + 1, by omega,
    hall.cons '"' fun u _ hu opening seen => ?_⟩
  rw [interpolation_string hu.1.1, hu.1.2]
  simp only [hu.2]
  congr 1
  omega

/-- **The ends of strings and interpolations are seen from them**, both at once as they nest. -/
theorem strings_decided :
    (∀ d opening seen t, ScanDecided (stringBody d) opening seen t) ∧
      ∀ depth opening seen t, ScanDecided (interpolation depth) opening seen t := by
  refine stringBody.mutual_induct (fun d => ScanDecided (stringBody d))
    (fun depth => ScanDecided (interpolation depth)) ?stringEnds ?closing ?escapeEnds
    ?openInterpolation ?interpolation ?escape ?line ?char ?interpolationEnds ?opens ?closes
    ?closesInner ?openString ?string ?other
  case stringEnds =>
    intro d opening seen
    exact .fails (by rw [stringBody])
  case closing =>
    intro d opening seen c rest hclose
    obtain ⟨rest, ht⟩ := List.isPrefixOf_iff_prefix.1 hclose
    rw [← ht]
    exact .ends d.closing fun u opening seen => stringBody_closing ..
  case escapeEnds =>
    intro d opening seen c rest hclose hescape hdrop
    have hfault : stringBody d opening seen (c :: rest) = .error ⟨.stringLiteral, opening⟩ := by
      rw [stringBody, if_neg hclose, if_pos hescape]
      split
      · rfl
      · next hcons => rw [hdrop] at hcons; cases hcons
    exact .fails hfault
  case openInterpolation =>
    intro d opening seen c rest _ hescape after fault hdrop hfault _
    rw [d.eq_escape_append hescape hdrop]
    exact .fails (by rw [stringBody_escape, if_pos rfl, hfault])
  case interpolation =>
    intro d opening seen c rest _ hescape after n hdrop hn hinner hrest
    rw [d.eq_escape_append hescape hdrop]
    exact stringDecided_interpolation hn hinner hrest
  case escape =>
    intro d opening seen c rest _ hescape e after hdrop he hrest
    rw [d.eq_escape_append hescape hdrop]
    have hlength : (d.escape ++ [e]).length = d.hashes + 2 := by simp
    refine .passes _ (fun u _ opening seen => ?_) (by rwa [hlength])
    rw [stringBody_escape, if_neg he, hlength, Nat.add_assoc]
  case line =>
    intro d opening seen c rest hclose hescape hline
    exact .fails (by rw [stringBody, if_neg hclose, if_neg hescape, if_pos hline])
  case char =>
    intro d opening seen c rest hclose hescape hline hrest
    exact stringDecided_char hclose hescape hline hrest
  case interpolationEnds =>
    intro depth opening seen
    exact .fails (by rw [interpolation])
  case opens =>
    intro depth opening seen rest hrest
    exact .passes ['('] (fun u _ opening seen => interpolation_open ..) hrest
  case closes =>
    intro opening seen rest _
    exact .ends [')'] fun u opening seen => interpolation_end ..
  case closesInner =>
    intro opening seen rest depth _ hrest
    exact .passes [')'] (fun u _ opening seen => interpolation_close ..) hrest
  case openString =>
    intro depth opening seen rest fault _ _ d quotes hfault _
    have hquotes : d.quotes.length - 1 = quotes := rfl
    exact .fails (by rw [interpolation_string rfl, hquotes, hfault])
  case string =>
    intro depth opening seen rest n _ _ d quotes hn hbody hrest
    exact interpolationDecided_string rfl hn hbody hrest
  case other =>
    intro depth opening seen c rest hopen hclose hquote hrest
    exact .passes [c] (fun u _ opening seen => interpolation_char hopen hclose hquote ..) hrest

/-- A string with its hash marks is found by its own characters and by whether a quote follows. -/
theorem decides_string {m : Nat} (hraw : isRawString t) (h : string t = .ok m) :
    0 < m ∧ Decides m t fun u => isRawString u ∧ string u = .ok m := by
  rw [string] at h
  obtain ⟨n, rfl, hbody⟩ := strings_decided.1 _ _ _ _ m h
  constructor
  · have : 0 < (Delimiter.atFront t).openingLength := by
      unfold Delimiter.openingLength Delimiter.quotes
      split <;> simp
    omega
  · refine (decides_delimiter hraw).andThen hbody fun u _ hu hu' => ⟨hu.1, ?_⟩
    simp only [string, hu.2, hu']

end Literal

end SwiftTuples
