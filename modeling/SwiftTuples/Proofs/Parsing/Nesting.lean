import Mathlib.Data.Set.Basic
import Mathlib.Order.Nat
import SwiftTuples.Proofs.Parsing.Braces
/-!
# Nested braces

Braces are nested where each opens a group and another closes it (`Nested`), which is the same as
balanced counts. Two braces match where those between them are nested (`BracesMatch`). Before a file
is read its braces are checked with a stack of those still open, and a fault is reported at one of
two places: at the first brace that closes nothing (`strayAt`), or, where there is none, at the last
one that nothing closes (`unclosedAt`).

Nested braces leave the stack as it was (`matchBraces_nested`), so only the others decide what is on
it, and the last brace that nothing closes has nested braces behind it (`exists_last_unclosed`).
-/

namespace SwiftTuples

/-- Tokens whose braces are nested. -/
inductive Nested : List Token → Prop
  | nil : Nested []
  /-- A token that is no brace. -/
  | token {t : Token} {ts : List Token} (hopen : ¬ t.is '{') (hclose : ¬ t.is '}')
      (more : Nested ts) : Nested (t :: ts)
  /-- A brace, nested braces, and the brace that closes the first. -/
  | group {o c : Token} {inside ts : List Token} (hopen : o.is '{') (inner : Nested inside)
      (hclose : c.is '}') (more : Nested ts) : Nested (o :: (inside ++ c :: ts))

/-- The brace at index `i` is closed by the one at index `j`. -/
def BracesMatch (ts : List Token) (i j : Nat) : Prop :=
  i < j ∧ (∃ o, ts[i]? = some o ∧ o.is '{') ∧ (∃ c, ts[j]? = some c ∧ c.is '}') ∧
    Nested ((ts.take j).drop (i + 1))

/-- The indices of the opening braces that nothing closes. -/
def unclosedAt (ts : List Token) : Set Nat :=
  {i | (∃ o, ts[i]? = some o ∧ o.is '{') ∧ ∀ j, ¬ BracesMatch ts i j}

/-- The indices of the closing braces at which more braces have been closed than opened; `pending`
braces are open before the tokens. -/
def strayAt (pending : Nat) (ts : List Token) : Set Nat :=
  {i | (∃ c, ts[i]? = some c ∧ c.is '}') ∧
    pending + (ts.take (i + 1)).countP (·.is '{') < (ts.take (i + 1)).countP (·.is '}')}

/-- A token stands between those before it and those behind it. -/
theorem eq_take_append_cons_drop {n : Nat} {t : Token} {ts : List Token} (h : ts[n]? = some t) :
    ts = ts.take n ++ t :: ts.drop (n + 1) := by
  obtain ⟨hn, rfl⟩ := List.getElem?_eq_some_iff.1 h
  rw [← List.drop_eq_getElem_cons hn, List.take_append_drop]

/-! ## Stray braces -/

section stray

variable {pending i n : Nat} {t : Token} {ts : List Token}

theorem strayAt_nil : strayAt pending [] = ∅ := by
  refine Set.eq_empty_iff_forall_notMem.2 fun i hi => ?_
  obtain ⟨⟨c, hc, -⟩, -⟩ := hi
  cases hc

/-- The first token is stray if it closes a brace where none is open. -/
theorem zero_mem_strayAt : 0 ∈ strayAt pending (t :: ts) ↔ t.is '}' ∧ pending = 0 := by
  have hcases : t.is '}' → t.is '{' = false := fun h => Token.is_eq_false_of_is h (by decide)
  constructor
  · rintro ⟨⟨c, hc, hclose⟩, hlt⟩
    cases hc
    simp only [Nat.zero_add, List.take_succ_cons, List.take_zero, List.countP_cons, List.countP_nil,
      hclose, hcases hclose, Bool.false_eq_true, if_true, if_false] at hlt
    exact ⟨hclose, by omega⟩
  · rintro ⟨hclose, rfl⟩
    refine ⟨⟨t, rfl, hclose⟩, ?_⟩
    simp [hclose, hcases hclose]

/-- A later token is stray if it is so behind the first, with the braces that are open there. -/
theorem succ_mem_strayAt (h : 0 ∉ strayAt pending (t :: ts)) :
    i + 1 ∈ strayAt pending (t :: ts) ↔
      i ∈ strayAt (if t.is '{' then pending + 1 else if t.is '}' then pending - 1 else pending)
        ts := by
  rw [zero_mem_strayAt] at h
  refine and_congr Iff.rfl ?_
  simp only [List.take_succ_cons, List.countP_cons]
  by_cases hopen : t.is '{'
  · have hclose : t.is '}' = false := Token.is_eq_false_of_is hopen (by decide)
    simp only [hopen, hclose, Bool.false_eq_true, if_true, if_false]
    omega
  by_cases hclose : t.is '}'
  · have hpos : pending ≠ 0 := fun hzero => h ⟨hclose, hzero⟩
    simp only [hopen, hclose, Bool.false_eq_true, if_true, if_false]
    omega
  · simp [hopen, hclose]

/-- A closing brace is counted as one, and not as an opening one. -/
theorem countP_take_close {c : Token} (hc : ts[n]? = some c) (hclose : c.is '}') :
    (ts.take (n + 1)).countP (·.is '}') = (ts.take n).countP (·.is '}') + 1 ∧
      (ts.take (n + 1)).countP (·.is '{') = (ts.take n).countP (·.is '{') := by
  have hopen : c.is '{' = false := Token.is_eq_false_of_is hclose (by decide)
  rw [List.take_add_one, hc]
  simp [List.countP_append, hclose, hopen]

/-- Up to the first stray brace no more braces are closed than opened. -/
theorem countP_take_le (h : ∀ j < n, j ∉ strayAt pending ts) :
    (ts.take n).countP (·.is '}') ≤ pending + (ts.take n).countP (·.is '{') := by
  induction n with
  | zero => simp
  | succ n ih =>
    have hbefore := ih fun j hj => h j (by omega)
    have hn := h n (by omega)
    by_cases hclose : ∃ c, ts[n]? = some c ∧ c.is '}'
    · exact Nat.le_of_not_lt fun hlt => hn ⟨hclose, hlt⟩
    · have hmore : (ts[n]?.toList).countP (·.is '}') = 0 := by
        rw [List.countP_eq_zero]
        intro c hc his
        exact hclose ⟨c, by simpa using hc, his⟩
      rw [List.take_add_one, List.countP_append, List.countP_append, hmore]
      omega

end stray

/-! ## Nested braces are balanced -/

/-- Braces that close one opened before them hold nested braces up to the one that closes it. -/
theorem Closes.exists_partner {pending : Nat} {ts : List Token} (h : Closes (pending + 1) ts) :
    ∃ inside c more, ts = inside ++ c :: more ∧ Nested inside ∧ c.is '}' ∧ Closes pending more := by
  match ts, h with
  | [], h => exact absurd h (Nat.succ_ne_zero pending)
  | t :: ts, h =>
    by_cases hopen : t.is '{'
    · -- the brace and its group come first, and then what closes the one before it
      obtain ⟨inside, c, more, rfl, hinside, hc, hmore⟩ := exists_partner ((closes_open hopen).1 h)
      obtain ⟨inside', c', more', rfl, hinside', hc', hmore'⟩ := exists_partner hmore
      exact ⟨t :: (inside ++ c :: inside'), c', more', by simp, .group hopen hinside hc hinside',
        hc', hmore'⟩
    by_cases hclose : t.is '}'
    · exact ⟨[], t, ts, rfl, .nil, hclose, (closes_close hclose).1 h⟩
    · rw [Closes, if_neg hopen, if_neg hclose] at h
      obtain ⟨inside, c, more, rfl, hinside, hc, hmore⟩ := exists_partner h
      exact ⟨t :: inside, c, more, rfl, .token hopen hclose hinside, hc, hmore⟩
termination_by ts.length

theorem Closes.nested {ts : List Token} (h : Closes 0 ts) : Nested ts := by
  match ts, h with
  | [], _ => exact .nil
  | t :: ts, h =>
    by_cases hopen : t.is '{'
    · obtain ⟨inside, c, more, rfl, hinside, hc, hmore⟩ := ((closes_open hopen).1 h).exists_partner
      exact .group hopen hinside hc (nested hmore)
    by_cases hclose : t.is '}'
    · exact absurd h (not_closes_zero_close hclose)
    · rw [Closes, if_neg hopen, if_neg hclose] at h
      exact .token hopen hclose (nested h)
termination_by ts.length

/-! ## The stack of open braces -/

/-- **Nested braces leave the stack as it was.** -/
theorem matchBraces_nested {ts : List Token} (h : Nested ts) (pending : List Nat)
    (after : List Token) :
    matchBraces pending (ts ++ after) = matchBraces pending after := by
  induction h generalizing pending after with
  | nil => rfl
  | token hopen hclose _ ih =>
    rw [List.cons_append, matchBraces_cons (Bool.eq_false_iff.2 hopen) (Bool.eq_false_iff.2 hclose),
      ih]
  | group hopen _ hclose _ ihinside ihmore =>
    rw [List.cons_append, matchBraces_open hopen, List.append_assoc, ihinside, List.cons_append,
      matchBraces_close hclose, ihmore]

/-- Where no brace is stray the check goes on to the end of the tokens. -/
theorem matchBraces_of_no_stray (pending : List Nat) (ts : List Token)
    (h : ∀ i, i ∉ strayAt pending.length ts) :
    ∃ pending', ∀ after, matchBraces pending (ts ++ after) = matchBraces pending' after := by
  induction ts generalizing pending with
  | nil => exact ⟨pending, fun _ => rfl⟩
  | cons t ts ih =>
    have hmore := fun i => mt (succ_mem_strayAt (i := i) (h 0)).2 (h (i + 1))
    by_cases hopen : t.is '{'
    · simp only [if_pos hopen] at hmore
      obtain ⟨pending', hrest⟩ := ih (t.start :: pending) hmore
      exact ⟨pending', fun after => by rw [List.cons_append, matchBraces_open hopen, hrest]⟩
    by_cases hclose : t.is '}'
    · simp only [if_neg hopen, if_pos hclose] at hmore
      cases pending with
      | nil => exact absurd (zero_mem_strayAt.2 ⟨hclose, rfl⟩) (h 0)
      | cons offset pending =>
        obtain ⟨pending', hrest⟩ := ih pending hmore
        exact ⟨pending', fun after => by rw [List.cons_append, matchBraces_close hclose, hrest]⟩
    · simp only [if_neg hopen, if_neg hclose] at hmore
      obtain ⟨pending', hrest⟩ := ih pending hmore
      refine ⟨pending', fun after => ?_⟩
      rw [List.cons_append, matchBraces_cons (Bool.eq_false_iff.2 hopen)
        (Bool.eq_false_iff.2 hclose), hrest]

/-- Nesting is balance. -/
theorem nested_iff {ts : List Token} : Nested ts ↔ BracesBalanced ts := by
  constructor
  · intro h
    have hcheck : checkBraces (ts ++ []) = .ok () := matchBraces_nested h [] []
    rw [List.append_nil] at hcheck
    exact checkBraces_eq_ok.1 hcheck
  · exact fun h => (closes_zero_iff.2 h).nested

/-- Braces are nested where none is stray and as many are closed as opened. -/
theorem nested_of_counts {ts : List Token} (hstray : ∀ n, (ts.take n).countP (·.is '}') ≤
      (ts.take n).countP (·.is '{'))
    (htotal : ts.countP (·.is '{') = ts.countP (·.is '}')) : Nested ts := by
  refine nested_iff.2 ⟨fun before hbefore => ?_, htotal⟩
  rw [List.prefix_iff_eq_take.1 hbefore]
  exact hstray before.length

/-- Before the first stray brace they are nested. -/
theorem nested_take_of_isLeast {ts : List Token} {i : Nat} (h : IsLeast (strayAt 0 ts) i) :
    Nested (ts.take i) := by
  obtain ⟨⟨⟨c, hc, hclose⟩, hlt⟩, hleast⟩ := h
  have hbefore : ∀ n ≤ i, (ts.take n).countP (·.is '}') ≤ (ts.take n).countP (·.is '{') := by
    intro n hn
    have hle : (ts.take n).countP (·.is '}') ≤ 0 + (ts.take n).countP (·.is '{') :=
      countP_take_le fun j hj hstray => absurd (hleast hstray) (by omega)
    omega
  refine nested_of_counts (fun n => ?_) ?_
  · rw [List.take_take]
    exact hbefore _ (by omega)
  · have hle := hbefore i (Nat.le_refl i)
    obtain ⟨hclosed, hopened⟩ := countP_take_close hc hclose
    omega

/-- Among nested braces none is stray. -/
theorem Nested.strayAt_eq {ts : List Token} (h : Nested ts) : strayAt 0 ts = ∅ := by
  refine Set.eq_empty_iff_forall_notMem.2 fun i ⟨_, hlt⟩ => ?_
  have := (nested_iff.1 h).1 _ (List.take_prefix (i + 1) ts)
  omega

/-! ## Braces that nothing closes -/

section unclosed

variable {i n : Nat} {o : Token} {ts : List Token}

/-- Which brace closes one is seen from the tokens behind it. -/
theorem bracesMatch_iff : BracesMatch ts i (i + 1 + n) ↔ (∃ o, ts[i]? = some o ∧ o.is '{') ∧
    (∃ c, (ts.drop (i + 1))[n]? = some c ∧ c.is '}') ∧ Nested ((ts.drop (i + 1)).take n) := by
  unfold BracesMatch
  rw [List.getElem?_drop, List.drop_take, Nat.add_sub_cancel_left]
  exact and_iff_right (by omega)

/-- A brace is not closed where no brace behind it is stray. -/
theorem mem_unclosedAt : i ∈ unclosedAt ts ↔
    (∃ o, ts[i]? = some o ∧ o.is '{') ∧ strayAt 0 (ts.drop (i + 1)) = ∅ := by
  refine and_congr_right fun hopen => ⟨fun hnone => ?_, fun hstray j hmatch => ?_⟩
  · -- the first stray brace would close it
    classical
    refine Set.not_nonempty_iff_eq_empty.1 fun hstray => ?_
    have hleast := hstray.isLeast_natFind
    exact hnone _ (bracesMatch_iff.2 ⟨hopen, hleast.1.1, nested_take_of_isLeast hleast⟩)
  · -- the brace that closes it would be stray
    obtain ⟨n, rfl⟩ := Nat.exists_eq_add_of_le (Nat.succ_le_of_lt hmatch.1)
    obtain ⟨-, ⟨c, hc, hclose⟩, hnested⟩ := bracesMatch_iff.1 hmatch
    have htotal := (nested_iff.1 hnested).2
    obtain ⟨hclosed, hopened⟩ := countP_take_close hc hclose
    refine Set.eq_empty_iff_forall_notMem.1 hstray n ⟨⟨c, hc, hclose⟩, ?_⟩
    omega

/-- Every end of the tokens closes at least as many braces as it opens. -/
def RearCloses (ts : List Token) : Prop :=
  ∀ n, (ts.drop n).countP (·.is '{') ≤ (ts.drop n).countP (·.is '}')

theorem RearCloses.nested (h : RearCloses ts)
    (htotal : ts.countP (·.is '{') = ts.countP (·.is '}')) : Nested ts := by
  refine nested_of_counts (fun n => ?_) htotal
  have hrear := h n
  rw [← List.take_append_drop n ts, List.countP_append, List.countP_append] at htotal
  omega

/-- Tokens one end of which opens more braces than it closes have a last brace that is not closed,
and those behind it are nested. -/
theorem exists_last_unclosed (ts : List Token) : RearCloses ts ∨ ∃ i o, ts[i]? = some o ∧
    o.is '{' ∧ RearCloses (ts.drop (i + 1)) ∧ Nested (ts.drop (i + 1)) := by
  induction ts with
  | nil => exact .inl fun n => by simp
  | cons t ts ih =>
    rcases ih with hrear | ⟨i, o, ho, hopen, hrear, hnested⟩
    · by_cases hle : (t :: ts).countP (·.is '{') ≤ (t :: ts).countP (·.is '}')
      · refine .inl fun n => ?_
        cases n with
        | zero => exact hle
        | succ n => exact hrear n
      · -- the brace at hand is the one brace too many
        have hts : ts.countP (·.is '{') ≤ ts.countP (·.is '}') := hrear 0
        have hopen : t.is '{' := by
          by_contra hno
          simp only [List.countP_cons, hno, if_false] at hle
          omega
        have hclose : t.is '}' = false := Token.is_eq_false_of_is hopen (by decide)
        simp only [List.countP_cons, hopen, hclose, Bool.false_eq_true, if_true, if_false] at hle
        exact .inr ⟨0, t, rfl, hopen, hrear, hrear.nested (by omega)⟩
    · exact .inr ⟨i + 1, o, ho, hopen, hrear, hnested⟩

theorem isGreatest_unclosedAt (ho : ts[i]? = some o) (hopen : o.is '{')
    (hrear : RearCloses (ts.drop (i + 1))) (hnested : Nested (ts.drop (i + 1))) :
    IsGreatest (unclosedAt ts) i := by
  refine ⟨mem_unclosedAt.2 ⟨⟨o, ho, hopen⟩, hnested.strayAt_eq⟩, fun j hj => ?_⟩
  obtain ⟨⟨o', ho', hopen'⟩, hstray⟩ := mem_unclosedAt.1 hj
  by_contra hlt
  -- behind a later one no more braces are closed than opened, so with it more are opened
  have hle := hrear (j - (i + 1))
  have hmore : ((ts.drop (j + 1)).take (ts.drop (j + 1)).length).countP (·.is '}') ≤
      0 + ((ts.drop (j + 1)).take (ts.drop (j + 1)).length).countP (·.is '{') :=
    countP_take_le fun k _ => Set.eq_empty_iff_forall_notMem.1 hstray k
  obtain ⟨hj', rfl⟩ := List.getElem?_eq_some_iff.1 ho'
  have hclose : ts[j].is '}' = false := Token.is_eq_false_of_is hopen' (by decide)
  rw [List.drop_drop, show i + 1 + (j - (i + 1)) = j by omega, List.drop_eq_getElem_cons hj'] at hle
  rw [List.take_length] at hmore
  simp only [List.countP_cons, hopen', hclose, Bool.false_eq_true, if_true, if_false] at hle
  omega

end unclosed

/-! ## The check -/

theorem strayAt_take_subset (i : Nat) (ts : List Token) : strayAt 0 (ts.take i) ⊆ strayAt 0 ts := by
  rintro j ⟨⟨c, hc, hclose⟩, hlt⟩
  have hj := (List.getElem?_eq_some_iff.1 hc).1
  rw [List.length_take] at hj
  rw [List.take_take, Nat.min_eq_left (by omega)] at hlt
  rw [List.getElem?_take_of_lt (by omega)] at hc
  exact ⟨⟨c, hc, hclose⟩, hlt⟩

/-- **Where braces are found wanting.** The check of the braces succeeds exactly when they are
nested. It reports the first closing brace at which more have been closed than opened. Where there
is none but some are left open, it reports the last one that no brace closes. -/
theorem unmatched_brace_reported (tokens : List Token) :
    (checkBraces tokens = .ok () ↔ Nested tokens) ∧
    (∀ i c, IsLeast (strayAt 0 tokens) i → tokens[i]? = some c →
      checkBraces tokens = .error ⟨c.start, .unexpectedBrace⟩) ∧
    (strayAt 0 tokens = ∅ → tokens.countP (·.is '}') < tokens.countP (·.is '{') →
      ∃ i o, IsGreatest (unclosedAt tokens) i ∧ tokens[i]? = some o ∧
        checkBraces tokens = .error ⟨o.start, .unclosedBrace⟩) ∧
    SyntaxCause.unexpectedBrace.describe = "unexpected `\x7d`" ∧
    SyntaxCause.unclosedBrace.describe = "`\x7b` is never closed" := by
  refine ⟨checkBraces_eq_ok.trans nested_iff.symm, fun i c hleast hc => ?_, fun hstray hlt => ?_,
    rfl, rfl⟩
  · obtain ⟨c', hc', hclose⟩ := hleast.1.1
    obtain rfl : c = c' := Option.some.inj (hc.symm.trans hc')
    rw [checkBraces, eq_take_append_cons_drop hc,
      matchBraces_nested (nested_take_of_isLeast hleast)]
    exact matchBraces_stray hclose
  · rcases exists_last_unclosed tokens with hrear | ⟨i, o, ho, hopen, hrear, hnested⟩
    · exact absurd (hrear 0) (Nat.not_le_of_lt hlt)
    · refine ⟨i, o, isGreatest_unclosedAt ho hopen hrear hnested, ho, ?_⟩
      obtain ⟨pending, hrest⟩ := matchBraces_of_no_stray [] (tokens.take i)
        fun j hj => Set.eq_empty_iff_forall_notMem.1 hstray j (strayAt_take_subset i tokens hj)
      calc checkBraces tokens
          = matchBraces [] (tokens.take i ++ o :: tokens.drop (i + 1)) := by
            rw [checkBraces, ← eq_take_append_cons_drop ho]
        _ = matchBraces (o.start :: pending) (tokens.drop (i + 1) ++ []) := by
            rw [hrest, matchBraces_open hopen, List.append_nil]
        _ = matchBraces (o.start :: pending) [] := matchBraces_nested hnested _ _
        _ = .error ⟨o.start, .unclosedBrace⟩ := rfl

/-- In `{{}` the first brace is left open, not the last; in `{}}` the last one is stray. -/
theorem outer_brace_reported :
    let outer : List Token :=
      [⟨.punct '{', 0, 1, true⟩, ⟨.punct '{', 1, 2, false⟩, ⟨.punct '}', 2, 3, false⟩]
    let stray : List Token :=
      [⟨.punct '{', 0, 1, true⟩, ⟨.punct '}', 1, 2, false⟩, ⟨.punct '}', 2, 3, false⟩]
    strayAt 0 outer = ∅ ∧ outer.countP (·.is '}') < outer.countP (·.is '{') ∧
    (∃ i o, IsGreatest (unclosedAt outer) i ∧ outer[i]? = some o ∧
      checkBraces outer = .error ⟨o.start, .unclosedBrace⟩) ∧
    IsLeast (strayAt 0 stray) 2 ∧ checkBraces stray = .error ⟨2, .unexpectedBrace⟩ := by
  intro outer stray
  have hnone : strayAt 0 outer = ∅ := by
    refine Set.eq_empty_iff_forall_notMem.2 fun i ⟨⟨c, hc, _⟩, hlt⟩ => ?_
    have hno : ∀ i < 3, ¬ 0 + (outer.take (i + 1)).countP (·.is '{') <
        (outer.take (i + 1)).countP (·.is '}') := by decide
    exact hno i (List.getElem?_eq_some_iff.1 hc).1 hlt
  have hleast : IsLeast (strayAt 0 stray) 2 := by
    have hno : ∀ i < 2, ¬ 0 + (stray.take (i + 1)).countP (·.is '{') <
        (stray.take (i + 1)).countP (·.is '}') := by decide
    exact ⟨⟨⟨_, rfl, by decide⟩, by decide⟩,
      fun i hi => Nat.le_of_not_lt fun hlt => hno i hlt hi.2⟩
  exact ⟨hnone, by decide, (unmatched_brace_reported outer).2.2.1 hnone (by decide), hleast,
    (unmatched_brace_reported stray).2.1 2 _ hleast rfl⟩

end SwiftTuples
