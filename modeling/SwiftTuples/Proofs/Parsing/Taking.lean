import SwiftTuples.Syntax.Item.Parser
/-!
# What a parser takes

A parser that succeeds splits the tokens at hand into those it took and those left. `TakesAt p ts R`
says so of the tokens `ts`, and that `R` holds of what `p` answers with and of the tokens it took;
`Takes p R` says it of all tokens. Sequencing joins what is taken (`TakesAt.bind`), so a fact about
a reader is put together from facts about its parts, in the order of its text.

A parser that looks ahead before it passes over a token is read at the tokens it looks at, which
is what the pointwise form is for. The parsers that recurse are not treated here.
-/

namespace SwiftTuples

/-! ## Tokens -/

theorem Token.kind_of_is {t : Token} {c : Char} (h : t.is c) : t.kind = .punct c :=
  of_decide_eq_true h

theorem Token.kind_of_name? {t : Token} {name : String} (h : t.name? = some name) :
    t.kind = .ident name := by
  unfold name? at h
  split at h
  · next hkind =>
    cases h
    exact hkind
  · cases h

theorem Token.is_eq_false_of_is {t : Token} {c d : Char} (h : t.is c) (hne : c ≠ d) :
    t.is d = false := by
  simp [Token.is, Token.kind_of_is h, hne]

theorem Token.is_eq_false_of_name? {t : Token} (h : t.name?.isSome) (c : Char) :
    t.is c = false := by
  obtain ⟨name, hname⟩ := Option.isSome_iff_exists.1 h
  simp [Token.is, Token.kind_of_name? hname]

theorem Token.name?_of_is {t : Token} {c : Char} (h : t.is c) : t.name? = none := by
  simp [Token.name?, Token.kind_of_is h]

namespace TokenParser

variable {α β : Type}

/-! ## Parsers as functions -/

theorem bind_apply (p : TokenParser α) (f : α → TokenParser β) (ts : List Placed) :
    (p >>= f) ts = (p ts).bind fun x => f x.1 x.2 := rfl

/-- A sequence that succeeds, taken apart. -/
theorem bind_eq_ok {p : TokenParser α} {f : α → TokenParser β} {ts rest : List Placed} {b : β} :
    (p >>= f) ts = .ok (b, rest) ↔
      ∃ a mid, p ts = .ok (a, mid) ∧ f a mid = .ok (b, rest) := by
  rw [bind_apply]
  cases p ts with
  | error e => simp [Except.bind]
  | ok x => exact ⟨fun h => ⟨x.1, x.2, rfl, h⟩, fun ⟨_, _, hx, h⟩ => by cases hx; exact h⟩

/-- A sequence goes on from where its first part stops. -/
theorem bind_of_eq_ok {p : TokenParser α} {f : α → TokenParser β} {ts mid : List Placed} {a : α}
    (h : p ts = .ok (a, mid)) : (p >>= f) ts = f a mid := by
  rw [bind_apply, h]
  rfl

/-- What is answered with is mapped. -/
theorem map_of_eq_ok {p : TokenParser α} {g : α → β} {ts rest : List Placed} {a : α}
    (h : p ts = .ok (a, rest)) : (g <$> p) ts = .ok (g a, rest) := by
  change (p >>= fun a => pure (g a)) ts = _
  rw [bind_of_eq_ok h]
  rfl

/-- Two sequences do the same where their parts do. -/
theorem bind_congr {p q : TokenParser α} {f g : α → TokenParser β} {ts : List Placed}
    (hp : p ts = q ts) (hf : ∀ a rest, q ts = .ok (a, rest) → f a rest = g a rest) :
    (p >>= f) ts = (q >>= g) ts := by
  rw [bind_apply, bind_apply, hp]
  cases h : q ts with
  | error e => rfl
  | ok x => exact hf x.1 x.2 h

/-! ## What is taken -/

/-- If the parser succeeds on `ts`, these are the tokens it took, which `R` holds of, and those
left. -/
def TakesAt (p : TokenParser α) (ts : List Placed) (R : α → List Placed → Prop) : Prop :=
  ∀ ⦃a rest⦄, p ts = .ok (a, rest) → ∃ used, ts = used ++ rest ∧ R a used

/-- What the parser takes, from whatever tokens, is as `R` says. -/
def Takes (p : TokenParser α) (R : α → List Placed → Prop) : Prop := ∀ ts, TakesAt p ts R

/-- The parser takes a token, if it succeeds at all. -/
def Advances (p : TokenParser α) : Prop := Takes p fun _ used => used ≠ []

/-- The parser takes a token for what it finds. -/
def AdvancesIfFound (p : TokenParser (Option α)) : Prop :=
  Takes p fun found used => found.isSome → used ≠ []

/-- The parser leaves an end of the tokens at hand. -/
def Splits (p : TokenParser α) : Prop := Takes p fun _ _ => True

namespace TakesAt

variable {p q : TokenParser α} {ts : List Placed} {R S : α → List Placed → Prop}

theorem mono (h : TakesAt p ts R) (himp : ∀ a used, R a used → S a used) : TakesAt p ts S := by
  intro a rest hp
  obtain ⟨used, rfl, hR⟩ := h hp
  exact ⟨used, rfl, himp a used hR⟩

/-- **Sequencing joins what is taken.** -/
theorem bind {f : α → TokenParser β} {S : β → List Placed → Prop} (hp : TakesAt p ts R)
    (hf : ∀ a used rest, ts = used ++ rest → R a used →
      TakesAt (f a) rest fun b more => S b (used ++ more)) :
    TakesAt (p >>= f) ts S := by
  intro b rest h
  obtain ⟨a, mid, hpa, hfb⟩ := bind_eq_ok.1 h
  obtain ⟨used, rfl, ha⟩ := hp hpa
  obtain ⟨more, rfl, hb⟩ := hf a used mid rfl ha hfb
  exact ⟨used ++ more, (List.append_assoc ..).symm, hb⟩

theorem pure {a : α} (h : R a []) : TakesAt (pure a : TokenParser α) ts R := by
  intro b rest hp
  cases hp
  exact ⟨[], rfl, h⟩

theorem fail {cause : SyntaxCause} : TakesAt (fail cause : TokenParser α) ts R := by
  intro b rest hp
  cases hp

theorem look {f : List Placed → α} (h : R (f ts) []) : TakesAt (TokenParser.look f) ts R := by
  intro b rest hp
  cases hp
  exact ⟨[], rfl, h⟩

/-- Looking takes nothing, and what follows is read at the same tokens. -/
theorem look_bind {f : List Placed → β} {g : β → TokenParser α} (h : TakesAt (g (f ts)) ts R) :
    TakesAt (TokenParser.look f >>= g) ts R := h

theorem skip {n : Nat} {R : Unit → List Placed → Prop} (h : R () (ts.take n)) :
    TakesAt (skip n) ts R := by
  intro u rest hp
  cases hp
  exact ⟨ts.take n, (List.take_append_drop n ts).symm, h⟩

theorem map {g : α → β} {S : β → List Placed → Prop} (hp : TakesAt p ts R)
    (h : ∀ a used, R a used → S (g a) used) : TakesAt (g <$> p) ts S :=
  hp.bind fun a used _ _ ha => .pure (by simpa using h a used ha)

theorem ite {c : Prop} [Decidable c] (hp : c → TakesAt p ts R) (hq : ¬ c → TakesAt q ts R) :
    TakesAt (if c then p else q) ts R := by
  split
  · next hc => exact hp hc
  · next hc => exact hq hc

/-- What is left is no longer than what was at hand. -/
theorem length_le (hp : TakesAt p ts R) {rest : List Placed} {a : α}
    (h : p ts = .ok (a, rest)) : rest.length ≤ ts.length := by
  obtain ⟨used, rfl, -⟩ := hp h
  simp

end TakesAt

theorem Takes.splits {p : TokenParser α} {R : α → List Placed → Prop} (h : Takes p R) : Splits p :=
  fun ts => (h ts).mono fun _ _ _ => trivial

section Lengths

variable {ts rest : List Placed}

theorem Splits.length_le {p : TokenParser α} (hp : Splits p) {a : α}
    (h : p ts = .ok (a, rest)) : rest.length ≤ ts.length := (hp ts).length_le h

/-- What an advancing parser leaves is shorter. -/
theorem Advances.length_lt {p : TokenParser α} (hp : Advances p) {a : α}
    (h : p ts = .ok (a, rest)) : rest.length < ts.length := by
  obtain ⟨used, rfl, hne⟩ := hp ts h
  have := List.length_pos_iff.2 hne
  rw [List.length_append]
  omega

/-- What is left after something found is shorter. -/
theorem AdvancesIfFound.length_lt {p : TokenParser (Option α)} (hp : AdvancesIfFound p) {a : α}
    (h : p ts = .ok (some a, rest)) : rest.length < ts.length := by
  obtain ⟨used, rfl, hne⟩ := hp ts h
  have := List.length_pos_iff.2 (hne rfl)
  rw [List.length_append]
  omega

end Lengths

/-! ## Single tokens -/

section known

variable {t : Placed} {c : Char} {ts : List Placed}

theorem eat_of_is (h : t.is c) : eat c (t :: ts) = .ok (some t.start, ts) := by simp [eat, h]

theorem eats_of_is (h : t.is c) : eats c (t :: ts) = .ok (true, ts) := map_of_eq_ok (eat_of_is h)

theorem eats_of_not (h : t.is c = false) : eats c (t :: ts) = .ok (false, t :: ts) := by
  have heat : eat c (t :: ts) = .ok (none, t :: ts) := by simp [eat, h]
  exact map_of_eq_ok heat

theorem expect_of_is (h : t.is c) : expect c (t :: ts) = .ok (t.start, ts) :=
  bind_of_eq_ok (eat_of_is h)

end known

/-- The character at hand is taken, or nothing is. -/
theorem takes_eat (c : Char) : Takes (eat c) fun found used =>
    (found = none ∧ used = []) ∨ ∃ t : Placed, t.is c ∧ found = some t.start ∧ used = [t] := by
  intro ts found rest h
  cases ts with
  | nil =>
    cases h
    exact ⟨[], rfl, .inl ⟨rfl, rfl⟩⟩
  | cons t ts =>
    simp only [eat] at h
    split at h
    · next ht =>
      cases h
      exact ⟨[t], rfl, .inr ⟨t, ht, rfl, rfl⟩⟩
    · cases h
      exact ⟨[], rfl, .inl ⟨rfl, rfl⟩⟩

theorem takes_eats (c : Char) : Takes (eats c) fun found used =>
    (found = false ∧ used = []) ∨ found = true ∧ ∃ t : Placed, t.is c ∧ used = [t] := by
  refine fun ts => (takes_eat c ts).map fun found used h => ?_
  rcases h with ⟨rfl, rfl⟩ | ⟨t, ht, rfl, rfl⟩
  · exact .inl ⟨rfl, rfl⟩
  · exact .inr ⟨rfl, t, ht, rfl⟩

/-- A character that has been taken is gone. -/
theorem length_lt_of_eats {c : Char} {ts rest : List Placed} (h : eats c ts = .ok (true, rest)) :
    rest.length < ts.length := by
  obtain ⟨used, rfl, ⟨hfalse, -⟩ | ⟨-, t, -, rfl⟩⟩ := takes_eats c ts h
  · cases hfalse
  · simp

theorem takes_expect (c : Char) : Takes (expect c) fun position used =>
    ∃ t : Placed, t.is c ∧ position = t.start ∧ used = [t] := by
  refine fun ts => (takes_eat c ts).bind fun found used rest _ h => ?_
  rcases h with ⟨rfl, rfl⟩ | ⟨t, ht, rfl, rfl⟩
  · exact .fail
  · exact .pure ⟨t, ht, rfl, rfl⟩

theorem advances_expect (c : Char) : Advances (expect c) :=
  fun ts => (takes_expect c ts).mono fun _ _ ⟨_, _, _, hused⟩ => by simp [hused]

/-- A name at hand is taken, or nothing is. -/
theorem takes_name? : Takes name? fun found used =>
    (found = none ∧ used = []) ∨
      ∃ t : Placed, t.name?.isSome ∧ found = t.name? ∧ used = [t] := by
  intro ts found rest h
  cases ts with
  | nil =>
    cases h
    exact ⟨[], rfl, .inl ⟨rfl, rfl⟩⟩
  | cons t ts =>
    simp only [name?] at h
    split at h
    · next name hname =>
      cases h
      exact ⟨[t], rfl, .inr ⟨t, by simp [hname], hname.symm, rfl⟩⟩
    · cases h
      exact ⟨[], rfl, .inl ⟨rfl, rfl⟩⟩

theorem advancesIfFound_name? : AdvancesIfFound name? := by
  refine fun ts => (takes_name? ts).mono fun found used h => ?_
  rcases h with ⟨rfl, rfl⟩ | ⟨t, -, -, rfl⟩ <;> simp

theorem splits_arrow : Splits arrow := by
  intro ts found rest h
  cases ts with
  | nil =>
    cases h
    exact ⟨[], rfl, trivial⟩
  | cons t ts =>
    simp only [arrow] at h
    split at h <;> cases h
    · exact ⟨[t], rfl, trivial⟩
    · exact ⟨[], rfl, trivial⟩

theorem splits_skip (n : Nat) : Splits (skip n) := fun _ => .skip trivial

/-- Passing over tokens takes one, if there is one. -/
theorem TakesAt.skip_succ {n : Nat} {ts : List Placed} (h : ts ≠ []) :
    TakesAt (TokenParser.skip (n + 1)) ts fun _ used => used ≠ [] := by
  refine .skip ?_
  cases ts with
  | nil => exact absurd rfl h
  | cons t ts => exact List.cons_ne_nil _ _

/-! ## Looking ahead -/

theorem ne_nil_of_startsWith {c : Char} {ts : List Placed} (h : startsWith c ts) : ts ≠ [] := by
  rintro rfl
  cases h

theorem ne_nil_of_startsTouching {c : Char} {ts : List Placed} (h : startsTouching c ts) :
    ts ≠ [] := by
  rintro rfl
  cases h

theorem ne_nil_of_word? {ts : List Placed} {word : String} (h : word? ts = some word) :
    ts ≠ [] := by
  rintro rfl
  cases h

/-! ## Parts that may be missing -/

theorem splits_optionally {mark : TokenParser Bool} {p : TokenParser α} (hmark : Splits mark)
    (hp : Splits p) : Splits (optionally mark p) := by
  intro ts
  refine (hmark ts).bind fun found _ rest _ _ => .ite (fun _ => ?_) fun _ => .pure trivial
  exact (hp rest).map fun _ _ _ => trivial

/-! ## Repetition -/

theorem splits_collect {step : TokenParser (Option α)} (h : Splits step) (n : Nat) :
    Splits (collect step n) := by
  induction n with
  | zero => exact fun _ => .pure trivial
  | succ n ih =>
    refine fun ts => (h ts).bind fun found _ rest _ _ => ?_
    cases found with
    | some a => exact (ih rest).bind fun _ _ _ _ _ => .pure trivial
    | none => exact .pure trivial

/-- Where nothing is found nothing is taken. -/
theorem many_eq_nil {step : TokenParser (Option α)} {ts : List Placed}
    (h : step ts = .ok (none, ts)) : many step ts = .ok ([], ts) := by
  rw [many]
  cases ts.length with
  | zero => rfl
  | succ n => exact bind_of_eq_ok h

theorem splits_many {step : TokenParser (Option α)} (h : Splits step) : Splits (many step) :=
  fun ts => splits_collect h ts.length ts

/-! ## Stretches that are passed over -/

theorem closeFrom_suffix {opening closing : Char} {start : Option Nat} {depth braces : Nat}
    {ts rest : List Placed} (h : closeFrom opening closing start depth braces ts = .ok rest) :
    ∃ used, used ≠ [] ∧ ts = used ++ rest := by
  fun_induction closeFrom opening closing start depth braces ts with
  | case1 => cases h
  | case2 => cases h
  | case4 depth braces t more =>
    cases h
    exact ⟨[t], List.cons_ne_nil _ _, rfl⟩
  | case3 _ _ t _ _ _ _ ih | case5 _ _ t _ _ _ _ _ _ ih | case6 _ _ t _ _ _ _ _ ih =>
    obtain ⟨used, -, rfl⟩ := ih h
    exact ⟨t :: used, List.cons_ne_nil _ _, rfl⟩

theorem advances_balanced (opening closing : Char) : Advances (balanced opening closing) := by
  intro ts u rest h
  simp only [balanced] at h
  split at h <;> cases h
  next hclose =>
  obtain ⟨used, hne, rfl⟩ := closeFrom_suffix hclose
  exact ⟨used, rfl, hne⟩

theorem splits_arguments : Splits arguments := fun _ =>
  .look_bind (.ite (fun _ => (advances_balanced _ _).splits _) fun _ => .pure trivial)

theorem splits_angles : Splits angles := fun _ =>
  .look_bind (.ite (fun _ => (advances_balanced _ _).splits _) fun _ => .pure trivial)

theorem advancesIfFound_attribute? : AdvancesIfFound attribute? := by
  refine fun ts => .look_bind ?_
  split
  · next name hname =>
    have hne : ts ≠ [] := by
      rintro rfl
      cases hname
    exact (TakesAt.skip_succ hne).bind fun _ used rest _ hused =>
      (splits_arguments rest).bind fun _ _ _ _ _ => .pure (by simp [hused])
  · exact .pure (by simp)

theorem defaultEnd_suffix {start : Option Nat} {pending : Nat} {ts rest : List Placed}
    (h : defaultEnd start pending ts = .ok rest) : ∃ used, ts = used ++ rest := by
  fun_induction defaultEnd start pending ts with
  | case1 | case5 => cases h
  | case4 pending t more =>
    cases h
    exact ⟨[], rfl⟩
  | case2 _ t _ _ ih | case3 _ t _ _ _ ih | case6 _ t _ _ _ _ _ ih =>
    obtain ⟨used, rfl⟩ := ih h
    exact ⟨t :: used, rfl⟩

theorem splits_trailer : Splits trailer := by
  intro ts u rest h
  simp only [trailer] at h
  generalize hmid : (if startsWith '.' ts && startsWith '.' (ts.drop 1) &&
    startsWith '.' (ts.drop 2) then ts.drop 3 else ts) = mid at h
  have hsplit : ∃ dots, ts = dots ++ mid := by
    subst hmid
    split
    · exact ⟨ts.take 3, (List.take_append_drop 3 ts).symm⟩
    · exact ⟨[], rfl⟩
  obtain ⟨dots, rfl⟩ := hsplit
  split at h
  · split at h <;> cases h
    next hend =>
    obtain ⟨used, rfl⟩ := defaultEnd_suffix hend
    exact ⟨dots ++ used, by simp, trivial⟩
  · cases h
    exact ⟨dots, rfl, trivial⟩

end TokenParser

end SwiftTuples
