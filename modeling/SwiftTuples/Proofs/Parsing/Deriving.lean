import SwiftTuples.Proofs.Parsing.Advance
import SwiftTuples.Proofs.Parsing.Phrase
/-!
# Readers of types derive phrases

What a reader of types takes, wherever it stands and whatever comes after, is a phrase of what it
answers with (`phrase_of_typeExpr`). Each reader is taken apart once, along its text; the readers
that call each other are treated together, by induction on the bound that all of them lower.
-/

namespace SwiftTuples

namespace TokenParser

variable {ts rest : List Placed}

/-! ## Marks and names, taken apart -/

/-- The character was at hand and has been taken, or it was not at hand. -/
theorem eats_eq_ok {c : Char} {found : Bool} (h : eats c ts = .ok (found, rest)) :
    (found = true ∧ ∃ t : Placed, t.is c ∧ ts = t :: rest) ∨
      (found = false ∧ ¬ startsWith c ts ∧ ts = rest) := by
  obtain ⟨offset, mid, heat, hmap⟩ :=
    (bind_eq_ok (p := eat c) (f := fun offset => pure (Option.isSome offset))).1 h
  cases hmap
  cases ts with
  | nil =>
    cases heat
    exact .inr ⟨rfl, by simp [startsWith], rfl⟩
  | cons t more =>
    simp only [eat] at heat
    split at heat <;> cases heat
    · next ht => exact .inl ⟨rfl, t, ht, rfl⟩
    · next ht => exact .inr ⟨rfl, ht, rfl⟩

theorem expect_eq_ok {c : Char} {position : Nat} (h : expect c ts = .ok (position, rest)) :
    ∃ t : Placed, t.is c ∧ ts = t :: rest := by
  obtain ⟨used, rfl, t, ht, -, rfl⟩ := takes_expect c ts h
  exact ⟨t, ht, rfl⟩

theorem name?_eq_ok {found : Option String} (h : name? ts = .ok (found, rest)) :
    (∃ name, ∃ t : Placed, found = some name ∧ t.name? = some name ∧ ts = t :: rest) ∨
      (found = none ∧ ts = rest) := by
  obtain ⟨used, rfl, ⟨rfl, rfl⟩ | ⟨t, hsome, rfl, rfl⟩⟩ := takes_name? ts h
  · exact .inr ⟨rfl, rfl⟩
  · obtain ⟨name, hname⟩ := Option.isSome_iff_exists.1 hsome
    exact .inl ⟨name, t, hname, hname, rfl⟩

theorem arrow_eq_ok (h : arrow ts = .ok (true, rest)) :
    ∃ t : Placed, t.kind = .arrow ∧ ts = t :: rest := by
  cases ts with
  | nil => cases h
  | cons t more =>
    simp only [arrow] at h
    split at h <;> cases h
    next ht => exact ⟨t, ht, rfl⟩

theorem cons_of_startsWith {c : Char} (h : startsWith c ts) :
    ∃ t more, t.is c ∧ ts = t :: more := by
  cases ts with
  | nil => cases h
  | cons t more => exact ⟨t, more, h, rfl⟩

theorem cons_of_startsTouching {c : Char} (h : startsTouching c ts) :
    ∃ t more, t.is c ∧ t.touching ∧ ts = t :: more := by
  cases ts with
  | nil => cases h
  | cons t more =>
    obtain ⟨ht, htouching⟩ := Bool.and_eq_true_iff.1 h
    exact ⟨t, more, ht, htouching, rfl⟩

theorem cons_of_word? {name : String} (h : word? ts = some name) :
    ∃ t more, t.name? = some name ∧ ts = t :: more := by
  cases ts with
  | nil => cases h
  | cons t more => exact ⟨t, more, h, rfl⟩

/-- A mark of an optional type has been taken, or neither mark touches. -/
theorem optionalMark?_eq_ok {found : Option OptionalMark}
    (h : optionalMark? ts = .ok (found, rest)) :
    (∃ mark, ∃ t : Placed, found = some mark ∧ t.touching ∧ ts = t :: rest ∧
        ((mark = .question ∧ t.is '?') ∨ (mark = .exclamation ∧ t.is '!'))) ∨
      (found = none ∧ ¬ startsTouching '?' ts ∧ ¬ startsTouching '!' ts ∧ ts = rest) := by
  obtain ⟨question, mid, hlook, h⟩ := bind_eq_ok.1 h
  cases hlook
  split at h
  · next hquestion =>
    obtain ⟨t, more, ht, htouching, rfl⟩ := cons_of_startsTouching hquestion
    cases h
    exact .inl ⟨.question, t, rfl, htouching, rfl, .inl ⟨rfl, ht⟩⟩
  · next hquestion =>
    obtain ⟨exclamation, mid, hlook, h⟩ := bind_eq_ok.1 h
    cases hlook
    split at h
    · next hexclamation =>
      obtain ⟨t, more, ht, htouching, rfl⟩ := cons_of_startsTouching hexclamation
      cases h
      exact .inl ⟨.exclamation, t, rfl, htouching, rfl, .inr ⟨rfl, ht⟩⟩
    · next hexclamation =>
      cases h
      exact .inr ⟨rfl, hquestion, hexclamation, rfl⟩

/-- A dot and a name have been taken, or they are not at hand. -/
theorem memberName?_eq_ok {found : Option String} (h : memberName? ts = .ok (found, rest)) :
    (∃ name, ∃ dot word : Placed, found = some name ∧ dot.is '.' ∧ word.name? = some name ∧
        ts = dot :: word :: rest) ∨
      (found = none ∧ ¬ (startsWith '.' ts ∧ startsWithWord ts.tail) ∧ ts = rest) := by
  obtain ⟨name, mid, hlook, h⟩ := bind_eq_ok.1 h
  obtain ⟨hname, rfl⟩ : (if startsWith '.' ts then word? ts.tail else none) = name ∧ ts = mid := by
    cases hlook
    exact ⟨rfl, rfl⟩
  cases name with
  | some name =>
    split at hname
    · next hdot =>
      obtain ⟨dot, more, hdot, rfl⟩ := cons_of_startsWith hdot
      obtain ⟨word, more, hword, rfl⟩ := cons_of_word? hname
      cases h
      exact .inl ⟨name, dot, word, rfl, hdot, hword, rfl⟩
    · cases hname
  | none =>
    cases h
    refine .inr ⟨rfl, fun ⟨hdot, hword⟩ => ?_, rfl⟩
    rw [if_pos hdot] at hname
    simp [startsWithWord, hname] at hword

/-! ## Specifiers, effects, labels and trailers -/

/-- The tokens passed over are taken before what follows. -/
theorem TakesAt.skip_bind {β : Type} {n : Nat} {f : Unit → TokenParser β}
    {S : β → List Placed → Prop} (front : List Placed) (hn : front.length = n)
    (h : TakesAt (f ()) rest fun b more => S b (front ++ more)) :
    TakesAt (TokenParser.skip n >>= f) (front ++ rest) S := by
  subst hn
  refine TakesAt.bind (R := fun _ used => used = front) (.skip (by simp)) ?_
  rintro _ _ after hsplit rfl
  rwa [← List.append_cancel_left hsplit]

theorem takes_arguments : Takes arguments fun _ used => IsArguments used := by
  refine fun ts => .look_bind (.ite (fun htouching => ?_) fun _ => .pure (.inl rfl))
  intro _ rest h
  obtain ⟨used, rfl, hne⟩ := advances_balanced '(' ')' ts h
  cases used with
  | nil => exact absurd rfl hne
  | cons t used => exact ⟨t :: used, rfl, .inr htouching⟩

theorem takes_attribute? :
    Takes attribute? (Found fun name => Specifier.Written (.attribute name)) := by
  refine fun ts => .look_bind ?_
  split
  · next name hname =>
    split at hname
    · next hsign =>
      obtain ⟨sign, more, hsign, rfl⟩ := cons_of_startsWith hsign
      obtain ⟨word, more, hword, rfl⟩ := cons_of_word? hname
      refine .skip_bind [sign, word] rfl ?_
      exact (takes_arguments more).bind fun _ used _ _ hused =>
        .pure (.some (by simpa using .signed hsign hword hused))
    · cases hname
  · exact .pure .none

theorem takes_specifier? : Takes specifier? (Found Specifier.Written) := by
  refine fun ts => (takes_attribute? ts).bind fun found used rest _ hfound => ?_
  cases hfound with
  | some written => exact .pure (.some (by simpa using written))
  | none =>
    refine .look_bind (.ite (fun htilde => ?_) fun _ => .look_bind ?_)
    · obtain ⟨sign, more, hsign, rfl⟩ := cons_of_startsWith (Bool.and_eq_true_iff.1 htilde).1
      exact .skip_bind [sign] rfl (.pure (.some (.suppression hsign)))
    · split
      · next text htext =>
        obtain ⟨word, more, hword, rfl⟩ := cons_of_word? htext
        refine .look_bind (.ite (fun hguard => ?_) fun _ => .pure .none)
        have hspecifying := List.contains_iff_mem.1 (Bool.and_eq_true_iff.1 hguard).1
        exact .skip_bind [word] rfl (.pure (.some (.word hword hspecifying)))
      · exact .pure .none

/-- The words that name an effect. -/
theorem Effect.ofWord?_eq_some {word : String} {effect : Effect}
    (h : Effect.ofWord? word = some effect) :
    (effect = .async ∧ word = "async") ∨
      (effect = .throws ∧ (word = "throws" ∨ word = "rethrows")) := by
  unfold Effect.ofWord? at h
  split at h
  · next hasync =>
    cases h
    exact .inl ⟨rfl, hasync⟩
  · split at h
    · next hthrows =>
      cases h
      exact .inr ⟨rfl, by simpa using hthrows⟩
    · cases h

theorem takes_effect? : Takes effect? (Found Effect.Written) := by
  refine fun ts => .look_bind ?_
  -- an effect is a word, so there is a token that is taken
  have hcons : ∀ {effect}, (word? ts).bind Effect.ofWord? = some effect → ∃ name, ∃ t : Placed,
      ∃ more, t.name? = some name ∧ Effect.ofWord? name = some effect ∧ ts = t :: more := by
    intro effect h
    obtain ⟨name, hname, heffect⟩ := Option.bind_eq_some_iff.1 h
    obtain ⟨t, more, ht, rfl⟩ := cons_of_word? hname
    exact ⟨name, t, more, ht, heffect, rfl⟩
  split
  · next heffect =>
    obtain ⟨name, t, more, ht, hname, rfl⟩ := hcons heffect
    obtain ⟨-, rfl⟩ | ⟨hthrows, -⟩ := Effect.ofWord?_eq_some hname
    · exact .skip_bind [t] rfl (.pure (.some (.async ht)))
    · cases hthrows
  · next heffect =>
    obtain ⟨name, t, more, ht, hname, rfl⟩ := hcons heffect
    obtain ⟨hasync, -⟩ | ⟨-, hname⟩ := Effect.ofWord?_eq_some hname
    · cases hasync
    · refine .skip_bind [t] rfl ?_
      exact (takes_arguments more).bind fun _ used _ _ hused =>
        .pure (.some (by simpa using .throws ht hname hused))
  · exact .pure .none

theorem takes_effects : Takes effects fun answer used =>
    ∃ found, Chained Effect.Written found used ∧
      answer = ⟨found.contains .async, found.contains .throws⟩ := fun ts =>
  (takes_many takes_effect? ts).bind fun found _ _ _ hfound => .pure ⟨found, by simpa, rfl⟩

theorem label?_eq_ok {label : Option Label} (h : label? ts = .ok (label, rest)) :
    ∃ used, ts = used ++ rest ∧ Labelled label used rest := by
  simp only [label?] at h
  split at h
  · next found after hfound =>
    cases h
    unfold labelAt at hfound
    split at hfound
    · next t u more =>
      split at hfound
      · cases hfound
      · next first hfirst =>
        split at hfound
        · next hcolon =>
          cases hfound
          exact ⟨[t, u], rfl, .one hfirst hcolon⟩
        · split at hfound
          · next second v more hsecond =>
            split at hfound
            · next hcolon =>
              cases hfound
              exact ⟨[t, u, v], rfl, .two hfirst hsecond hcolon⟩
            · cases hfound
          · cases hfound
    · cases hfound
  · next hnone =>
    cases h
    exact ⟨[], rfl, .unlabelled hnone⟩

/-- What is passed over as a default value begins with its sign. -/
theorem defaultEnd_begins {start : Option Nat} (hsign : startsWith '=' ts)
    (h : defaultEnd start 0 ts = .ok rest) :
    ∃ used, ts = used ++ rest ∧ (used = [] ∨ startsWith '=' used) := by
  obtain ⟨used, rfl⟩ := defaultEnd_suffix h
  refine ⟨used, rfl, ?_⟩
  cases used with
  | nil => exact .inl rfl
  | cons t used => exact .inr hsign

theorem takes_trailer : Takes trailer fun _ used => IsTrailer used := by
  intro ts _ rest h
  simp only [trailer] at h
  split at h
  · next hdots =>
    simp only [Bool.and_eq_true] at hdots
    obtain ⟨⟨hfirst, hsecond⟩, hthird⟩ := hdots
    obtain ⟨dot, more, hfirst, rfl⟩ := cons_of_startsWith hfirst
    obtain ⟨dot', more, hsecond, rfl⟩ := cons_of_startsWith hsecond
    obtain ⟨dot'', more, hthird, rfl⟩ := cons_of_startsWith hthird
    split at h
    · next hsign =>
      split at h <;> cases h
      next hend =>
      obtain ⟨used, hmore, hbegins⟩ := defaultEnd_begins hsign hend
      obtain rfl : more = used ++ rest := hmore
      exact ⟨dot :: dot' :: dot'' :: used, rfl, .variadic hfirst hsecond hthird hbegins⟩
    · cases h
      exact ⟨[dot, dot', dot''], rfl, .variadic hfirst hsecond hthird (.inl rfl)⟩
  · split at h
    · next hsign =>
      split at h <;> cases h
      next hend =>
      obtain ⟨used, rfl, hbegins⟩ := defaultEnd_begins hsign hend
      exact ⟨used, rfl, .value hbegins⟩
    · cases h
      exact ⟨[], rfl, .value (.inl rfl)⟩

/-! ## Types -/

/-- What the parser takes is a phrase of what it answers with. -/
def Derives {α : Type} (p : TokenParser α) (part : α → Part) : Prop :=
  ∀ ⦃ts a rest⦄, p ts = .ok (a, rest) → ∃ used, ts = used ++ rest ∧ Phrase (part a) used rest

/-- The readers of types at bound `n` derive phrases. -/
structure TypeReadersDerive (n : Nat) : Prop where
  typeExpr : Derives (typeExpr n) .whole
  composition : Derives (composition n) .composed
  conjuncts : Derives (conjuncts n) .conjuncts
  suffixed : Derives (suffixed n) .suffixed
  suffixes : ∀ {position base before ts t rest}, Phrase (.chain base) before ts →
    StartsAt before position → suffixes n position base ts = .ok (t, rest) →
    ∃ used, ts = used ++ rest ∧ Phrase (.suffixed t) (before ++ used) rest
  primary : Derives (primary n) .chain
  parenthesized : ∀ {paren ts t rest}, paren.is '(' →
    parenthesized n paren.start ts = .ok (t, rest) →
    ∃ used, ts = used ++ rest ∧ Phrase (.chain t) (paren :: used) rest
  bracketed : ∀ {bracket ts t rest}, bracket.is '[' →
    bracketed n bracket.start ts = .ok (t, rest) →
    ∃ used, ts = used ++ rest ∧ Phrase (.chain t) (bracket :: used) rest
  genericArguments : Derives (genericArguments n) .arguments
  types : Derives (types n) .types
  elements : Derives (elements n) .elements

namespace TypeReadersDerive

variable {n : Nat} (h : TypeReadersDerive n)
include h

theorem succ_typeExpr : Derives (TokenParser.typeExpr (n + 1)) .whole := by
  intro ts t rest hp
  obtain ⟨position, mid, hposition, hp₁⟩ := bind_eq_ok.1 hp
  cases hposition
  obtain ⟨specifiers, mid, hspecifiers, hp₂⟩ := bind_eq_ok.1 hp₁
  obtain ⟨before, rfl, specified⟩ := takes_many takes_specifier? _ hspecifiers
  obtain ⟨base, mid, hbase, hp₃⟩ := bind_eq_ok.1 hp₂
  obtain ⟨used, rfl, base⟩ := h.composition hbase
  cases hp₃
  refine ⟨before ++ used, by simp, ?_⟩
  cases specifiers with
  | nil =>
    cases specified
    exact .plain base
  | cons specifier specifiers =>
    have hne := specified.ne_nil (List.cons_ne_nil _ _) fun _ _ written => by cases written <;> simp
    exact .attributed specified (List.cons_ne_nil _ _) (startsAt_of_ne_nil hne _) base

theorem succ_composition : Derives (TokenParser.composition (n + 1)) .composed := by
  intro ts t rest hp
  obtain ⟨position, mid, hposition, hp₁⟩ := bind_eq_ok.1 hp
  cases hposition
  obtain ⟨first, mid, hfirst, hp₂⟩ := bind_eq_ok.1 hp₁
  obtain ⟨used, rfl, first⟩ := h.suffixed hfirst
  obtain ⟨others, mid, hothers, hp₃⟩ := bind_eq_ok.1 hp₂
  obtain ⟨more, rfl, following⟩ := h.conjuncts hothers
  have starts := startsAt_of_ne_nil (first.startsAt rfl).ne_nil (more ++ mid)
  cases others with
  | nil =>
    cases hp₃
    cases following with
    | noConjunct alone => exact ⟨used, rfl, .single first alone⟩
  | cons other others =>
    cases hp₃
    exact ⟨used ++ more, by simp, .composition starts first (List.cons_ne_nil _ _) following⟩

theorem succ_conjuncts : Derives (TokenParser.conjuncts (n + 1)) .conjuncts := by
  intro ts others rest hp
  obtain ⟨joined, mid, hsign, hp₁⟩ := bind_eq_ok.1 hp
  obtain ⟨rfl, sign, marked, rfl⟩ | ⟨rfl, alone, rfl⟩ := eats_eq_ok hsign
  · obtain ⟨part, mid, hpart, hp₂⟩ := bind_eq_ok.1 hp₁
    obtain ⟨used, rfl, part⟩ := h.suffixed hpart
    obtain ⟨others, mid, hothers, hp₃⟩ := bind_eq_ok.1 hp₂
    obtain ⟨more, rfl, following⟩ := h.conjuncts hothers
    cases hp₃
    exact ⟨sign :: (used ++ more), by simp, .conjunct marked part following⟩
  · cases hp₁
    exact ⟨[], rfl, .noConjunct alone⟩

theorem succ_suffixed : Derives (TokenParser.suffixed (n + 1)) .suffixed := by
  intro ts t rest hp
  obtain ⟨position, mid, hposition, hp₁⟩ := bind_eq_ok.1 hp
  cases hposition
  obtain ⟨base, mid, hbase, hp₂⟩ := bind_eq_ok.1 hp₁
  obtain ⟨before, rfl, base⟩ := h.primary hbase
  have starts := startsAt_of_ne_nil (base.startsAt rfl).ne_nil mid
  obtain ⟨used, rfl, type⟩ := h.suffixes base starts hp₂
  exact ⟨before ++ used, by simp, type⟩

/-- One suffix more, or the end of them. -/
theorem succ_suffixes {position : Nat} {base t : TypeExpr} {before ts rest : List Placed}
    (phrase : Phrase (.chain base) before ts) (starts : StartsAt before position)
    (hp : TokenParser.suffixes (n + 1) position base ts = .ok (t, rest)) :
    ∃ used, ts = used ++ rest ∧ Phrase (.suffixed t) (before ++ used) rest := by
  obtain ⟨mark, mid, hmark, hp₁⟩ := bind_eq_ok.1 hp
  obtain ⟨mark, sign, rfl, touching, rfl, marked⟩ | ⟨rfl, question, exclamation, rfl⟩ :=
    optionalMark?_eq_ok hmark
  · obtain ⟨used, rfl, type⟩ :=
      h.suffixes (.optional starts phrase marked touching) (starts.append _) hp₁
    exact ⟨sign :: used, rfl, by simpa using type⟩
  · obtain ⟨name, mid, hname, hp₂⟩ := bind_eq_ok.1 hp₁
    obtain ⟨name, dot, word, rfl, marked, named, rfl⟩ | ⟨rfl, member, rfl⟩ :=
      memberName?_eq_ok hname
    · obtain ⟨arguments, mid, harguments, hp₃⟩ := bind_eq_ok.1 hp₂
      obtain ⟨more, rfl, arguments⟩ := h.genericArguments harguments
      obtain ⟨used, rfl, type⟩ :=
        h.suffixes (.member starts phrase marked named arguments) (starts.append _) hp₃
      exact ⟨dot :: word :: (more ++ used), by simp, by simpa using type⟩
    · cases hp₂
      exact ⟨[], rfl, by simpa using .suffixed phrase ⟨question, exclamation, member⟩⟩

theorem succ_primary : Derives (TokenParser.primary (n + 1)) .chain := by
  intro ts t rest hp
  obtain ⟨position, mid, hposition, hp₁⟩ := bind_eq_ok.1 hp
  cases hposition
  obtain ⟨name, mid, hname, hp₂⟩ := bind_eq_ok.1 hp₁
  obtain ⟨name, word, rfl, named, rfl⟩ | ⟨rfl, rfl⟩ := name?_eq_ok hname
  · obtain ⟨arguments, mid, harguments, hp₃⟩ := bind_eq_ok.1 hp₂
    obtain ⟨used, rfl, arguments⟩ := h.genericArguments harguments
    cases hp₃
    exact ⟨word :: used, rfl, .named named arguments⟩
  · obtain ⟨opened, mid, hparen, hp₃⟩ := bind_eq_ok.1 hp₂
    obtain ⟨rfl, paren, marked, rfl⟩ | ⟨rfl, -, rfl⟩ := eats_eq_ok hparen
    · obtain ⟨used, rfl, type⟩ := h.parenthesized marked hp₃
      exact ⟨paren :: used, rfl, type⟩
    · obtain ⟨opened, mid, hbracket, hp₄⟩ := bind_eq_ok.1 hp₃
      obtain ⟨rfl, bracket, marked, rfl⟩ | ⟨rfl, -, rfl⟩ := eats_eq_ok hbracket
      · obtain ⟨used, rfl, type⟩ := h.bracketed marked hp₄
        exact ⟨bracket :: used, rfl, type⟩
      · cases hp₄

theorem succ_parenthesized {paren : Placed} {t : TypeExpr} (marked : paren.is '(')
    (hp : TokenParser.parenthesized (n + 1) paren.start ts = .ok (t, rest)) :
    ∃ used, ts = used ++ rest ∧ Phrase (.chain t) (paren :: used) rest := by
  obtain ⟨es, mid, helements, hp₁⟩ := bind_eq_ok.1 hp
  obtain ⟨used, rfl, elements⟩ := h.elements helements
  obtain ⟨goesOn, mid, hlook, hp₂⟩ := bind_eq_ok.1 hp₁
  cases hlook
  split at hp₂
  · obtain ⟨answer, mid, heffects, hp₃⟩ := bind_eq_ok.1 hp₂
    obtain ⟨words, rfl, found, effects, rfl⟩ := takes_effects _ heffects
    obtain ⟨pointed, mid, harrow, hp₄⟩ := bind_eq_ok.1 hp₃
    cases pointed with
    | true =>
      obtain ⟨arrow, pointed, rfl⟩ := arrow_eq_ok harrow
      obtain ⟨result, mid, hresult, hp₅⟩ := bind_eq_ok.1 hp₄
      obtain ⟨more, rfl, result⟩ := h.typeExpr hresult
      cases hp₅
      exact ⟨used ++ (words ++ arrow :: more), by simp,
        .function marked elements effects pointed result⟩
    | false => cases hp₄
  · next alone =>
    cases hp₂
    exact ⟨used, rfl, .tuple marked elements alone⟩

theorem succ_bracketed {bracket : Placed} {t : TypeExpr} (marked : bracket.is '[')
    (hp : TokenParser.bracketed (n + 1) bracket.start ts = .ok (t, rest)) :
    ∃ used, ts = used ++ rest ∧ Phrase (.chain t) (bracket :: used) rest := by
  obtain ⟨first, mid, hfirst, hp₁⟩ := bind_eq_ok.1 hp
  obtain ⟨used, rfl, first⟩ := h.typeExpr hfirst
  obtain ⟨value, mid, hoptional, hp₂⟩ := bind_eq_ok.1 hp₁
  obtain ⟨parted, after, hcolon, hvalue⟩ := bind_eq_ok.1 hoptional
  obtain ⟨offset, last, hclose, hp₃⟩ := bind_eq_ok.1 hp₂
  obtain ⟨close, closed, rfl⟩ := expect_eq_ok hclose
  obtain ⟨rfl, colon, parted, rfl⟩ | ⟨rfl, -, rfl⟩ := eats_eq_ok hcolon
  · obtain ⟨value, mid, htype, hmap⟩ :=
      (bind_eq_ok (p := TokenParser.typeExpr n) (f := fun t => pure (some t))).1 hvalue
    obtain ⟨more, rfl, type⟩ := h.typeExpr htype
    cases hmap
    cases hp₃
    exact ⟨used ++ colon :: (more ++ [close]), by simp, .dictionary marked first parted type closed⟩
  · cases hvalue
    cases hp₃
    exact ⟨used ++ [close], by simp, .array marked first closed⟩

theorem succ_genericArguments : Derives (TokenParser.genericArguments (n + 1)) .arguments := by
  intro ts arguments rest hp
  obtain ⟨opened, mid, hlook, hp₁⟩ := bind_eq_ok.1 hp
  cases hlook
  split at hp₁
  · next hopened =>
    obtain ⟨bracket, more, marked, touching, rfl⟩ := cons_of_startsTouching hopened
    obtain ⟨_, mid, hskip, hp₂⟩ := bind_eq_ok.1 hp₁
    cases hskip
    obtain ⟨arguments, mid, htypes, hp₃⟩ := bind_eq_ok.1 hp₂
    obtain ⟨used, hused, types⟩ := h.types htypes
    obtain ⟨offset, last, hclose, hp₄⟩ := bind_eq_ok.1 hp₃
    obtain ⟨close, closed, rfl⟩ := expect_eq_ok hclose
    cases hp₄
    obtain rfl : more = used ++ close :: rest := hused
    exact ⟨bracket :: (used ++ [close]), by simp, .arguments marked touching types closed⟩
  · next alone =>
    cases hp₁
    exact ⟨[], rfl, .noArguments alone⟩

theorem succ_types : Derives (TokenParser.types (n + 1)) .types := by
  intro ts types rest hp
  obtain ⟨first, mid, hfirst, hp₁⟩ := bind_eq_ok.1 hp
  obtain ⟨used, rfl, type⟩ := h.typeExpr hfirst
  obtain ⟨goesOn, mid, hcomma, hp₂⟩ := bind_eq_ok.1 hp₁
  obtain ⟨rfl, comma, parted, rfl⟩ | ⟨rfl, alone, rfl⟩ := eats_eq_ok hcomma
  · obtain ⟨others, mid, hothers, hp₃⟩ := bind_eq_ok.1 hp₂
    obtain ⟨more, rfl, following⟩ := h.types hothers
    cases hp₃
    exact ⟨used ++ comma :: more, by simp, .nextType type parted following⟩
  · cases hp₂
    exact ⟨used, rfl, .lastType type alone⟩

theorem succ_elements : Derives (TokenParser.elements (n + 1)) .elements := by
  intro ts es rest hp
  obtain ⟨finished, mid, hclose, hp₁⟩ := bind_eq_ok.1 hp
  obtain ⟨rfl, close, closed, rfl⟩ | ⟨rfl, -, rfl⟩ := eats_eq_ok hclose
  · cases hp₁
    exact ⟨[close], rfl, .closed closed⟩
  obtain ⟨label, mid, hlabel, hp₂⟩ := bind_eq_ok.1 hp₁
  obtain ⟨names, rfl, labelled⟩ := label?_eq_ok hlabel
  obtain ⟨type, mid, htype, hp₃⟩ := bind_eq_ok.1 hp₂
  obtain ⟨used, rfl, type⟩ := h.typeExpr htype
  obtain ⟨_, mid, htrailer, hp₄⟩ := bind_eq_ok.1 hp₃
  obtain ⟨trailer, rfl, trailed⟩ := takes_trailer _ htrailer
  obtain ⟨goesOn, mid, hcomma, hp₅⟩ := bind_eq_ok.1 hp₄
  obtain ⟨rfl, comma, parted, rfl⟩ | ⟨rfl, -, rfl⟩ := eats_eq_ok hcomma
  · obtain ⟨others, mid, hothers, hp₆⟩ := bind_eq_ok.1 hp₅
    obtain ⟨more, rfl, following⟩ := h.elements hothers
    cases hp₆
    exact ⟨names ++ (used ++ (trailer ++ comma :: more)), by simp,
      .nextElement labelled type trailed parted following⟩
  · obtain ⟨finished, mid, hclose, hp₆⟩ := bind_eq_ok.1 hp₅
    obtain ⟨rfl, close, closed, rfl⟩ | ⟨rfl, -, rfl⟩ := eats_eq_ok hclose
    · cases hp₆
      exact ⟨names ++ (used ++ (trailer ++ [close])), by simp,
        .lastElement labelled type trailed closed⟩
    · cases hp₆

theorem succ : TypeReadersDerive (n + 1) where
  typeExpr := h.succ_typeExpr
  composition := h.succ_composition
  conjuncts := h.succ_conjuncts
  suffixed := h.succ_suffixed
  suffixes := h.succ_suffixes
  primary := h.succ_primary
  parenthesized := h.succ_parenthesized
  bracketed := h.succ_bracketed
  genericArguments := h.succ_genericArguments
  types := h.succ_types
  elements := h.succ_elements

end TypeReadersDerive

/-- The readers of types derive phrases, whatever their bound. -/
theorem typeReadersDerive (n : Nat) : TypeReadersDerive n := by
  induction n with
  | zero =>
    -- at bound 0 every reader fails, so there is nothing to derive
    constructor <;> intros <;> first | (intro _ _ _ hp; cases hp) | contradiction
  | succ n ih => exact ih.succ

/-- **What is read as a type is a phrase of it**, whatever follows. -/
theorem phrase_of_typeExpr {n : Nat} {t : TypeExpr} (h : typeExpr n ts = .ok (t, rest)) :
    ∃ used, ts = used ++ rest ∧ Phrase (.whole t) used rest :=
  (typeReadersDerive n).typeExpr h

end TokenParser

end SwiftTuples
