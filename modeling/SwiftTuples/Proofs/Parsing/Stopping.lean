import Mathlib.Data.List.Basic
import SwiftTuples.Proofs.Parsing.Advance
/-!
# Where a type ends

To see whether a type goes on, its readers look at the tokens after it. Most of what they can see
there tells them nothing: no type goes on with a comma, an equals sign or a brace. So what is read
of some tokens alone is read of them in front of others, which are left, unless the two have a seam
that does not hold (`Parted`): unless a type can go on with what follows, or the tokens end with one
that calls for more. For the readers that call each other this is an induction on the bound.

Types between commas and the elements of a list take commas and parentheses themselves. What is read
of those has to end before the tokens do (`ReadsInside`), as it does where a bracket closes it.
-/

namespace SwiftTuples

open TokenParser

/-- More of a type is to come after the token: it is a dot, begins a specifier or is an effect. -/
def Placed.leads (t : Placed) : Bool :=
  t.is '.' || t.is '@' || t.is '~' ||
    t.name?.any fun word => Specifier.words.contains word || (Effect.ofWord? word).isSome

/-- No type goes on with these tokens. -/
structure ClosesType (ts : List Placed) : Prop where
  touching : ∀ c ∈ ['<', '(', '?', '!'], startsTouching c ts = false
  joined : startsWith '&' ts = false
  colon : startsWith ':' ts = false
  member : (if startsWith '.' ts then word? ts.tail else none) = none
  function : startsFunction ts = false

/-- No type that ends with `ts` goes on into `after`. -/
structure Parted (ts after : List Placed) : Prop where
  closes : ClosesType after
  /-- What a last token that leads calls for is not there. -/
  finished : ∀ t ∈ ts.getLast?, t.leads →
    startsSpecified after = false ∧ startsWith '.' after = false

namespace Parted

variable {after ts : List Placed} {c : Char}

/-- An end of the tokens has the same seam. -/
theorem of_append {used : List Placed} (h : Parted (used ++ ts) after) : Parted ts after where
  closes := h.closes
  finished := by
    cases ts with
    | nil => exact fun _ hlast => by cases hlast
    | cons t ts =>
      have hfinished := h.finished
      rwa [List.getLast?_append_of_ne_nil used (List.cons_ne_nil t ts)] at hfinished

section one

variable {t : Placed} (h : Parted [t] after)
include h

/-- What one token leads to is not there. -/
theorem not_specified (ht : t.leads) : startsSpecified after = false := (h.finished t rfl ht).1

theorem not_dot (ht : t.leads) : startsWith '.' after = false := (h.finished t rfl ht).2

theorem word?_eq_none (ht : t.leads) : word? after = none := by
  have hno := h.not_specified ht
  simp only [startsSpecified, Bool.or_eq_false_iff] at hno
  simpa [startsWithWord] using hno.1.1

end one

variable (h : Parted ts after)
include h

theorem startsWith_append (hc : c = '&' ∨ c = ':') :
    startsWith c (ts ++ after) = startsWith c ts := by
  cases ts with
  | cons t ts => rfl
  | nil =>
    rcases hc with rfl | rfl
    · exact h.closes.joined
    · exact h.closes.colon

theorem startsTouching_append (hc : c ∈ ['<', '(', '?', '!']) :
    startsTouching c (ts ++ after) = startsTouching c ts := by
  cases ts with
  | cons t ts => rfl
  | nil => exact h.closes.touching c hc

/-- A mark that leads and the word after it are both there or not. -/
theorem wordAfter_append (hc : c = '.' ∨ c = '@') (hne : ts ≠ []) :
    (if startsWith c (ts ++ after) then word? (ts ++ after).tail else none) =
      if startsWith c ts then word? ts.tail else none := by
  match ts, hne with
  | _ :: _ :: _, _ => rfl
  | [t], _ =>
    by_cases ht : t.is c
    · have hleads : t.leads := by rcases hc with rfl | rfl <;> simp [Placed.leads, ht]
      change (if t.is c then word? after else none) = if t.is c then none else none
      rw [h.word?_eq_none hleads]
    · simp [startsWith, ht]

theorem member_append :
    (if startsWith '.' (ts ++ after) then word? (ts ++ after).tail else none) =
      if startsWith '.' ts then word? ts.tail else none := by
  cases ts with
  | nil => exact h.closes.member
  | cons t ts => exact h.wordAfter_append (.inl rfl) (List.cons_ne_nil t ts)

theorem suppression_append (hne : ts ≠ []) :
    (startsWith '~' (ts ++ after) && startsWithWord (ts ++ after).tail) =
      (startsWith '~' ts && startsWithWord ts.tail) := by
  match ts, hne with
  | _ :: _ :: _, _ => rfl
  | [t], _ =>
    by_cases ht : t.is '~'
    · have hleads : t.leads := by simp [Placed.leads, ht]
      change (t.is '~' && (word? after).isSome) = (t.is '~' && none.isSome)
      rw [h.word?_eq_none hleads]
    · simp [startsWith, ht]

/-- Whether a type begins after the first token is the same, if that token specifies one. -/
theorem startsSpecified_tail {word : String} (hword : word? ts = some word)
    (hmem : Specifier.words.contains word) :
    startsSpecified (ts ++ after).tail = startsSpecified ts.tail := by
  match ts, hword with
  | _ :: _ :: _, _ => rfl
  | [t], hword =>
    have hname : t.name? = some word := hword
    have hleads : t.leads := by
      simp only [Placed.leads, hname, Option.any_some, hmem, Bool.true_or, Bool.or_true]
    exact h.not_specified hleads

theorem startsFunction_append : startsFunction (ts ++ after) = startsFunction ts := by
  match ts with
  | [] => exact h.closes.function
  | _ :: _ :: _ => rfl
  | [t] =>
    by_cases heffect : (t.name?.bind Effect.ofWord?).isSome
    · have hleads : t.leads := by
        cases hname : t.name? with
        | none => simp [hname] at heffect
        | some word =>
          rw [hname, Option.bind_some] at heffect
          simp only [Placed.leads, hname, Option.any_some, heffect, Bool.or_true]
      have hnone := h.word?_eq_none hleads
      rw [List.singleton_append, startsFunction, startsFunction, hnone]
      rfl
    · simp [startsFunction, heffect]

/-- The three dots of a variadic element are all there or not. -/
theorem dots_append (hne : ts ≠ []) :
    (startsWith '.' (ts ++ after) && startsWith '.' ((ts ++ after).drop 1) &&
      startsWith '.' ((ts ++ after).drop 2)) =
      (startsWith '.' ts && startsWith '.' (ts.drop 1) && startsWith '.' (ts.drop 2)) := by
  match ts, hne with
  | _ :: _ :: _ :: _, _ => rfl
  | [t], _ =>
    by_cases ht : t.is '.'
    · have hno := h.not_dot (by simp [Placed.leads, ht])
      change (t.is '.' && startsWith '.' after && _) = (t.is '.' && false && false)
      rw [hno, Bool.and_false, Bool.false_and, Bool.false_and]
    · simp [startsWith, ht]
  | [t, u], _ =>
    by_cases hu : u.is '.'
    · have hlast : Parted [u] after := Parted.of_append (List.singleton_append ▸ h)
      have hno := hlast.not_dot (by simp [Placed.leads, hu])
      change (_ && startsWith '.' after) = (_ && false)
      rw [hno, Bool.and_false, Bool.and_false]
    · simp [startsWith, hu]

/-- A label ends in a colon, so none reaches over the end of two tokens. -/
theorem labelAt_append {t u : Placed} {more : List Placed} (hts : ts = t :: u :: more) :
    labelAt (ts ++ after) = (labelAt ts).map fun found => (found.1, found.2 ++ after) := by
  subst hts
  cases more with
  | cons w more =>
    cases ht : t.name? <;> cases hu : u.name? <;> cases huc : u.is ':' <;>
      cases hwc : w.is ':' <;> simp [labelAt, ht, hu, huc, hwc]
  | nil =>
    cases after with
    | nil => simp
    | cons v after =>
      have hcolon : v.is ':' = false := h.closes.colon
      cases ht : t.name? <;> cases hu : u.name? <;> cases huc : u.is ':' <;>
        simp [labelAt, ht, hu, huc, hcolon]

end Parted

/-! ## Marks with which no type goes on -/

/-- Characters with which a type begins or goes on. -/
def typeMarks : List Char := ['(', '[', '<', '@', '~', '?', '!', '.', '&', ':']

/-- Types end before these tokens: there are none, or the first is a mark with which no type begins
or goes on. -/
def EndsType (ts : List Placed) : Prop := ∀ t ∈ ts.head?, ∃ c, t.kind = .punct c ∧ c ∉ typeMarks

theorem EndsType.of_is {t : Placed} {c : Char} (h : t.is c) (hc : c ∉ typeMarks)
    (ts : List Placed) : EndsType (t :: ts) := by
  intro u hu
  cases hu
  exact ⟨c, Token.kind_of_is h, hc⟩

/-- Whatever ends with these tokens does not go on with such a mark. -/
theorem EndsType.parted {after : List Placed} (h : EndsType after) (ts : List Placed) :
    Parted ts after := by
  cases after with
  | nil => exact ⟨⟨fun _ _ => rfl, rfl, rfl, rfl, rfl⟩, fun _ _ _ => ⟨rfl, rfl⟩⟩
  | cons t after =>
    obtain ⟨d, hkind, hd⟩ := h t rfl
    have hno : ∀ c ∈ typeMarks, t.is c = false := by
      intro c hc
      have hne : d ≠ c := fun heq => hd (heq ▸ hc)
      simp [Token.is, hkind, hne]
    have hname : t.name? = none := by simp [Token.name?, hkind]
    have hdot : t.is '.' = false := hno '.' (by decide)
    constructor
    · constructor
      case touching =>
        intro c hc
        have hmark : c ∈ typeMarks := by
          have hall : ∀ c ∈ ['<', '(', '?', '!'], c ∈ typeMarks := by simp [typeMarks]
          exact hall c hc
        simp [startsTouching, hno c hmark]
      case joined => exact hno '&' (by decide)
      case colon => exact hno ':' (by decide)
      case member => simp [startsWith, hdot]
      case function => simp [startsFunction, hkind, hname]
    · intro _ _ _
      simp [startsSpecified, startsWithWord, word?, startsWith, hname, hno '(' (by decide),
        hno '[' (by decide), hdot]

namespace TokenParser

variable {α β : Type} {after ts : List Placed}

/-! ## Reading on -/

/-- What the parser reads of `ts` it reads of them where `after` follows, which it leaves, unless a
type goes on from the one to the other. -/
def ReadsOn (after : List Placed) (p : TokenParser α) (ts : List Placed) : Prop :=
  Parted ts after → ∀ ⦃a rest⦄, p ts = .ok (a, rest) → p (ts ++ after) = .ok (a, rest ++ after)

/-- What the parser reads of `ts`, short of their end, it reads of them where `after` follows. -/
def ReadsInside (after : List Placed) (p : TokenParser α) (ts : List Placed) : Prop :=
  Parted ts after →
    ∀ ⦃a rest⦄, p ts = .ok (a, rest) → rest ≠ [] → p (ts ++ after) = .ok (a, rest ++ after)

theorem ReadsOn.inside {p : TokenParser α} (h : ReadsOn after p ts) : ReadsInside after p ts :=
  fun parted _ _ hp _ => h parted hp

/-- A parser that has to take a token fails where there is none. -/
theorem Advances.not_ok_nil {p : TokenParser α} (h : Advances p) {x : α × List Placed} :
    p [] ≠ .ok x := by
  intro hok
  obtain ⟨used, hused, hne⟩ := h [] hok
  exact hne (List.append_eq_nil_iff.1 hused.symm).1

/-- What is left has the seam that the tokens have. -/
theorem Splits.parted {p : TokenParser α} (hp : Splits p) {a : α} {rest : List Placed}
    (h : p ts = .ok (a, rest)) (parted : Parted ts after) : Parted rest after := by
  obtain ⟨used, rfl, -⟩ := hp ts h
  exact parted.of_append

namespace ReadsOn

variable {p q : TokenParser α}

theorem pure {a : α} : ReadsOn after (pure a : TokenParser α) ts := by
  intro _ b rest hp
  cases hp
  rfl

theorem fail {cause : SyntaxCause} : ReadsOn after (fail cause : TokenParser α) ts := by
  intro _ b rest hp
  cases hp

/-- **Sequencing reads on** where its parts do. -/
theorem bind {f : α → TokenParser β} (hsplits : Splits p) (hp : ReadsOn after p ts)
    (hf : ∀ a rest, p ts = .ok (a, rest) → ReadsOn after (f a) rest) :
    ReadsOn after (p >>= f) ts := by
  intro parted b rest h
  obtain ⟨a, mid, hpa, hfb⟩ := bind_eq_ok.1 h
  exact bind_eq_ok.2 ⟨a, mid ++ after, hp parted hpa, hf a mid hpa (hsplits.parted hpa parted) hfb⟩

/-- What ends inside the tokens may be read before something that needs a token. -/
theorem bind_inside {f : α → TokenParser β} (hsplits : Splits p) (hp : ReadsInside after p ts)
    (hnil : ∀ a x, f a [] ≠ .ok x) (hf : ∀ a rest, ReadsOn after (f a) rest) :
    ReadsOn after (p >>= f) ts := by
  intro parted b rest h
  obtain ⟨a, mid, hpa, hfb⟩ := bind_eq_ok.1 h
  have hne : mid ≠ [] := by
    rintro rfl
    exact hnil a _ hfb
  exact bind_eq_ok.2
    ⟨a, mid ++ after, hp parted hpa hne, hf a mid (hsplits.parted hpa parted) hfb⟩

theorem map {g : α → β} (hsplits : Splits p) (hp : ReadsOn after p ts) :
    ReadsOn after (g <$> p) ts :=
  hp.bind hsplits fun _ _ _ => .pure

theorem ite {c : Prop} [Decidable c] (hp : c → ReadsOn after p ts)
    (hq : ¬ c → ReadsOn after q ts) : ReadsOn after (if c then p else q) ts := by
  split
  · next h => exact hp h
  · next h => exact hq h

/-- What is seen of the tokens alone is seen where others follow. -/
theorem look_bind {f : List Placed → β} {g : β → TokenParser α}
    (hf : Parted ts after → f (ts ++ after) = f ts) (hg : ReadsOn after (g (f ts)) ts) :
    ReadsOn after (look f >>= g) ts := by
  intro parted a rest h
  change g (f (ts ++ after)) (ts ++ after) = _
  rw [hf parted]
  exact hg parted h

theorem skip {n : Nat} (hn : n ≤ ts.length) : ReadsOn after (skip n) ts := by
  intro _ u rest h
  cases h
  rw [TokenParser.skip, List.drop_append_of_le_length hn]

theorem optionally {mark : TokenParser Bool} (hsplits : Splits mark) (hread : Splits p)
    (hmark : ReadsOn after mark ts) (hp : ∀ rest, ReadsOn after p rest) :
    ReadsOn after (optionally mark p) ts :=
  hmark.bind hsplits fun _ rest _ => .ite (fun _ => (hp rest).map hread) fun _ => .pure

/-- Where there is no token a parser may fail, and then there is nothing to read on. -/
theorem of_cons (hnil : ∀ x, p [] ≠ .ok x) (h : ∀ t more, ReadsOn after p (t :: more)) :
    ReadsOn after p ts := by
  cases ts with
  | cons t more => exact h t more
  | nil => exact fun _ _ _ hok => absurd hok (hnil _)

theorem of_advances (hp : Advances p) (h : ∀ t more, ReadsOn after p (t :: more)) :
    ReadsOn after p ts :=
  of_cons (fun _ => hp.not_ok_nil) h

/-- The offset at hand is that of a token of `ts`, if there is one. -/
theorem position_bind {r : Nat → TokenParser α} {t : Placed} {more : List Placed}
    (hr : ∀ position, ReadsOn after (r position) (t :: more)) :
    ReadsOn after (position >>= r) (t :: more) :=
  look_bind (fun _ => rfl) (hr _)

end ReadsOn

namespace ReadsInside

variable {p : TokenParser α}

/-- Where there is no token nothing is left, either. -/
theorem of_cons (hsplits : Splits p) (h : ∀ t more, ReadsInside after p (t :: more)) :
    ReadsInside after p ts := by
  cases ts with
  | cons t more => exact h t more
  | nil =>
    intro _ a rest hok hne
    obtain ⟨used, hused, -⟩ := hsplits [] hok
    exact absurd (List.append_eq_nil_iff.1 hused.symm).2 hne

/-- Sequencing reads inside where its parts do. -/
theorem bind {f : α → TokenParser β} (hsplits : Splits p) (hread : ∀ a, Splits (f a))
    (hp : ReadsInside after p ts)
    (hf : ∀ a rest, p ts = .ok (a, rest) → ReadsInside after (f a) rest) :
    ReadsInside after (p >>= f) ts := by
  intro parted b rest h hne
  obtain ⟨a, mid, hpa, hfb⟩ := bind_eq_ok.1 h
  have hmid : mid ≠ [] := by
    rintro rfl
    obtain ⟨used, hused, -⟩ := hread a [] hfb
    exact hne (List.append_eq_nil_iff.1 hused.symm).2
  exact bind_eq_ok.2
    ⟨a, mid ++ after, hp parted hpa hmid, hf a mid hpa (hsplits.parted hpa parted) hfb hne⟩

theorem collect {step : TokenParser (Option α)} (hsplits : Splits step)
    (h : ∀ ts, ReadsInside after step ts) (n : Nat) (ts : List Placed) :
    ReadsInside after (collect step n) ts := by
  induction n generalizing ts with
  | zero => exact ReadsOn.pure.inside
  | succ n ih =>
    refine (h ts).bind hsplits ?_ fun found rest _ => ?_
    · rintro (_ | a) ts
      · exact .pure trivial
      · exact (splits_collect hsplits n ts).bind fun _ _ _ _ _ => .pure trivial
    · cases found with
      | none => exact ReadsOn.pure.inside
      | some a =>
        exact (ih rest).bind (splits_collect hsplits n) (fun _ _ => .pure trivial)
          fun _ _ _ => ReadsOn.pure.inside

end ReadsInside

/-- Looking for more things than there are tokens finds no more of them. -/
theorem collect_eq {step : TokenParser (Option α)} (h : AdvancesIfFound step)
    (hnil : step [] = .ok (none, [])) {m n : Nat} (hm : ts.length ≤ m) (hn : ts.length ≤ n) :
    collect step n ts = collect step m ts := by
  induction m generalizing n ts with
  | zero =>
    obtain rfl : ts = [] := List.length_eq_zero_iff.1 (Nat.le_zero.1 hm)
    cases n with
    | zero => rfl
    | succ n => exact bind_of_eq_ok hnil
  | succ m ih =>
    cases n with
    | zero =>
      obtain rfl : ts = [] := List.length_eq_zero_iff.1 (Nat.le_zero.1 hn)
      symm
      exact bind_of_eq_ok hnil
    | succ n =>
      refine bind_congr rfl fun found rest hstep => ?_
      cases found with
      | none => rfl
      | some a =>
        have hlt := h.length_lt hstep
        exact bind_congr (ih (by omega) (by omega)) fun _ _ _ => rfl

theorem ReadsInside.many {step : TokenParser (Option α)} (hstep : AdvancesIfFound step)
    (hnil : step [] = .ok (none, [])) (h : ∀ ts, ReadsInside after step ts) :
    ReadsInside after (many step) ts := by
  intro parted found rest hmany hne
  have hlen : ts.length ≤ (ts ++ after).length := by simp
  rw [TokenParser.many, collect_eq hstep hnil hlen (Nat.le_refl _)] at hmany
  exact ReadsInside.collect hstep.splits h _ ts parted hmany hne

/-! ## Single tokens -/

/-- A token at hand is looked at, whatever follows it. -/
theorem readsOn_eats_cons (c : Char) (t : Placed) (more : List Placed) :
    ReadsOn after (eats c) (t :: more) := by
  refine ReadsOn.map (takes_eat c).splits fun _ found rest h => ?_
  simp only [eat, List.cons_append] at h ⊢
  split at h <;> cases h
  · next ht => rw [if_pos ht]
  · next ht => rw [if_neg ht, List.cons_append]

theorem readsOn_name?_cons (t : Placed) (more : List Placed) :
    ReadsOn after name? (t :: more) := by
  intro _ found rest hok
  simp only [name?, List.cons_append] at hok ⊢
  cases hname : t.name? <;> rw [hname] at hok <;> cases hok <;> rfl

theorem readsOn_arrow_cons (t : Placed) (more : List Placed) :
    ReadsOn after arrow (t :: more) := by
  intro _ found rest hok
  simp only [arrow, List.cons_append] at hok ⊢
  split at hok <;> cases hok <;> next hkind => simp [hkind]

/-- A mark that a type can go on with is taken or left. -/
theorem readsOn_eats {c : Char} (hc : c = '&' ∨ c = ':') : ReadsOn after (eats c) ts := by
  cases ts with
  | cons t more => exact readsOn_eats_cons c t more
  | nil =>
    intro parted found rest hok
    cases hok
    have hno : startsWith c after = false := parted.startsWith_append hc
    cases after with
    | nil => rfl
    | cons t more => exact eats_of_not hno

theorem readsOn_expect (c : Char) : ReadsOn after (expect c) ts := by
  intro _ position rest h
  obtain ⟨used, rfl, t, ht, rfl, rfl⟩ := takes_expect c ts h
  exact expect_of_is ht

/-- Where the mark at hand is another one nothing is taken. -/
theorem eats_eq_false {c : Char} {t : Placed} {more rest : List Placed}
    (h : eats c (t :: more) = .ok (false, rest)) : rest = t :: more := by
  by_cases ht : t.is c
  · rw [eats_of_is ht] at h
    cases h
  · rw [eats_of_not (by simpa using ht)] at h
    cases h
    rfl

theorem closeFrom_append {opening closing : Char} {start start' : Option Nat} {depth braces : Nat}
    {rest : List Placed} (h : closeFrom opening closing start depth braces ts = .ok rest) :
    closeFrom opening closing start' depth braces (ts ++ after) = .ok (rest ++ after) := by
  fun_induction closeFrom opening closing start depth braces ts with
  | case1 | case2 => cases h
  | case3 _ _ _ _ hbrace _ hopen ih =>
    simpa only [List.cons_append, closeFrom, if_neg hbrace, if_pos hopen] using ih h
  | case4 _ _ _ _ hbrace hopen hclose hdepth =>
    cases h
    simp only [List.cons_append, closeFrom, if_neg hbrace, if_neg hopen, if_pos hclose,
      if_pos hdepth]
  | case5 _ _ _ _ hbrace _ hopen hclose hdepth ih =>
    simpa only [List.cons_append, closeFrom, if_neg hbrace, if_neg hopen, if_pos hclose,
      if_neg hdepth] using ih h
  | case6 _ _ _ _ hbrace _ hopen hclose ih =>
    simpa only [List.cons_append, closeFrom, if_neg hbrace, if_neg hopen, if_neg hclose]
      using ih h

theorem readsOn_balanced (opening closing : Char) :
    ReadsOn after (balanced opening closing) ts := by
  intro _ u rest h
  simp only [balanced] at h ⊢
  split at h
  · next hclose =>
    cases h
    rw [closeFrom_append hclose]
  · cases h

theorem defaultEnd_append {start start' : Option Nat} {pending : Nat} {rest : List Placed}
    (h : defaultEnd start pending ts = .ok rest) :
    defaultEnd start' pending (ts ++ after) = .ok (rest ++ after) := by
  fun_induction defaultEnd start pending ts with
  | case1 | case5 => cases h
  | case2 _ _ _ hopens ih =>
    simpa only [List.cons_append, defaultEnd, if_pos hopens] using ih h
  | case3 _ _ _ hopens hcloses ih =>
    simpa only [List.cons_append, defaultEnd, if_neg hopens, if_pos hcloses] using ih h
  | case4 _ _ _ hopens hcloses hend =>
    cases h
    simp only [List.cons_append, defaultEnd, if_neg hopens, if_neg hcloses, if_pos hend]
  | case6 _ _ _ hopens hcloses hend hclose ih =>
    simpa only [List.cons_append, defaultEnd, if_neg hopens, if_neg hcloses, if_neg hend,
      if_neg hclose] using ih h

/-- A mark and a word are two tokens. -/
theorem length_of_wordAfter {c : Char} {name : String}
    (hname : (if startsWith c ts then word? ts.tail else none) = some name) : 2 ≤ ts.length := by
  match ts with
  | [] => cases hname
  | [t] => split at hname <;> cases hname
  | t :: u :: more => simp

theorem readsOn_arguments : ReadsOn after arguments ts :=
  .look_bind (fun parted => parted.startsTouching_append (by decide))
    (.ite (fun _ => readsOn_balanced '(' ')') fun _ => .pure)

/-! ## Parts of types -/

theorem readsOn_attribute?_cons (t : Placed) (more : List Placed) :
    ReadsOn after attribute? (t :: more) := by
  refine .look_bind (fun parted => parted.wordAfter_append (.inr rfl) (List.cons_ne_nil t more)) ?_
  split
  · next name hname =>
    refine (ReadsOn.skip (length_of_wordAfter hname)).bind (splits_skip 2) fun _ rest _ => ?_
    exact readsOn_arguments.bind splits_arguments fun _ _ _ => .pure
  · exact .pure

/-- A label is taken or left where there are two tokens to look at. -/
theorem readsOn_label? (t u : Placed) (more : List Placed) :
    ReadsOn after label? (t :: u :: more) := by
  intro parted found rest hok
  simp only [label?] at hok ⊢
  rw [parted.labelAt_append rfl]
  cases hlabel : labelAt (t :: u :: more) <;> rw [hlabel] at hok <;> cases hok <;> rfl

/-- A word is a specifier in front of what it specifies, which is there or not. -/
theorem readsOn_specifierWord {word : String} (hword : word? ts = some word) :
    ReadsOn after (do
      if Specifier.words.contains word && (← look fun ts => startsSpecified ts.tail) then
        skip 1
        return some (Specifier.word word)
      else return none) ts := by
  have hlen : 1 ≤ ts.length := List.length_pos_iff.2 (ne_nil_of_word? hword)
  cases hmem : Specifier.words.contains word with
  | true =>
    refine .look_bind (fun parted => parted.startsSpecified_tail hword hmem) ?_
    exact .ite (fun _ => (ReadsOn.skip hlen).bind (splits_skip 1) fun _ _ _ => .pure) fun _ => .pure
  | false =>
    intro _ found rest hok
    cases hok
    rfl

theorem readsInside_specifier? : ReadsInside after specifier? ts := by
  refine .of_cons advancesIfFound_specifier?.splits fun t more parted a rest hok hne => ?_
  obtain ⟨name, mid, hname, hok⟩ := bind_eq_ok.1 hok
  refine bind_eq_ok.2 ⟨name, mid ++ after, readsOn_attribute?_cons t more parted hname, ?_⟩
  have hparted := advancesIfFound_attribute?.splits.parted hname parted
  cases name with
  | some name => exact ReadsOn.pure hparted hok
  | none =>
    have hmid : mid ≠ [] := by
      rintro rfl
      cases hok
      exact hne rfl
    dsimp only at hok ⊢
    -- a tilde or a word at the end would call for more
    refine ReadsOn.look_bind (fun parted => parted.suppression_append hmid) ?_ hparted hok
    refine .ite (fun _ => ?_) fun _ => ?_
    · exact (ReadsOn.skip (List.length_pos_iff.2 hmid)).bind (splits_skip 1) fun _ _ _ => .pure
    · refine .look_bind (fun _ => ?_) ?_
      · obtain ⟨u, more, rfl⟩ := List.exists_cons_of_ne_nil hmid
        rfl
      · split
        · next word hword => exact readsOn_specifierWord hword
        · exact .pure

theorem readsInside_many_specifier? : ReadsInside after (many specifier?) ts :=
  .many advancesIfFound_specifier? rfl fun _ => readsInside_specifier?

theorem readsInside_effect? : ReadsInside after effect? ts := by
  refine .of_cons advancesIfFound_effect?.splits fun t more => ReadsOn.inside ?_
  have hskip : ReadsOn after (skip 1) (t :: more) := .skip (by simp)
  refine .look_bind (fun _ => rfl) ?_
  split
  · exact hskip.bind (splits_skip 1) fun _ _ _ => .pure
  · exact hskip.bind (splits_skip 1) fun _ _ _ =>
      readsOn_arguments.bind splits_arguments fun _ _ _ => .pure
  · exact .pure

theorem readsInside_effects : ReadsInside after effects ts :=
  (ReadsInside.many advancesIfFound_effect? rfl fun _ => readsInside_effect?).bind
    (splits_many advancesIfFound_effect?.splits) (fun _ _ => .pure trivial)
    fun _ _ _ => ReadsOn.pure.inside

theorem readsOn_optionalMark? : ReadsOn after optionalMark? ts := by
  have hskip : ∀ {c : Char} {mark : OptionalMark}, startsTouching c ts →
      ReadsOn after (do skip 1; return some mark) ts := by
    intro c mark htouching
    have hlen : 1 ≤ ts.length := List.length_pos_iff.2 (ne_nil_of_startsTouching htouching)
    exact (ReadsOn.skip hlen).bind (splits_skip 1) fun _ _ _ => .pure
  refine .look_bind (fun parted => parted.startsTouching_append (by decide))
    (.ite (fun hmark => hskip hmark) fun _ => ?_)
  exact .look_bind (fun parted => parted.startsTouching_append (by decide))
    (.ite (fun hmark => hskip hmark) fun _ => .pure)

theorem readsOn_memberName? : ReadsOn after memberName? ts := by
  refine .look_bind (fun parted => parted.member_append) ?_
  split
  · next name hname =>
    exact (ReadsOn.skip (length_of_wordAfter hname)).bind (splits_skip 2) fun _ _ _ => .pure
  · exact .pure

theorem readsInside_trailer : ReadsInside after trailer ts := by
  refine .of_cons splits_trailer fun t more parted u rest hok hne => ?_
  have hdots := parted.dots_append (List.cons_ne_nil t more)
  generalize hts : t :: more = ts at hdots hok ⊢
  have hmid : (if startsWith '.' ts && startsWith '.' (ts.drop 1) && startsWith '.' (ts.drop 2)
        then (ts ++ after).drop 3 else ts ++ after) =
      (if startsWith '.' ts && startsWith '.' (ts.drop 1) && startsWith '.' (ts.drop 2)
        then ts.drop 3 else ts) ++ after := by
    split
    · next hall =>
      match ts with
      | [] | [_] | [_, _] => simp [startsWith] at hall
      | _ :: _ :: _ :: _ => rfl
    · rfl
  simp only [trailer] at hok ⊢
  rw [hdots, hmid]
  generalize (if startsWith '.' ts && startsWith '.' (ts.drop 1) && startsWith '.' (ts.drop 2)
    then ts.drop 3 else ts) = mid at hok ⊢
  cases mid with
  | nil =>
    cases hok
    exact absurd rfl hne
  | cons v more =>
    rw [show startsWith '=' (v :: more ++ after) = startsWith '=' (v :: more) from rfl]
    split at hok
    · next heq =>
      rw [if_pos heq]
      split at hok
      · next hend =>
        cases hok
        rw [defaultEnd_append hend]
      · cases hok
    · next heq =>
      cases hok
      rw [if_neg heq]

/-! ## Types -/

/-- The readers of types at bound `n` read on where types end. Lists are read inside the brackets
that close them. -/
structure TypeReadersReadOn (after : List Placed) (n : Nat) : Prop where
  typeExpr : ∀ ts, ReadsOn after (typeExpr n) ts
  composition : ∀ ts, ReadsOn after (composition n) ts
  conjuncts : ∀ ts, ReadsOn after (conjuncts n) ts
  suffixed : ∀ ts, ReadsOn after (suffixed n) ts
  suffixes : ∀ position base ts, ReadsOn after (suffixes n position base) ts
  primary : ∀ ts, ReadsOn after (primary n) ts
  parenthesized : ∀ position ts, ReadsOn after (parenthesized n position) ts
  bracketed : ∀ position ts, ReadsOn after (bracketed n position) ts
  genericArguments : ∀ ts, ReadsOn after (genericArguments n) ts
  types : ∀ ts, ReadsInside after (types n) ts
  elements : ∀ ts, ReadsOn after (elements n) ts

namespace TypeReadersReadOn

variable {n : Nat} (h : TypeReadersReadOn after n)
include h

theorem succ_typeExpr (ts : List Placed) : ReadsOn after (TokenParser.typeExpr (n + 1)) ts := by
  refine .of_advances (typeReadersAdvance (n + 1)).typeExpr fun t more => ?_
  refine .position_bind fun position => ?_
  -- specifiers end before the tokens do, since a type has to follow them
  refine .bind_inside (splits_many advancesIfFound_specifier?.splits) readsInside_many_specifier?
    (fun _ _ hok => ?_) fun specifiers rest => ?_
  · obtain ⟨base, left, hbase, -⟩ := bind_eq_ok.1 hok
    exact (typeReadersAdvance n).composition.not_ok_nil hbase
  · exact (h.composition rest).bind (typeReadersAdvance n).composition.splits fun _ _ _ => .pure

theorem succ_composition (ts : List Placed) :
    ReadsOn after (TokenParser.composition (n + 1)) ts := by
  refine .of_advances (typeReadersAdvance (n + 1)).composition fun t more => ?_
  refine .position_bind fun position => ?_
  refine (h.suffixed _).bind (typeReadersAdvance n).suffixed.splits fun first rest _ => ?_
  refine (h.conjuncts rest).bind (typeReadersAdvance n).conjuncts fun others rest _ => ?_
  cases others <;> exact .pure

theorem succ_conjuncts (ts : List Placed) : ReadsOn after (TokenParser.conjuncts (n + 1)) ts := by
  refine (readsOn_eats (.inl rfl)).bind (takes_eats '&').splits fun joined rest _ =>
    .ite (fun _ => ?_) fun _ => .pure
  refine (h.suffixed rest).bind (typeReadersAdvance n).suffixed.splits fun part rest _ => ?_
  exact (h.conjuncts rest).bind (typeReadersAdvance n).conjuncts fun _ _ _ => .pure

theorem succ_suffixed (ts : List Placed) : ReadsOn after (TokenParser.suffixed (n + 1)) ts := by
  refine .of_advances (typeReadersAdvance (n + 1)).suffixed fun t more => ?_
  refine .position_bind fun position => ?_
  exact (h.primary _).bind (typeReadersAdvance n).primary.splits fun base rest _ =>
    h.suffixes position base rest

theorem succ_suffixes (position : Nat) (base : TypeExpr) (ts : List Placed) :
    ReadsOn after (TokenParser.suffixes (n + 1) position base) ts := by
  refine readsOn_optionalMark?.bind advancesIfFound_optionalMark?.splits fun mark rest _ => ?_
  cases mark with
  | some mark => exact h.suffixes position _ rest
  | none =>
    refine readsOn_memberName?.bind advancesIfFound_memberName?.splits fun name rest _ => ?_
    cases name with
    | some name =>
      exact (h.genericArguments rest).bind (typeReadersAdvance n).genericArguments
        fun arguments rest _ => h.suffixes position _ rest
    | none => exact .pure

theorem succ_primary (ts : List Placed) : ReadsOn after (TokenParser.primary (n + 1)) ts := by
  refine .of_advances (typeReadersAdvance (n + 1)).primary fun t more => ?_
  refine .position_bind fun position => ?_
  refine (readsOn_name?_cons t more).bind takes_name?.splits fun name rest _ => ?_
  cases name with
  | some name =>
    exact (h.genericArguments rest).bind (typeReadersAdvance n).genericArguments fun _ _ _ => .pure
  | none =>
    refine .of_cons (fun _ hok => by cases hok) fun t more => ?_
    refine (readsOn_eats_cons '(' t more).bind (takes_eats '(').splits fun paren rest _ =>
      .ite (fun _ => h.parenthesized position rest) fun _ => ?_
    refine .of_cons (fun _ hok => by cases hok) fun t more => ?_
    exact (readsOn_eats_cons '[' t more).bind (takes_eats '[').splits fun bracket rest _ =>
      .ite (fun _ => h.bracketed position rest) fun _ => .fail

theorem succ_parenthesized (position : Nat) (ts : List Placed) :
    ReadsOn after (TokenParser.parenthesized (n + 1) position) ts := by
  refine (h.elements ts).bind (typeReadersAdvance n).elements fun elements rest _ => ?_
  refine .look_bind (fun parted => parted.startsFunction_append) (.ite (fun _ => ?_) fun _ => .pure)
  refine .bind_inside splits_effects readsInside_effects (fun _ _ hok => by cases hok)
    fun effects rest => ?_
  refine .of_cons (fun _ hok => by cases hok) fun t more => ?_
  refine (readsOn_arrow_cons t more).bind splits_arrow fun hasArrow rest _ =>
    .ite (fun _ => ?_) fun _ => .fail
  exact (h.typeExpr rest).bind (typeReadersAdvance n).typeExpr.splits fun _ _ _ => .pure

theorem succ_bracketed (position : Nat) (ts : List Placed) :
    ReadsOn after (TokenParser.bracketed (n + 1) position) ts := by
  refine (h.typeExpr ts).bind (typeReadersAdvance n).typeExpr.splits fun first rest _ => ?_
  have hvalue : ReadsOn after (TokenParser.optionally (eats ':') (TokenParser.typeExpr n)) rest :=
    .optionally (takes_eats ':').splits (typeReadersAdvance n).typeExpr.splits
      (readsOn_eats (.inr rfl)) h.typeExpr
  refine hvalue.bind (splits_optionally (takes_eats ':').splits
    (typeReadersAdvance n).typeExpr.splits) fun value rest _ => ?_
  refine (readsOn_expect ']').bind (advances_expect ']').splits fun _ _ _ => ?_
  cases value <;> exact .pure

theorem succ_genericArguments (ts : List Placed) :
    ReadsOn after (TokenParser.genericArguments (n + 1)) ts := by
  refine .look_bind (fun parted => parted.startsTouching_append (by decide))
    (.ite (fun hangle => ?_) fun _ => .pure)
  have hne : ts ≠ [] := ne_nil_of_startsTouching hangle
  refine (ReadsOn.skip (List.length_pos_iff.2 hne)).bind (splits_skip 1) fun _ rest _ => ?_
  refine .bind_inside (typeReadersAdvance n).types.splits (h.types rest)
    (fun _ _ hok => by cases hok) fun arguments rest => ?_
  exact (readsOn_expect '>').bind (advances_expect '>').splits fun _ _ _ => .pure

theorem succ_types (ts : List Placed) : ReadsInside after (TokenParser.types (n + 1)) ts := by
  have hsplits := (typeReadersAdvance n).types.splits
  have hmore : ∀ first : TypeExpr, Splits (do
      if ← eats ',' then return first :: (← TokenParser.types n) else return [first]) := by
    intro first ts
    refine (takes_eats ',' ts).bind fun goesOn _ rest _ _ =>
      .ite (fun _ => ?_) fun _ => .pure trivial
    exact (hsplits rest).bind fun _ _ _ _ _ => .pure trivial
  refine (h.typeExpr ts).inside.bind (typeReadersAdvance n).typeExpr.splits hmore
    fun first rest _ => ?_
  -- where no token is left the list would end with the tokens
  refine .of_cons (hmore first) fun t more => ?_
  refine (readsOn_eats_cons ',' t more).inside.bind (takes_eats ',').splits (fun goesOn rest => ?_)
    fun goesOn rest _ => ?_
  · exact .ite (fun _ => (hsplits rest).bind fun _ _ _ _ _ => .pure trivial) fun _ => .pure trivial
  · cases goesOn with
    | false => exact ReadsOn.pure.inside
    | true =>
      exact (h.types rest).bind hsplits (fun _ _ => .pure trivial) fun _ _ _ => ReadsOn.pure.inside

omit h in
/-- The elements of a list need a parenthesis after them. -/
theorem elements_singleton {t : Placed} (ht : t.is ')' = false) {x : List (Element TypeExpr) × _} :
    TokenParser.elements (n + 1) [t] ≠ .ok x := by
  intro hok
  obtain ⟨closed, rest, hclosed, hok⟩ := bind_eq_ok.1 hok
  rw [eats_of_not ht] at hclosed
  cases hclosed
  obtain ⟨label, rest, hlabel, hok⟩ := bind_eq_ok.1 hok
  cases hlabel
  obtain ⟨type, rest, htype, hok⟩ := bind_eq_ok.1 hok
  -- the one token is the type's
  have hlt := (typeReadersAdvance n).typeExpr.length_lt htype
  obtain rfl : rest = [] := List.length_eq_zero_iff.1 (by simpa using hlt)
  cases hok

theorem succ_elements (ts : List Placed) : ReadsOn after (TokenParser.elements (n + 1)) ts := by
  refine .of_cons (fun x hok => ?_) fun t more => ?_
  · obtain ⟨closed, rest, hclosed, hok⟩ := bind_eq_ok.1 hok
    cases hclosed
    obtain ⟨label, rest, hlabel, hok⟩ := bind_eq_ok.1 hok
    cases hlabel
    obtain ⟨type, rest, htype, -⟩ := bind_eq_ok.1 hok
    exact (typeReadersAdvance n).typeExpr.not_ok_nil htype
  by_cases ht : t.is ')'
  · intro _ elements rest hok
    rw [TokenParser.elements, bind_of_eq_ok (eats_of_is ht)] at hok
    rw [List.cons_append, TokenParser.elements, bind_of_eq_ok (eats_of_is ht)]
    cases hok
    rfl
  cases more with
  | nil => exact fun _ _ _ hok => absurd hok (elements_singleton (by simpa using ht))
  | cons u more =>
    refine (readsOn_eats_cons ')' t _).bind (takes_eats ')').splits fun closed rest hclosed =>
      .ite (fun _ => .pure) fun hopen => ?_
    obtain rfl : closed = false := by simpa using hopen
    obtain rfl := eats_eq_false hclosed
    refine (readsOn_label? t u more).bind splits_label? fun label rest _ => ?_
    refine (h.typeExpr rest).bind (typeReadersAdvance n).typeExpr.splits fun type rest _ => ?_
    -- a comma or a parenthesis has to follow, so the element ends before the tokens do
    refine .bind_inside splits_trailer readsInside_trailer (fun _ _ hok => by cases hok)
      fun _ rest => ?_
    refine .of_cons (fun _ hok => by cases hok) fun t more => ?_
    refine (readsOn_eats_cons ',' t more).bind (takes_eats ',').splits fun goesOn rest _ =>
      .ite (fun _ => ?_) fun _ => ?_
    · exact (h.elements rest).bind (typeReadersAdvance n).elements fun _ _ _ => .pure
    · refine .of_cons (fun _ hok => by cases hok) fun t more => ?_
      exact (readsOn_eats_cons ')' t more).bind (takes_eats ')').splits fun closed _ _ =>
        .ite (fun _ => .pure) fun _ => .fail

theorem succ : TypeReadersReadOn after (n + 1) where
  typeExpr := h.succ_typeExpr
  composition := h.succ_composition
  conjuncts := h.succ_conjuncts
  suffixed := h.succ_suffixed
  suffixes := h.succ_suffixes
  primary := h.succ_primary
  parenthesized := h.succ_parenthesized
  bracketed := h.succ_bracketed
  genericArguments := h.succ_genericArguments
  types := h.succ_types
  elements := h.succ_elements

end TypeReadersReadOn

/-- **The readers of types read on where types end**, whatever their bound. -/
theorem typeReadersReadOn (after : List Placed) (n : Nat) : TypeReadersReadOn after n := by
  induction n with
  | zero => constructor <;> intros <;> first | exact .fail | exact ReadsOn.fail.inside
  | succ n ih => exact ih.succ

/-- **A type ends where no type goes on.** What reads as a type alone reads as that type in front of
what no type goes on with. -/
theorem typeExpr_of_parted {n : Nat} {type : TypeExpr} (parted : Parted ts after)
    (h : typeExpr n ts = .ok (type, [])) : typeExpr n (ts ++ after) = .ok (type, after) :=
  (typeReadersReadOn after n).typeExpr ts parted h

/-- So it does in front of a mark with which no type goes on. -/
theorem typeExpr_append {n : Nat} {type : TypeExpr} (ends : EndsType after)
    (h : typeExpr n ts = .ok (type, [])) : typeExpr n (ts ++ after) = .ok (type, after) :=
  typeExpr_of_parted (ends.parted ts) h

end TokenParser

end SwiftTuples
