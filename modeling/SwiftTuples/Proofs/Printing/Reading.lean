import SwiftTuples.Proofs.Parsing.Taking
import SwiftTuples.Proofs.Printing.Shape
/-!
# Reading glyphs

`Reads p gs P hs` says that the parser `p` succeeds on the tokens of the glyphs `gs`, answers with
something that `P` holds of, and leaves the tokens of `hs`. Parsers in sequence are followed glyph
by glyph (`Reads.bind`); what stops a parser is a condition on the first of the glyphs to come.
-/

namespace SwiftTuples

/-- The name that a glyph is. -/
def Glyph.name? (g : Glyph) : Option String :=
  match g.kind with
  | .ident name => some name
  | _ => none

namespace Glyph

theorem name?_eq_none {g : Glyph} (h : ¬ g.kind.isName) : g.name? = none := by
  unfold name?
  cases hkind : g.kind with
  | ident name => exact absurd (by rw [hkind]; rfl) h
  | literal | arrow | punct => rfl

theorem isSome_name? {g : Glyph} (h : g.kind.isName) : g.name?.isSome := by
  unfold name?
  cases hkind : g.kind with
  | ident name => rfl
  | literal | arrow | punct =>
    rw [hkind] at h
    cases h

namespace Matches

variable {g : Glyph} {t : Placed} (h : g.Matches t)
include h

theorem name? : t.name? = g.name? := by
  cases hkind : g.kind <;> simp [Token.name?, Glyph.name?, h.kind, hkind]

theorem is (c : Char) : t.is c = decide (g.kind = .punct c) := by rw [Token.is, h.kind]

end Matches

end Glyph

namespace Written

variable {gs : List Glyph} {ts : List Placed}

theorem length_eq (h : Written gs ts) : ts.length = gs.length := by
  induction h with
  | nil => rfl
  | cons _ _ ih => simp [ih]

theorem tail (h : Written gs ts) : Written gs.tail ts.tail := by
  cases h with
  | nil => exact .nil
  | cons _ more => exact more

theorem drop (h : Written gs ts) (n : Nat) : Written (gs.drop n) (ts.drop n) := by
  induction n generalizing gs ts with
  | zero => exact h
  | succ n ih =>
    rw [← List.tail_drop, ← List.tail_drop]
    exact (ih h).tail

theorem startsWith (h : Written gs ts) (c : Char) :
    startsWith c ts = gs.head?.any fun g => g.kind = .punct c := by
  cases h with
  | nil => rfl
  | cons first _ => simp [SwiftTuples.startsWith, first.is]

theorem startsWith_eq_false (h : Written gs ts) {c : Char}
    (hc : ∀ g ∈ gs.head?, g.kind ≠ .punct c) : SwiftTuples.startsWith c ts = false := by
  rw [h.startsWith]
  cases gs with
  | nil => rfl
  | cons g gs => simpa using hc g rfl

theorem word? (h : Written gs ts) : word? ts = gs.head?.bind Glyph.name? := by
  cases h with
  | nil => rfl
  | cons first _ => exact first.name?

/-- What is not there does not touch. -/
theorem startsTouching_eq_false (h : Written gs ts) {c : Char}
    (hc : ∀ g ∈ gs.head?, g.kind = .punct c → g.gap = .space ∨ g.gap = .line) :
    startsTouching c ts = false := by
  cases h with
  | nil => rfl
  | @cons g _ t _ first _ =>
    by_cases hkind : g.kind = .punct c
    · have := first.apart (hc g rfl hkind)
      simp [SwiftTuples.startsTouching, this]
    · simp [SwiftTuples.startsTouching, first.is, hkind]

theorem startsTouching_suffix {c : Char} (h : Written (.suffix c :: gs) ts) :
    startsTouching c ts := by
  cases h with
  | cons first _ =>
    simp [SwiftTuples.startsTouching, first.is, first.touching rfl, Glyph.suffix]

end Written

namespace TokenParser

variable {α β : Type}

/-- The parser reads `gs` up to `hs`, and answers with what `P` says. -/
def Reads (p : TokenParser α) (gs : List Glyph) (P : α → Prop) (hs : List Glyph) : Prop :=
  ∀ ⦃ts⦄, Written gs ts → ∃ a rest, p ts = .ok (a, rest) ∧ P a ∧ Written hs rest

namespace Reads

variable {p q : TokenParser α} {gs hs ks : List Glyph} {P Q : α → Prop}

theorem pure {a : α} (h : P a) : Reads (pure a : TokenParser α) gs P gs :=
  fun _ hts => ⟨a, _, rfl, h, hts⟩

/-- **One parser reads on where the other stops.** -/
theorem bind {f : α → TokenParser β} {Q : β → Prop} (hp : Reads p gs P hs)
    (hf : ∀ a, P a → Reads (f a) hs Q ks) : Reads (p >>= f) gs Q ks := by
  intro ts hts
  obtain ⟨a, mid, hpa, ha, hmid⟩ := hp hts
  obtain ⟨b, rest, hfb, hb, hrest⟩ := hf a ha hmid
  exact ⟨b, rest, bind_eq_ok.2 ⟨a, mid, hpa, hfb⟩, hb, hrest⟩

/-- One parser reads on where another stops whose answer is known. -/
theorem bind_known {f : α → TokenParser β} {Q : β → Prop} {a : α} (hp : Reads p gs (· = a) hs)
    (hf : Reads (f a) hs Q ks) : Reads (p >>= f) gs Q ks :=
  hp.bind fun _ hfound => hfound.symm ▸ hf

theorem mono (hp : Reads p gs P hs) (h : ∀ a, P a → Q a) : Reads p gs Q hs := by
  intro ts hts
  obtain ⟨a, rest, hpa, ha, hrest⟩ := hp hts
  exact ⟨a, rest, hpa, h a ha, hrest⟩

theorem map {f : α → β} {Q : β → Prop} (hp : Reads p gs P hs) (h : ∀ a, P a → Q (f a)) :
    Reads (f <$> p) gs Q hs :=
  hp.bind fun a ha => .pure (h a ha)

theorem look {f : List Placed → α} {a : α} (h : ∀ ⦃ts⦄, Written gs ts → f ts = a) :
    Reads (look f) gs (· = a) gs :=
  fun ts hts => ⟨f ts, ts, rfl, h hts, hts⟩

theorem position : Reads position gs (fun _ => True) gs := fun ts hts => ⟨_, ts, rfl, trivial, hts⟩

theorem skip (n : Nat) : Reads (skip n) gs (fun _ => True) (gs.drop n) :=
  fun _ hts => ⟨(), _, rfl, trivial, hts.drop n⟩

theorem ite_pos {c : Prop} [Decidable c] (hc : c) (hp : Reads p gs P hs) :
    Reads (if c then p else q) gs P hs := by
  rwa [if_pos hc]

theorem ite_neg {c : Prop} [Decidable c] (hc : ¬ c) (hq : Reads q gs P hs) :
    Reads (if c then p else q) gs P hs := by
  rwa [if_neg hc]

/-- Something optional whose mark is at hand. -/
theorem optionally_some {mark : TokenParser Bool} {Q : Option α → Prop}
    (hmark : Reads mark gs (· = true) hs) (hp : Reads p hs P ks) (h : ∀ a, P a → Q (some a)) :
    Reads (optionally mark p) gs Q ks :=
  hmark.bind fun _ hfound => ite_pos hfound (hp.map h)

/-- Something optional whose mark is missing. -/
theorem optionally_none {mark : TokenParser Bool} (hmark : Reads mark gs (· = false) hs) :
    Reads (optionally mark p) gs (· = none) hs :=
  hmark.bind fun _ hfound => ite_neg (by simp [hfound]) (.pure rfl)

/-- A space may stand where none has to. -/
theorem spaced {g : Glyph} (hgap : g.gap = .free) (h : Reads p (g :: gs) P hs) :
    Reads p ({ g with gap := .space } :: gs) P hs := by
  rintro ts (_ | ⟨first, more⟩)
  refine h (.cons ?_ more)
  exact {
    kind := first.kind
    newline := by rw [first.newline, hgap]; rfl
    touching := fun hno => by rw [hgap] at hno; cases hno
    apart := fun hno => by rw [hgap] at hno; rcases hno with hno | hno <;> cases hno
    afterDot := fun hno => by rw [hgap] at hno; cases hno }

end Reads

/-! ## Single glyphs -/

section single

variable {g : Glyph} {gs : List Glyph} {c : Char}

theorem reads_eat (h : g.kind = .punct c) : Reads (eat c) (g :: gs) (·.isSome) gs := by
  rintro ts (_ | ⟨first, more⟩)
  exact ⟨_, _, by simp [eat, first.is, h]; rfl, rfl, more⟩

theorem reads_eat_none (h : ∀ g ∈ gs.head?, g.kind ≠ .punct c) :
    Reads (eat c) gs (· = none) gs := by
  intro ts hts
  refine ⟨none, ts, ?_, rfl, hts⟩
  cases hts with
  | nil => rfl
  | cons first _ => simp [eat, first.is, h _ rfl]

theorem reads_eats (h : g.kind = .punct c) : Reads (eats c) (g :: gs) (· = true) gs :=
  (reads_eat h).map fun _ => id

theorem reads_eats_false (h : ∀ g ∈ gs.head?, g.kind ≠ .punct c) :
    Reads (eats c) gs (· = false) gs :=
  (reads_eat_none h).map fun found hfound => by rw [hfound]; rfl

theorem reads_expect (h : g.kind = .punct c) :
    Reads (expect c) (g :: gs) (fun _ => True) gs := by
  refine (reads_eat h).bind fun found hfound => ?_
  cases found with
  | none => cases hfound
  | some position => exact .pure trivial

theorem reads_name {name : String} (h : g.kind = .ident name) :
    Reads name? (g :: gs) (· = some name) gs := by
  rintro ts (_ | ⟨first, more⟩)
  exact ⟨_, _, by simp [TokenParser.name?, first.name?, Glyph.name?, h], rfl, more⟩

theorem reads_name_none (h : ∀ g ∈ gs.head?, ¬ g.kind.isName) : Reads name? gs (· = none) gs := by
  intro ts hts
  refine ⟨none, ts, ?_, rfl, hts⟩
  cases hts with
  | nil => rfl
  | @cons g _ t _ first _ =>
    have hnone : t.name? = none := by rw [first.name?, Glyph.name?_eq_none (h g rfl)]
    simp [TokenParser.name?, hnone]

theorem reads_arrow : Reads arrow (.arrow :: gs) (· = true) gs := by
  rintro ts (_ | ⟨first, more⟩)
  exact ⟨true, _, by simp [arrow, first.kind, Glyph.arrow], rfl, more⟩

theorem reads_arrow_false (h : ∀ g ∈ gs.head?, g.kind ≠ .arrow) :
    Reads arrow gs (· = false) gs := by
  intro ts hts
  refine ⟨false, ts, ?_, rfl, hts⟩
  cases hts with
  | nil => rfl
  | cons first _ => simp [arrow, first.kind, h _ rfl]

end single

/-! ## Looks ahead -/

section looks

variable {gs : List Glyph} {c : Char}

theorem reads_word (gs : List Glyph) :
    Reads (look word?) gs (· = gs.head?.bind Glyph.name?) gs :=
  .look fun _ hts => hts.word?

theorem reads_startsWith_false (h : ∀ g ∈ gs.head?, g.kind ≠ .punct c) :
    Reads (look (startsWith c)) gs (· = false) gs :=
  .look fun _ hts => hts.startsWith_eq_false h

/-- A mark with a name after it is seen, as of an attribute or a member. -/
theorem reads_wordAfter (c : Char) (name : String) :
    Reads (look fun ts => if startsWith c ts then word? ts.tail else none)
      (.mark c :: .word name :: gs) (· = some name) (.mark c :: .word name :: gs) := by
  refine .look fun ts hts => ?_
  have hmark : startsWith c ts = true := by simp [hts.startsWith, Glyph.mark]
  rw [if_pos hmark, hts.tail.word?]
  rfl

theorem reads_wordAfter_none (h : ∀ g ∈ gs.head?, g.kind ≠ .punct c) :
    Reads (look fun ts => if startsWith c ts then word? ts.tail else none) gs (· = none) gs :=
  .look fun ts hts => if_neg (by simp [hts.startsWith_eq_false h])

end looks

/-! ## Repetition -/

section repetition

variable {step : TokenParser (Option α)} {gs hs ks : List Glyph} {P : List α → Prop}

theorem reads_collect_nil (h : Reads step gs (· = none) gs) (n : Nat) :
    Reads (collect step n) gs (· = []) gs := by
  cases n with
  | zero => exact .pure rfl
  | succ n => exact h.bind fun found hfound => by subst hfound; exact .pure rfl

theorem reads_collect_cons {a : α} {l : List α} {n : Nat} (h : Reads step gs (· = some a) hs)
    (hmore : Reads (collect step n) hs (· = l) ks) :
    Reads (collect step (n + 1)) gs (· = a :: l) ks := by
  refine h.bind_known ?_
  exact hmore.bind fun more hl => .pure (by rw [hl])

/-- What is found as often as there are glyphs is all that is found. -/
theorem reads_many (h : ∀ n, gs.length ≤ n → Reads (collect step n) gs P hs) :
    Reads (many step) gs P hs := by
  intro ts hts
  exact h ts.length hts.length_eq.ge hts

theorem reads_many_nil (h : Reads step gs (· = none) gs) : Reads (many step) gs (· = []) gs :=
  reads_many fun n _ => reads_collect_nil h n

end repetition

/-! ## What stops a type -/

/-- The glyph can follow a type whose suffixes go on: it opens no generic arguments, and no
function type goes on with it. -/
def Ends.base (g : Glyph) : Bool :=
  g.kind ≠ .punct '<' && g.kind ≠ .arrow &&
    (g.gap = .line || (g.name?.bind Effect.ofWord?).isNone)

/-- The glyph can follow a type without being a suffix of it. -/
def Ends.single (g : Glyph) : Bool :=
  Ends.base g && g.kind ≠ .punct '?' && g.kind ≠ .punct '!' && g.kind ≠ .punct '.'

/-- The glyph can follow a type. -/
def Ends.whole (g : Glyph) : Bool := Ends.single g && g.kind ≠ .punct '&'

section stops

variable {gs : List Glyph}

theorem startsFunction_eq_false (h : ∀ g ∈ gs.head?, Ends.base g) {ts : List Placed}
    (hts : Written gs ts) : startsFunction ts = false := by
  cases hts with
  | nil => rfl
  | @cons g _ t _ first _ =>
    have hg := h g rfl
    simp only [Ends.base, Bool.and_eq_true, decide_eq_true_eq, Bool.or_eq_true] at hg
    obtain ⟨⟨-, harrow⟩, hline | heffect⟩ := hg
    · simp [startsFunction, first.kind, first.newline, harrow, hline]
    · simp only [Option.isNone_iff_eq_none] at heffect
      simp [startsFunction, first.kind, harrow, first.name?, heffect]

theorem reads_genericArguments_nil (h : ∀ g ∈ gs.head?, Ends.base g) (n : Nat) :
    Reads (genericArguments (n + 1)) gs (· = []) gs := by
  have hangle : Reads (look (startsTouching '<')) gs (· = false) gs := .look fun ts hts =>
    hts.startsTouching_eq_false fun g hg hkind => by
      have := h g hg
      simp [Ends.base, hkind] at this
  exact hangle.bind_known (.ite_neg (by decide) (.pure rfl))

theorem reads_optionalMark (mark : OptionalMark) :
    Reads optionalMark? (.suffix mark.char :: gs) (· = some mark) gs := by
  have hmark : Reads (look (startsTouching mark.char)) (.suffix mark.char :: gs) (· = true)
      (.suffix mark.char :: gs) := .look fun _ hts => hts.startsTouching_suffix
  cases mark with
  | question =>
    exact hmark.bind fun _ h => .ite_pos h ((Reads.skip 1).bind fun _ _ => .pure rfl)
  | exclamation =>
    have hno : Reads (look (startsTouching '?')) (.suffix '!' :: gs) (· = false)
        (.suffix '!' :: gs) := .look fun _ hts => hts.startsTouching_eq_false fun g hg hkind => by
      cases hg
      cases hkind
    exact hno.bind fun _ h => .ite_neg (by simp [h])
      (hmark.bind fun _ h => .ite_pos h ((Reads.skip 1).bind fun _ _ => .pure rfl))

theorem reads_optionalMark_none
    (h : ∀ g ∈ gs.head?, g.kind ≠ .punct '?' ∧ g.kind ≠ .punct '!') :
    Reads optionalMark? gs (· = none) gs := by
  have hno : ∀ c, c = '?' ∨ c = '!' → Reads (look (startsTouching c)) gs (· = false) gs := by
    intro c hc
    refine .look fun _ hts => hts.startsTouching_eq_false fun g hg hkind => ?_
    rcases hc with rfl | rfl
    · exact absurd hkind (h g hg).1
    · exact absurd hkind (h g hg).2
  exact (hno '?' (.inl rfl)).bind fun _ hq => .ite_neg (by simp [hq])
    ((hno '!' (.inr rfl)).bind_known (.ite_neg (by decide) (.pure rfl)))

theorem reads_memberName (name : String) :
    Reads memberName? (.mark '.' :: .word name :: gs) (· = some name) gs :=
  (reads_wordAfter '.' name).bind_known ((Reads.skip 2).bind fun _ _ => .pure rfl)

theorem reads_memberName_none (h : ∀ g ∈ gs.head?, g.kind ≠ .punct '.') :
    Reads memberName? gs (· = none) gs :=
  (reads_wordAfter_none h).bind_known (.pure rfl)

/-- A type is read as far as its suffixes go. -/
theorem reads_suffixes_nil (h : ∀ g ∈ gs.head?, Ends.single g) (n position : Nat)
    (base : TypeExpr) : Reads (suffixes (n + 1) position base) gs (· = base) gs := by
  have hmarks : ∀ g ∈ gs.head?, g.kind ≠ .punct '?' ∧ g.kind ≠ .punct '!' := fun g hg => by
    have := h g hg
    simp only [Ends.single, Bool.and_eq_true, decide_eq_true_eq] at this
    exact ⟨this.1.1.2, this.1.2⟩
  have hdot : ∀ g ∈ gs.head?, g.kind ≠ .punct '.' := fun g hg => by
    have := h g hg
    simp only [Ends.single, Bool.and_eq_true, decide_eq_true_eq] at this
    exact this.2
  refine (reads_optionalMark_none hmarks).bind_known ?_
  refine (reads_memberName_none hdot).bind_known ?_
  exact .pure rfl

end stops

end TokenParser

end SwiftTuples
