import Mathlib.Data.List.Forall2
import SwiftTuples.Proofs.Parsing.Advance
/-!
# Trees and tokens moved

What a tree keeps of the places of its tokens are their offsets: where a node starts, and where
the colon of a label stands. `relocate move` puts `move` of each in its place and leaves all else
alone. `Follows move p q f` says of two parsers that they do the same on tokens that look alike and
stand elsewhere: both succeed, with answers that differ by `f`, or both fail for one cause.

Readers ask for the offset of the token at hand before they know that there is one. Where there is
none they fail or find nothing, so no tree holds an offset that is no token's (`Follows.position`).
-/

namespace SwiftTuples

/-! ## Trees -/

section relocate

variable (move : Nat → Nat)

/-- The label with its colon moved. -/
def Label.relocate (l : Label) : Label := { l with colon := move l.colon }

namespace TypeExpr

mutual

/-- The type with every offset moved. -/
def relocate : TypeExpr → TypeExpr
  | named position name arguments => named (move position) name (relocateList arguments)
  | member position base name arguments =>
    member (move position) base.relocate name (relocateList arguments)
  | tuple position elements => tuple (move position) (relocateElements elements)
  | function position parameters effects result =>
    function (move position) (relocateElements parameters) effects result.relocate
  | optional position wrapped mark => optional (move position) wrapped.relocate mark
  | array position element => array (move position) element.relocate
  | dictionary position key value => dictionary (move position) key.relocate value.relocate
  | composition position parts => composition (move position) (relocateList parts)
  | attributed position specifiers base => attributed (move position) specifiers base.relocate

def relocateList : List TypeExpr → List TypeExpr
  | [] => []
  | t :: rest => t.relocate :: relocateList rest

def relocateElements : List (Element TypeExpr) → List (Element TypeExpr)
  | [] => []
  | ⟨label, type⟩ :: rest => ⟨label.map (·.relocate move), type.relocate⟩ :: relocateElements rest

end

end TypeExpr

/-- The element with every offset moved. -/
def Element.relocate (e : Element TypeExpr) : Element TypeExpr :=
  ⟨e.label.map (·.relocate move), e.type.relocate move⟩

/-- The parameter with every offset moved. -/
def Parameter.relocate (p : Parameter) : Parameter := { p with type := p.type.relocate move }

/-- The requirement with every offset moved. -/
def Requirement.relocate (r : Requirement) : Requirement :=
  { r with subject := r.subject.relocate move, constraint := r.constraint.relocate move }

namespace Item

mutual

/-- The item with every offset moved. -/
def relocate : Item → Item
  | block b => block (relocateBlock b)
  | «variable» position binder type =>
    «variable» (move position) binder (type.map (·.relocate move))
  | function position name parameters effects result requirements body =>
    function (move position) name (parameters.map (·.relocate move)) effects
      (result.map (·.relocate move)) (requirements.map (·.relocate move)) (relocateBody body)
  | nominal position kind name inherits requirements members =>
    nominal (move position) kind name (inherits.map (·.relocate move))
      (requirements.map (·.relocate move)) (relocateBlock members)
  | «alias» position name target => «alias» (move position) name (target.relocate move)
  | cast position operator target => cast (move position) operator (target.relocate move)

def relocateBlock : Block Item → Block Item
  | ⟨position, items⟩ => ⟨move position, relocateList items⟩

def relocateBody : Option (Block Item) → Option (Block Item)
  | none => none
  | some body => some (relocateBlock body)

def relocateList : List Item → List Item
  | [] => []
  | i :: rest => i.relocate :: relocateList rest

end

end Item

/-- The file with every offset moved. -/
def SourceFile.relocate (f : SourceFile) : SourceFile := ⟨f.items.map (·.relocate move)⟩

namespace TypeExpr

@[simp] theorem relocateList_eq_map (types : List TypeExpr) :
    relocateList move types = types.map (·.relocate move) := by
  induction types with
  | nil => rfl
  | cons t types ih => rw [relocateList, ih, List.map_cons]

@[simp] theorem relocateElements_eq_map (elements : List (Element TypeExpr)) :
    relocateElements move elements = elements.map (·.relocate move) := by
  induction elements with
  | nil => rfl
  | cons e elements ih =>
    rw [relocateElements, ih, List.map_cons]
    rfl

end TypeExpr

namespace Item

@[simp] theorem relocateList_eq_map (items : List Item) :
    relocateList move items = items.map (·.relocate move) := by
  induction items with
  | nil => rfl
  | cons i items ih => rw [relocateList, ih, List.map_cons]

@[simp] theorem relocateBlock_mk (position : Nat) (items : List Item) :
    relocateBlock move ⟨position, items⟩ = ⟨move position, items.map (·.relocate move)⟩ := by
  rw [relocateBlock, relocateList_eq_map]

@[simp] theorem relocateBody_eq_map (body : Option (Block Item)) :
    relocateBody move body = body.map (relocateBlock move) := by
  cases body <;> rfl

end Item

end relocate

/-! ## Tokens -/

section alike

variable (move : Nat → Nat)

/-- The second token looks like the first and starts where `move` says. -/
structure Placed.Alike (t u : Placed) : Prop where
  kind : u.kind = t.kind
  start : u.start = move t.start
  newlineBefore : u.newlineBefore = t.newlineBefore
  touching : u.touching = t.touching
  afterDot : u.afterDot = t.afterDot

instance (t u : Placed) : Decidable (t.Alike move u) :=
  decidable_of_iff (u.kind = t.kind ∧ u.start = move t.start ∧ u.newlineBefore = t.newlineBefore ∧
      u.touching = t.touching ∧ u.afterDot = t.afterDot)
    ⟨fun ⟨hkind, hstart, hline, htouching, hdot⟩ => ⟨hkind, hstart, hline, htouching, hdot⟩,
      fun h => ⟨h.kind, h.start, h.newlineBefore, h.touching, h.afterDot⟩⟩

/-- Tokens look like others, one by one, and start where `move` says. -/
abbrev Alike (ts us : List Placed) : Prop := List.Forall₂ (Placed.Alike move) ts us

end alike

namespace Placed.Alike

variable {move : Nat → Nat} {t u : Placed} (h : Placed.Alike move t u)
include h

theorem is (c : Char) : u.is c = t.is c := by rw [Token.is, Token.is, h.kind]

theorem isWord (word : String) : u.isWord word = t.isWord word := by
  rw [Token.isWord, Token.isWord, h.kind]

theorem name? : u.name? = t.name? := by rw [Token.name?, Token.name?, h.kind]

theorem opens : u.opens = t.opens := by rw [Placed.opens, Placed.opens, h.is, h.is, h.is]

theorem closes : u.closes = t.closes := by rw [Placed.closes, Placed.closes, h.is, h.is, h.is]

end Placed.Alike

namespace Alike

variable {move : Nat → Nat} {ts us : List Placed} (h : Alike move ts us)
include h

theorem tail : Alike move ts.tail us.tail := by
  cases h with
  | nil => exact .nil
  | cons _ h => exact h

theorem drop (n : Nat) : Alike move (ts.drop n) (us.drop n) := by
  induction n generalizing ts us with
  | zero => exact h
  | succ n ih =>
    cases h with
    | nil => exact .nil
    | cons _ h => exact ih h

theorem filterMap_name? : us.filterMap (·.name?) = ts.filterMap (·.name?) := by
  induction h with
  | nil => rfl
  | cons ht _ ih => simp only [List.filterMap_cons, ht.name?, ih]

theorem forall_name? (hnames : ∀ t ∈ ts, t.name?.isSome) : ∀ u ∈ us, u.name?.isSome := by
  induction h with
  | nil => exact hnames
  | cons ht _ ih =>
    rw [List.forall_mem_cons] at hnames ⊢
    exact ⟨ht.name? ▸ hnames.1, ih hnames.2⟩

theorem startsWith (c : Char) : startsWith c us = startsWith c ts := by
  cases h with
  | nil => rfl
  | cons ht _ => exact ht.is c

theorem startsTouching (c : Char) : startsTouching c us = startsTouching c ts := by
  cases h with
  | nil => rfl
  | cons ht _ =>
    simp only [SwiftTuples.startsTouching]
    rw [ht.is, ht.touching]

theorem word? : word? us = word? ts := by
  cases h with
  | nil => rfl
  | cons ht _ => exact ht.name?

theorem startsWithWord : startsWithWord us = startsWithWord ts := by
  rw [SwiftTuples.startsWithWord, SwiftTuples.startsWithWord, h.word?]

end Alike

namespace TokenParser

variable {α β : Type} {move : Nat → Nat}

/-! ## Parsers -/

/-- Two results are the same up to `f` and leave tokens that look alike, or fail for one cause. -/
def Agree (move : Nat → Nat) (f : α → α) :
    (first second : Except ReadError (α × List Placed)) → Prop
  | .ok (a, ts), .ok (b, us) => b = f a ∧ Alike move ts us
  | .error e, .error e' => e'.cause = e.cause
  | _, _ => False

/-- Where the first result is a success the second is the same success, up to `f`. -/
theorem Agree.eq_ok {f : α → α} {a : α} {ts : List Placed}
    {second : Except ReadError (α × List Placed)} (h : Agree move f (.ok (a, ts)) second) :
    ∃ us, second = .ok (f a, us) ∧ Alike move ts us := by
  cases second with
  | error e => exact h.elim
  | ok x =>
    obtain ⟨b, us⟩ := x
    obtain ⟨rfl, hrest⟩ := h
    exact ⟨us, rfl, hrest⟩

/-- Where the second result is a success the first is one. -/
theorem Agree.exists_ok {f : α → α} {b : α} {us : List Placed}
    {first : Except ReadError (α × List Placed)} (h : Agree move f first (.ok (b, us))) :
    ∃ a ts, first = .ok (a, ts) ∧ b = f a ∧ Alike move ts us := by
  cases first with
  | error e => exact h.elim
  | ok x => exact ⟨x.1, x.2, rfl, h⟩

/-- On tokens that look alike the second parser does what the first does, up to `f`. -/
def Follows (move : Nat → Nat) (p q : TokenParser α) (f : α → α) : Prop :=
  ∀ ⦃ts us⦄, Alike move ts us → Agree move f (p ts) (q us)

/-- The parser answers the same wherever the tokens stand. -/
def Unmoved (p : TokenParser α) : Prop := ∀ move, Follows move p p id

namespace Follows

variable {p q : TokenParser α} {f : α → α}

theorem pure {a b : α} (h : b = f a) : Follows move (pure a : TokenParser α) (pure b) f :=
  fun _ _ hts => ⟨h, hts⟩

theorem fail {cause : SyntaxCause} : Follows move (fail cause : TokenParser α) (fail cause) f :=
  fun _ _ _ => rfl

/-- **Sequencing keeps parsers together.** -/
theorem bind {r s : α → TokenParser β} {g : β → β} (hp : Follows move p q f)
    (hr : ∀ a, Follows move (r a) (s (f a)) g) : Follows move (p >>= r) (q >>= s) g := by
  intro ts us hts
  have hfirst := hp hts
  rw [bind_apply, bind_apply]
  cases hpts : p ts with
  | error e =>
    cases hqus : q us with
    | error e' => rw [hpts, hqus] at hfirst; exact hfirst
    | ok y => rw [hpts, hqus] at hfirst; exact hfirst.elim
  | ok x =>
    cases hqus : q us with
    | error e' => rw [hpts, hqus] at hfirst; exact hfirst.elim
    | ok y =>
      rw [hpts, hqus] at hfirst
      obtain ⟨hanswer, hrest⟩ := hfirst
      obtain ⟨a, rest⟩ := x
      obtain ⟨b, rest'⟩ := y
      subst hanswer
      exact hr a hrest

theorem ite {c : Prop} [Decidable c] {p' q' : TokenParser α} (hp : c → Follows move p q f)
    (hq : ¬ c → Follows move p' q' f) :
    Follows move (if c then p else p') (if c then q else q') f := by
  split
  · next h => exact hp h
  · next h => exact hq h

theorem map {g : α → β} {g' : β → β} (hp : Follows move p q f) (h : ∀ a, g (f a) = g' (g a)) :
    Follows move (g <$> p) (g <$> q) g' := by
  change Follows move (p >>= fun a => Pure.pure (g a)) (q >>= fun a => Pure.pure (g a)) g'
  exact hp.bind fun a => .pure (h a)

theorem optionally {mark : TokenParser Bool} (hmark : Unmoved mark) (hp : Follows move p q f) :
    Follows move (optionally mark p) (optionally mark q) (Option.map f) :=
  (hmark move).bind fun _ => .ite (fun _ => hp.map fun _ => rfl) fun _ => .pure rfl

/-- Where there is a token its offset is moved. What is done where there is none has to agree by
itself. -/
theorem position {r : Nat → TokenParser α}
    (hnil : Agree move f ((position >>= r) []) ((position >>= r) []))
    (hr : ∀ position, Follows move (r position) (r (move position)) f) :
    Follows move (position >>= r) (position >>= r) f := by
  intro ts us hts
  cases hts with
  | nil => exact hnil
  | @cons t u ts us ht hts =>
    have hstart : (TokenParser.position >>= r) (u :: us) = r (move t.start) (u :: us) := by
      rw [← ht.start]
      rfl
    rw [hstart]
    exact hr t.start (.cons ht hts)

theorem collect {step step' : TokenParser (Option α)}
    (h : Follows move step step' (Option.map f)) (n : Nat) :
    Follows move (collect step n) (collect step' n) (List.map f) := by
  induction n with
  | zero => exact .pure rfl
  | succ n ih =>
    refine h.bind fun found => ?_
    cases found with
    | some a => exact ih.bind fun others => .pure rfl
    | none => exact .pure rfl

end Follows

/-- A parser that has to take a token fails where there is none. -/
theorem Advances.agree_nil {p : TokenParser α} {f : α → α} (h : Advances p) :
    Agree move f (p []) (p []) := by
  cases hp : p [] with
  | error e => exact rfl
  | ok x =>
    obtain ⟨used, hused, hne⟩ := h [] hp
    exact absurd (List.append_eq_nil_iff.1 hused.symm).1 hne

namespace Unmoved

variable {p : TokenParser α}

theorem bind {q r : α → TokenParser β} {g : β → β} (hp : Unmoved p)
    (hq : ∀ a, Follows move (q a) (r a) g) : Follows move (p >>= q) (p >>= r) g :=
  (hp move).bind hq

theorem look {f : List Placed → α} (h : ∀ move ts us, Alike move ts us → f us = f ts) :
    Unmoved (look f) := fun move _ _ hts => ⟨h move _ _ hts, hts⟩

theorem skip (n : Nat) : Unmoved (skip n) := fun _ _ _ hts => ⟨rfl, hts.drop n⟩

theorem many {step : TokenParser (Option α)} (h : Unmoved step) : Unmoved (many step) := by
  intro move ts us hts
  have hstep : Follows move step step (Option.map id) := by
    rw [Option.map_id]
    exact h move
  have hmany := Follows.collect hstep ts.length hts
  rw [List.map_id_fun] at hmany
  rw [TokenParser.many, TokenParser.many, ← List.Forall₂.length_eq hts]
  exact hmany

end Unmoved

end TokenParser

end SwiftTuples
