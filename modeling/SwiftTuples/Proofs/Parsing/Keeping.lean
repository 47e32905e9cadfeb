import SwiftTuples.Proofs.Parsing.Advance
/-!
# Readers that keep their place

A reader that fails says why, and the tokens it had passed over by then are forgotten. The readers
here keep their place when they fail: a cursor counts the tokens behind it, goes on by a number of
tokens whether or not there are as many, and stays where it is when the reading ends, well or badly.
They are read off the readers that run, word by word, and mirror them (`MirrorsAt`): they answer as
those do, leave the same tokens, and in every outcome the cursor stands between the place where the
reading began and the end of the tokens.
-/

namespace SwiftTuples

/-- Where a reader stands: so many tokens are behind it, and those are ahead. -/
structure Cursor where
  passed : Nat
  ahead : List Placed
deriving DecidableEq

namespace Cursor

/-- The cursor after `count` more tokens, or after the last one when there are fewer; they are
counted in any case. -/
def advance (c : Cursor) (count : Nat) : Cursor := ⟨c.passed + count, c.ahead.drop count⟩

/-- The second cursor is the first after some of the tokens ahead of it. -/
def Within (c c' : Cursor) : Prop := ∃ count ≤ c.ahead.length, c' = c.advance count

theorem Within.refl (c : Cursor) : Within c c := ⟨0, Nat.zero_le _, rfl⟩

theorem Within.trans {c c' c'' : Cursor} (h : Within c c') (h' : Within c' c'') : Within c c'' := by
  obtain ⟨count, hcount, rfl⟩ := h
  obtain ⟨more, hmore, rfl⟩ := h'
  simp only [advance, List.length_drop] at hmore
  exact ⟨count + more, by omega, by simp [advance, Nat.add_assoc]⟩

theorem within_advance {c : Cursor} {count : Nat} (h : count ≤ c.ahead.length) :
    Within c (c.advance count) := ⟨count, h, rfl⟩

/-- The tokens ahead and those behind are always as many together. -/
theorem Within.passed_add {c c' : Cursor} (h : Within c c') :
    c'.passed + c'.ahead.length = c.passed + c.ahead.length := by
  obtain ⟨count, hcount, rfl⟩ := h
  simp only [advance, List.length_drop]
  omega

end Cursor

/-- A reader that keeps its state when it fails. -/
abbrev Keeper (σ α : Type) := ExceptT ReadError (StateM σ) α

namespace Keeper

variable {σ α β : Type}

theorem bind_of_ok {q : Keeper σ α} {g : α → Keeper σ β} {s s' : σ} {a : α}
    (h : q s = (.ok a, s')) : (q >>= g) s = g a s' := by
  change (q s >>= fun x => ExceptT.bindCont g x.1 x.2 : Id _) = _
  rw [h]
  rfl

theorem bind_of_error {q : Keeper σ α} {g : α → Keeper σ β} {s s' : σ} {e : ReadError}
    (h : q s = (.error e, s')) : (q >>= g) s = (.error e, s') := by
  change (q s >>= fun x => ExceptT.bindCont g x.1 x.2 : Id _) = _
  rw [h]
  rfl

/-! ## Tokens -/

/-- Stops at the token at hand, with an error at the offset `start`. -/
def failAt (start : Option Nat) (cause : SyntaxCause) : Keeper Cursor α := fun c =>
  (.error ⟨start, cause⟩, c)

/-- Stops at the token at hand. -/
def fail (cause : SyntaxCause) : Keeper Cursor α := fun c =>
  (.error ⟨c.ahead.head?.map (·.start), cause⟩, c)

/-- Looks at the tokens and takes none. -/
def look (f : List Placed → β) : Keeper Cursor β := fun c => (.ok (f c.ahead), c)

/-- Moves the cursor on. -/
def advance (count : Nat) : Keeper Cursor Unit := fun c => (.ok (), c.advance count)

/-- The offset of the token at hand. -/
def position : Keeper Cursor Nat := look fun ts => (ts.head?.map (·.start)).getD 0

/-- Takes the character `c`, if it is at hand, and answers with its offset. -/
def eat (c : Char) : Keeper Cursor (Option Nat) := do
  if ← look (startsWith c) then
    let position ← position
    advance 1
    return some position
  else return none

/-- Takes the character `c`, if it is at hand. -/
def eats (c : Char) : Keeper Cursor Bool := Option.isSome <$> eat c

/-- Takes the character `c`, which has to be at hand. -/
def expect (c : Char) : Keeper Cursor Nat := do
  match ← eat c with
  | some position => return position
  | none => fail (.expected c)

/-- Takes a name, if one is at hand. -/
def name? : Keeper Cursor (Option String) := do
  match ← look word? with
  | some name =>
    advance 1
    return some name
  | none => return none

/-- Uses a reader if what `mark` asks for is at hand. -/
def optionally (mark : Keeper Cursor Bool) (q : Keeper Cursor α) : Keeper Cursor (Option α) := do
  if ← mark then some <$> q else return none

/-- Uses a reader up to `n` times, as long as it finds something. -/
def collect (step : Keeper Cursor (Option α)) : Nat → Keeper Cursor (List α)
  | 0 => return []
  | n + 1 => do
    match ← step with
    | some a => return a :: (← collect step n)
    | none => return []

/-- Uses a reader as long as it finds something. -/
def many (step : Keeper Cursor (Option α)) : Keeper Cursor (List α) := fun c =>
  collect step c.ahead.length c

/-- Whether the bracket is closed that is open, and how many tokens the search passes over. -/
def closeWithin (opening closing : Char) (depth braces : Nat) : List Placed → Bool × Nat
  | [] => (false, 0)
  | t :: rest =>
    if t.is '}' && braces = 0 then (false, 0)
    else
      let braces := if t.is '{' then braces + 1 else if t.is '}' then braces - 1 else braces
      if t.is opening then (closeWithin opening closing (depth + 1) braces rest).map id (· + 1)
      else if t.is closing then
        if depth ≤ 1 then (true, 1)
        else (closeWithin opening closing (depth - 1) braces rest).map id (· + 1)
      else (closeWithin opening closing depth braces rest).map id (· + 1)

/-- Passes over the bracket at hand up to the bracket that closes it, or up to where the search for
that one ends. -/
def balanced (opening closing : Char) : Keeper Cursor Unit := do
  let start ← look fun ts => ts.head?.map (·.start)
  let found ← look (closeWithin opening closing 0 0)
  advance found.2
  if found.1 then return () else failAt start (.unbalanced opening)

/-- Passes over parenthesised arguments that touch the token before them. -/
def arguments : Keeper Cursor Unit := do
  if ← look (startsTouching '(') then balanced '(' ')'

/-- Passes over angle brackets, if they are at hand. -/
def angles : Keeper Cursor Unit := do
  if ← look (startsWith '<') then balanced '<' '>'

/-- Takes an attribute, passing over its arguments. -/
def attribute? : Keeper Cursor (Option String) := do
  match ← look fun ts => if startsWith '@' ts then word? ts.tail else none with
  | some name =>
    advance 2
    arguments
    return some name
  | none => return none

/-! ## Types -/

/-- Whether a default value ends, and how many tokens the search for its end passes over. -/
def defaultWithin (pending : Nat) : List Placed → Bool × Nat
  | [] => (false, 0)
  | t :: rest =>
    if t.opens then (defaultWithin (pending + 1) rest).map id (· + 1)
    else if t.closes && 0 < pending then (defaultWithin (pending - 1) rest).map id (· + 1)
    else if pending = 0 && (t.is ',' || t.is ')') then (true, 0)
    else if t.closes then (false, 0)
    else (defaultWithin pending rest).map id (· + 1)

/-- Passes over a default value, if one is at hand. -/
def defaultValue : Keeper Cursor Unit := do
  if ← look (startsWith '=') then
    let start ← look fun ts => ts.head?.map (·.start)
    let found ← look (defaultWithin 0)
    advance found.2
    if found.1 then return () else failAt start .unterminatedDefault

/-- The tokens start with three dots. -/
def startsWithDots (ts : List Placed) : Bool :=
  startsWith '.' ts && startsWith '.' (ts.drop 1) && startsWith '.' (ts.drop 2)

/-- Passes over the three dots of a variadic element. -/
def dots : Keeper Cursor Unit := do
  if ← look startsWithDots then advance 3

/-- Passes over the three dots of a variadic element and over a default value. -/
def trailer : Keeper Cursor Unit := do
  dots
  defaultValue

/-- Takes the label of an element, if there is one: one or two names, and a colon. -/
def label? : Keeper Cursor (Option Label) := do
  match ← look TokenParser.labelAt with
  | some (label, _) =>
    advance (if label.second.isSome then 3 else 2)
    return some label
  | none => return none

/-- Takes a specifier. A word is one only if a type can follow it. -/
def specifier? : Keeper Cursor (Option Specifier) := do
  match ← attribute? with
  | some name => return some (.attribute name)
  | none =>
    if ← look fun ts => startsWith '~' ts && startsWithWord ts.tail then
      advance 1
      return some .suppression
    else
      match ← look word? with
      | some word =>
        if Specifier.words.contains word &&
            (← look fun ts => TokenParser.startsSpecified ts.tail) then
          advance 1
          return some (.word word)
        else return none
      | none => return none

/-- Takes an effect, passing over the type of what is thrown. -/
def effect? : Keeper Cursor (Option TokenParser.Effect) := do
  match (← look word?).bind TokenParser.Effect.ofWord? with
  | some .async =>
    advance 1
    return some .async
  | some .throws =>
    advance 1
    arguments
    return some .throws
  | none => return none

/-- Takes all effects at hand. -/
def effects : Keeper Cursor Effects := do
  let found ← many effect?
  return ⟨found.contains .async, found.contains .throws⟩

/-- Takes an arrow, if it is at hand. -/
def arrow : Keeper Cursor Bool := do
  if ← look fun ts => ts.head?.any (·.kind = .arrow) then
    advance 1
    return true
  else return false

/-- Takes the mark of an optional type, which touches the type. -/
def optionalMark? : Keeper Cursor (Option OptionalMark) := do
  if ← look (startsTouching '?') then
    advance 1
    return some .question
  else if ← look (startsTouching '!') then
    advance 1
    return some .exclamation
  else return none

/-- Takes a dot and the name after it. -/
def memberName? : Keeper Cursor (Option String) := do
  match ← look fun ts => if startsWith '.' ts then word? ts.tail else none with
  | some name =>
    advance 2
    return some name
  | none => return none

mutual

/-- A type with its specifiers. -/
def typeExpr : Nat → Keeper Cursor TypeExpr
  | 0 => fail .tooDeep
  | n + 1 => do
    let position ← position
    let specifiers ← many specifier?
    let base ← composition n
    return if specifiers.isEmpty then base else .attributed position specifiers base

/-- Types joined by `&`. -/
def composition : Nat → Keeper Cursor TypeExpr
  | 0 => fail .tooDeep
  | n + 1 => do
    let position ← position
    let first ← suffixed n
    match ← conjuncts n with
    | [] => return first
    | others => return .composition position (first :: others)

/-- The parts of a composition after the first. -/
def conjuncts : Nat → Keeper Cursor (List TypeExpr)
  | 0 => fail .tooDeep
  | n + 1 => do
    if ← eats '&' then
      let part ← suffixed n
      return part :: (← conjuncts n)
    else return []

/-- A type with its suffixes. -/
def suffixed : Nat → Keeper Cursor TypeExpr
  | 0 => fail .tooDeep
  | n + 1 => do
    let position ← position
    let base ← primary n
    suffixes n position base

/-- The suffixes of a type that starts at `position`. -/
def suffixes : Nat → Nat → TypeExpr → Keeper Cursor TypeExpr
  | 0, _, _ => fail .tooDeep
  | n + 1, position, base => do
    match ← optionalMark? with
    | some mark => suffixes n position (.optional position base mark)
    | none =>
      match ← memberName? with
      | some name =>
        let arguments ← genericArguments n
        suffixes n position (.member position base name arguments)
      | none => return base

/-- A name, a parenthesised list, an array or a dictionary. -/
def primary : Nat → Keeper Cursor TypeExpr
  | 0 => fail .tooDeep
  | n + 1 => do
    let position ← position
    match ← name? with
    | some name => return .named position name (← genericArguments n)
    | none =>
      if ← eats '(' then parenthesized n position
      else if ← eats '[' then bracketed n position
      else fail .expectedType

/-- A tuple or a function type, its parenthesis having been taken. -/
def parenthesized : Nat → Nat → Keeper Cursor TypeExpr
  | 0, _ => fail .tooDeep
  | n + 1, position => do
    let elements ← elements n
    if ← look TokenParser.startsFunction then
      let effects ← effects
      if ← arrow then
        return .function position elements effects (← typeExpr n)
      else fail .expectedArrow
    else return .tuple position elements

/-- An array or a dictionary, its bracket having been taken. -/
def bracketed : Nat → Nat → Keeper Cursor TypeExpr
  | 0, _ => fail .tooDeep
  | n + 1, position => do
    let first ← typeExpr n
    let value ← optionally (eats ':') (typeExpr n)
    let _ ← expect ']'
    match value with
    | some value => return .dictionary position first value
    | none => return .array position first

/-- The generic arguments of a name, whose bracket touches it. -/
def genericArguments : Nat → Keeper Cursor (List TypeExpr)
  | 0 => fail .tooDeep
  | n + 1 => do
    if ← look (startsTouching '<') then
      advance 1
      let arguments ← types n
      let _ ← expect '>'
      return arguments
    else return []

/-- Types between commas. -/
def types : Nat → Keeper Cursor (List TypeExpr)
  | 0 => fail .tooDeep
  | n + 1 => do
    let first ← typeExpr n
    if ← eats ',' then return first :: (← types n)
    else return [first]

/-- The elements of a parenthesised list and the parenthesis after them. -/
def elements : Nat → Keeper Cursor (List (Element TypeExpr))
  | 0 => fail .tooDeep
  | n + 1 => do
    if ← eats ')' then return []
    let label ← label?
    let type ← typeExpr n
    trailer
    if ← eats ',' then return ⟨label, type⟩ :: (← elements n)
    else if ← eats ')' then return [⟨label, type⟩]
    else fail .openTupleList

end

/-! ## Mirroring -/

/-- From the cursor `c` on `q` answers as `p` does, leaves the same tokens if it answers at all, and
the cursor stays within the tokens ahead of `c` in any case. -/
structure MirrorsAt (q : Keeper Cursor α) (p : TokenParser α) (c : Cursor) : Prop where
  answer : (q c).1.map (·, (q c).2.ahead) = p c.ahead
  within : c.Within (q c).2

/-- `q` mirrors `p` wherever the cursor stands. -/
def Mirrors (q : Keeper Cursor α) (p : TokenParser α) : Prop := ∀ c, MirrorsAt q p c

namespace MirrorsAt

variable {q q' : Keeper Cursor α} {p p' : TokenParser α} {c : Cursor}

theorem answer_ok (h : MirrorsAt q p c) {a : α} {c' : Cursor} (hq : q c = (.ok a, c')) :
    p c.ahead = .ok (a, c'.ahead) := by
  rw [← h.answer, hq]
  rfl

theorem answer_error (h : MirrorsAt q p c) {e : ReadError} {c' : Cursor}
    (hq : q c = (.error e, c')) : p c.ahead = .error e := by
  rw [← h.answer, hq]
  rfl

/-- **Sequences mirror sequences.** -/
theorem bind {g : α → Keeper Cursor β} {f : α → TokenParser β} (h : MirrorsAt q p c)
    (hg : ∀ a c', q c = (.ok a, c') → MirrorsAt (g a) (f a) c') :
    MirrorsAt (q >>= g) (p >>= f) c := by
  rcases hq : q c with ⟨e | a, c'⟩
  · refine ⟨?_, ?_⟩
    · rw [bind_of_error hq, TokenParser.bind_apply, h.answer_error hq]
      rfl
    · rw [bind_of_error hq]
      have := h.within
      rwa [hq] at this
  · have hrest := hg a c' hq
    refine ⟨?_, ?_⟩
    · rw [bind_of_ok hq, TokenParser.bind_of_eq_ok (h.answer_ok hq)]
      exact hrest.answer
    · rw [bind_of_ok hq]
      have := h.within
      rw [hq] at this
      exact this.trans hrest.within

theorem pure {a : α} : MirrorsAt (pure a : Keeper Cursor α) (pure a : TokenParser α) c :=
  ⟨rfl, .refl c⟩

theorem fail {cause : SyntaxCause} :
    MirrorsAt (Keeper.fail cause : Keeper Cursor α) (TokenParser.fail cause) c := ⟨rfl, .refl c⟩

theorem look_bind {f : List Placed → β} {g : β → Keeper Cursor α} {r : β → TokenParser α}
    (h : MirrorsAt (g (f c.ahead)) (r (f c.ahead)) c) :
    MirrorsAt (look f >>= g) (TokenParser.look f >>= r) c := ⟨h.answer, h.within⟩

/-- The cursor goes on by tokens that are there. -/
theorem advance {count : Nat} (h : count ≤ c.ahead.length) :
    MirrorsAt (Keeper.advance count) (TokenParser.skip count) c :=
  ⟨rfl, Cursor.within_advance h⟩

theorem map {g : α → β} (h : MirrorsAt q p c) : MirrorsAt (g <$> q) (g <$> p) c :=
  h.bind fun _ _ _ => .pure

theorem ite {b : Prop} [Decidable b] (h : b → MirrorsAt q p c) (h' : ¬ b → MirrorsAt q' p' c) :
    MirrorsAt (if b then q else q') (if b then p else p') c := by
  split
  · next hb => exact h hb
  · next hb => exact h' hb

end MirrorsAt

/-! ## Tokens that are looked at are there -/

section ahead

variable {ts : List Placed} {c : Char}

theorem one_le_of_startsWith (h : startsWith c ts) : 1 ≤ ts.length :=
  List.length_pos_iff.2 (TokenParser.ne_nil_of_startsWith h)

theorem one_le_of_startsTouching (h : startsTouching c ts) : 1 ≤ ts.length :=
  List.length_pos_iff.2 (TokenParser.ne_nil_of_startsTouching h)

theorem one_le_of_word? {word : String} (h : word? ts = some word) : 1 ≤ ts.length :=
  List.length_pos_iff.2 (TokenParser.ne_nil_of_word? h)

/-- A name after a character is a second token. -/
theorem two_le_of_wordAfter {word : String}
    (h : (if startsWith c ts then word? ts.tail else none) = some word) : 2 ≤ ts.length := by
  split at h
  · have hword := one_le_of_word? h
    rw [List.length_tail] at hword
    omega
  · cases h

end ahead

/-! ## Readers of tokens -/

theorem eat_eq (c : Char) : TokenParser.eat c = do
    if ← TokenParser.look (startsWith c) then
      let position ← TokenParser.position
      TokenParser.skip 1
      return some position
    else return none := by
  funext ts
  cases ts with
  | nil => rfl
  | cons t ts =>
    change (if t.is c then _ else _) =
      (if t.is c then _ else _ : TokenParser (Option Nat)) (t :: ts)
    split <;> rfl

theorem mirrors_eat (c : Char) : Mirrors (eat c) (TokenParser.eat c) := by
  rw [eat_eq]
  refine fun cursor => .look_bind (.ite (fun h => .look_bind ?_) fun _ => .pure)
  exact (MirrorsAt.advance (one_le_of_startsWith h)).bind fun _ _ _ => .pure

theorem mirrors_eats (c : Char) : Mirrors (eats c) (TokenParser.eats c) :=
  fun cursor => (mirrors_eat c cursor).map

theorem mirrors_expect (c : Char) : Mirrors (expect c) (TokenParser.expect c) := by
  intro cursor
  refine (mirrors_eat c cursor).bind fun found _ _ => ?_
  cases found with
  | some position => exact .pure
  | none => exact .fail

theorem name?_eq : TokenParser.name? = do
    match ← TokenParser.look word? with
    | some name =>
      TokenParser.skip 1
      return some name
    | none => return none := by
  funext ts
  cases ts with
  | nil => rfl
  | cons t ts =>
    change (match t.name? with | some _ => _ | none => _) =
      (match t.name? with | some _ => _ | none => _ : TokenParser (Option String)) (t :: ts)
    cases t.name? <;> rfl

theorem mirrors_name? : Mirrors name? TokenParser.name? := by
  rw [name?_eq]
  refine fun c => .look_bind ?_
  cases hname : word? c.ahead with
  | some name => exact (MirrorsAt.advance (one_le_of_word? hname)).bind fun _ _ _ => .pure
  | none => exact .pure

theorem mirrors_optionally {mark : Keeper Cursor Bool} {mark' : TokenParser Bool}
    {q : Keeper Cursor α} {p : TokenParser α} (hmark : Mirrors mark mark') (h : Mirrors q p) :
    Mirrors (optionally mark q) (TokenParser.optionally mark' p) := by
  intro cursor
  exact (hmark cursor).bind fun found c _ => .ite (fun _ => (h c).map) fun _ => .pure

theorem mirrors_collect {step : Keeper Cursor (Option α)} {step' : TokenParser (Option α)}
    (h : Mirrors step step') (n : Nat) :
    Mirrors (collect step n) (TokenParser.collect step' n) := by
  induction n with
  | zero => exact fun _ => .pure
  | succ n ih =>
    refine fun cursor => (h cursor).bind fun found c _ => ?_
    cases found with
    | some a => exact (ih c).bind fun _ _ _ => .pure
    | none => exact .pure

theorem mirrors_many {step : Keeper Cursor (Option α)} {step' : TokenParser (Option α)}
    (h : Mirrors step step') : Mirrors (many step) (TokenParser.many step') := by
  intro cursor
  have hcollect := mirrors_collect h cursor.ahead.length cursor
  exact ⟨hcollect.answer, hcollect.within⟩

/-- The search for a bracket goes over tokens that are there, and up to where it succeeds. -/
theorem closeWithin_spec (opening closing : Char) (start : Option Nat) (depth braces : Nat)
    (ts : List Placed) : (closeWithin opening closing depth braces ts).2 ≤ ts.length ∧
      TokenParser.closeFrom opening closing start depth braces ts =
        if (closeWithin opening closing depth braces ts).1 then
          .ok (ts.drop (closeWithin opening closing depth braces ts).2)
        else .error ⟨start, .unbalanced opening⟩ := by
  fun_induction closeWithin opening closing depth braces ts with
  | case1 => exact ⟨Nat.le_refl _, rfl⟩
  | case2 depth braces t rest hbrace =>
    rw [TokenParser.closeFrom, if_pos hbrace]
    exact ⟨Nat.zero_le _, rfl⟩
  | case3 depth braces t rest hbrace inside hopen ih =>
    rw [TokenParser.closeFrom, if_neg hbrace]
    dsimp only
    rw [if_pos hopen]
    exact ⟨Nat.succ_le_succ ih.1, ih.2⟩
  | case4 depth braces t rest hbrace hopen hclose hdepth =>
    rw [TokenParser.closeFrom, if_neg hbrace]
    dsimp only
    rw [if_neg hopen, if_pos hclose, if_pos hdepth]
    exact ⟨Nat.succ_le_succ (Nat.zero_le _), rfl⟩
  | case5 depth braces t rest hbrace inside hopen hclose hdepth ih =>
    rw [TokenParser.closeFrom, if_neg hbrace]
    dsimp only
    rw [if_neg hopen, if_pos hclose, if_neg hdepth]
    exact ⟨Nat.succ_le_succ ih.1, ih.2⟩
  | case6 depth braces t rest hbrace inside hopen hclose ih =>
    rw [TokenParser.closeFrom, if_neg hbrace]
    dsimp only
    rw [if_neg hopen, if_neg hclose]
    exact ⟨Nat.succ_le_succ ih.1, ih.2⟩

theorem balanced_eq (opening closing : Char) (c : Cursor) : balanced opening closing c =
    (if (closeWithin opening closing 0 0 c.ahead).1 then .ok ()
      else .error ⟨c.ahead.head?.map (·.start), .unbalanced opening⟩,
      c.advance (closeWithin opening closing 0 0 c.ahead).2) := by
  have h : balanced opening closing c =
      (if (closeWithin opening closing 0 0 c.ahead).1 then pure () else
        failAt (c.ahead.head?.map (·.start)) (.unbalanced opening) : Keeper Cursor Unit)
          (c.advance (closeWithin opening closing 0 0 c.ahead).2) := rfl
  rw [h]
  split <;> rfl

theorem mirrors_balanced (opening closing : Char) :
    Mirrors (balanced opening closing) (TokenParser.balanced opening closing) := by
  intro c
  obtain ⟨hcount, hclose⟩ :=
    closeWithin_spec opening closing (c.ahead.head?.map (·.start)) 0 0 c.ahead
  refine ⟨?_, ?_⟩
  · rw [balanced_eq, TokenParser.balanced, hclose]
    cases (closeWithin opening closing 0 0 c.ahead).1 <;> rfl
  · rw [balanced_eq]
    exact Cursor.within_advance hcount

theorem mirrors_arguments : Mirrors arguments TokenParser.arguments := fun c =>
  .look_bind (.ite (fun _ => mirrors_balanced _ _ c) fun _ => .pure)

theorem mirrors_angles : Mirrors angles TokenParser.angles := fun c =>
  .look_bind (.ite (fun _ => mirrors_balanced _ _ c) fun _ => .pure)

theorem mirrors_attribute? : Mirrors attribute? TokenParser.attribute? := by
  refine fun c => .look_bind ?_
  cases hname : if startsWith '@' c.ahead then word? c.ahead.tail else none with
  | some name =>
    refine (MirrorsAt.advance (two_le_of_wordAfter hname)).bind fun _ c' _ => ?_
    exact (mirrors_arguments c').bind fun _ _ _ => .pure
  | none => exact .pure

/-! ## Parts of types -/

/-- The search for the end of a default value goes over tokens that are there, and up to where it
succeeds. -/
theorem defaultWithin_spec (start : Option Nat) (pending : Nat) (ts : List Placed) :
    (defaultWithin pending ts).2 ≤ ts.length ∧
      TokenParser.defaultEnd start pending ts =
        if (defaultWithin pending ts).1 then .ok (ts.drop (defaultWithin pending ts).2)
        else .error ⟨start, .unterminatedDefault⟩ := by
  fun_induction defaultWithin pending ts with
  | case1 => exact ⟨Nat.le_refl _, rfl⟩
  | case2 pending t rest hopens ih =>
    rw [TokenParser.defaultEnd, if_pos hopens]
    exact ⟨Nat.succ_le_succ ih.1, ih.2⟩
  | case3 pending t rest hopens hcloses ih =>
    rw [TokenParser.defaultEnd, if_neg hopens, if_pos hcloses]
    exact ⟨Nat.succ_le_succ ih.1, ih.2⟩
  | case4 pending t rest hopens hcloses hend =>
    rw [TokenParser.defaultEnd, if_neg hopens, if_neg hcloses, if_pos hend]
    exact ⟨Nat.zero_le _, rfl⟩
  | case5 pending t rest hopens hcloses hend hstray =>
    rw [TokenParser.defaultEnd, if_neg hopens, if_neg hcloses, if_neg hend, if_pos hstray]
    exact ⟨Nat.zero_le _, rfl⟩
  | case6 pending t rest hopens hcloses hend hstray ih =>
    rw [TokenParser.defaultEnd, if_neg hopens, if_neg hcloses, if_neg hend, if_neg hstray]
    exact ⟨Nat.succ_le_succ ih.1, ih.2⟩

/-- What the trailer of an element passes over after the dots. -/
def pastDefault : TokenParser Unit := fun ts =>
  if startsWith '=' ts then
    match TokenParser.defaultEnd (ts.head?.map (·.start)) 0 ts with
    | .ok rest => .ok ((), rest)
    | .error e => .error e
  else .ok ((), ts)

theorem mirrors_defaultValue : Mirrors defaultValue pastDefault := by
  intro c
  have hvalue : defaultValue c = (if startsWith '=' c.ahead then
      (if (defaultWithin 0 c.ahead).1 then pure () else
        failAt (c.ahead.head?.map (·.start)) .unterminatedDefault : Keeper Cursor Unit)
          (c.advance (defaultWithin 0 c.ahead).2)
      else (.ok (), c)) := by
    change (if startsWith '=' c.ahead then _ else _ : Keeper Cursor Unit) c = _
    split <;> rfl
  obtain ⟨hcount, hend⟩ := defaultWithin_spec (c.ahead.head?.map (·.start)) 0 c.ahead
  refine ⟨?_, ?_⟩
  · rw [hvalue, pastDefault, hend]
    cases startsWith '=' c.ahead with
    | false => rfl
    | true => cases (defaultWithin 0 c.ahead).1 <;> rfl
  · rw [hvalue]
    cases startsWith '=' c.ahead with
    | false => exact .refl c
    | true => cases (defaultWithin 0 c.ahead).1 <;> exact Cursor.within_advance hcount

/-- What the trailer of an element passes over first. -/
def pastDots : TokenParser Unit := do
  if ← TokenParser.look startsWithDots then TokenParser.skip 3

theorem mirrors_dots : Mirrors dots pastDots := by
  refine fun c => .look_bind (.ite (fun h => ?_) fun _ => .pure)
  have hthree := one_le_of_startsWith (Bool.and_eq_true_iff.1 h).2
  rw [List.length_drop] at hthree
  exact .advance (by omega)

theorem trailer_eq : TokenParser.trailer = pastDots >>= fun _ => pastDefault := by
  funext ts
  have hdots : pastDots ts = .ok ((), if startsWithDots ts then ts.drop 3 else ts) := by
    change (if startsWithDots ts then TokenParser.skip 3 else pure ()) ts = _
    split <;> rfl
  rw [TokenParser.bind_of_eq_ok hdots]
  rfl

theorem mirrors_trailer : Mirrors trailer TokenParser.trailer := by
  rw [trailer_eq]
  exact fun c => (mirrors_dots c).bind fun _ c _ => mirrors_defaultValue c

/-- A label takes a token for each name and one for its colon. -/
theorem labelAt_eq_some {ts rest : List Placed} {label : Label}
    (h : TokenParser.labelAt ts = some (label, rest)) :
    (if label.second.isSome then 3 else 2) ≤ ts.length ∧
      rest = ts.drop (if label.second.isSome then 3 else 2) := by
  unfold TokenParser.labelAt at h
  split at h
  · split at h
    · cases h
    · split at h
      · cases h
        exact ⟨by simp, rfl⟩
      · split at h
        · split at h
          · cases h
            exact ⟨by simp, rfl⟩
          · cases h
        · cases h
  · cases h

theorem label?_eq : TokenParser.label? = do
    match ← TokenParser.look TokenParser.labelAt with
    | some (label, _) =>
      TokenParser.skip (if label.second.isSome then 3 else 2)
      return some label
    | none => return none := by
  funext ts
  rw [TokenParser.label?]
  cases hlabel : TokenParser.labelAt ts with
  | none =>
    change _ = (match TokenParser.labelAt ts with | some (_, _) => _ | none => _ : TokenParser _) ts
    rw [hlabel]
    rfl
  | some found =>
    obtain ⟨label, rest⟩ := found
    obtain ⟨-, rfl⟩ := labelAt_eq_some hlabel
    change _ = (match TokenParser.labelAt ts with | some (_, _) => _ | none => _ : TokenParser _) ts
    rw [hlabel]
    rfl

theorem mirrors_label? : Mirrors label? TokenParser.label? := by
  rw [label?_eq]
  refine fun c => .look_bind ?_
  cases hlabel : TokenParser.labelAt c.ahead with
  | none => exact .pure
  | some found => exact (MirrorsAt.advance (labelAt_eq_some hlabel).1).bind fun _ _ _ => .pure

theorem mirrors_specifier? : Mirrors specifier? TokenParser.specifier? := by
  refine fun c => (mirrors_attribute? c).bind fun found c _ => ?_
  cases found with
  | some name => exact .pure
  | none =>
    refine .look_bind (.ite (fun h => ?_) fun _ => .look_bind ?_)
    · have hone := one_le_of_startsWith (Bool.and_eq_true_iff.1 h).1
      exact (MirrorsAt.advance hone).bind fun _ _ _ => .pure
    · cases hword : word? c.ahead with
      | some word =>
        refine .look_bind (.ite (fun _ => ?_) fun _ => .pure)
        exact (MirrorsAt.advance (one_le_of_word? hword)).bind fun _ _ _ => .pure
      | none => exact .pure

theorem mirrors_effect? : Mirrors effect? TokenParser.effect? := by
  refine fun c => .look_bind ?_
  cases hword : word? c.ahead with
  | none => exact .pure
  | some word =>
    have hone := one_le_of_word? hword
    cases heffect : (some word).bind TokenParser.Effect.ofWord? with
    | none => exact .pure
    | some effect =>
      cases effect with
      | async => exact (MirrorsAt.advance hone).bind fun _ _ _ => .pure
      | throws =>
        refine (MirrorsAt.advance hone).bind fun _ c _ => ?_
        exact (mirrors_arguments c).bind fun _ _ _ => .pure

theorem mirrors_effects : Mirrors effects TokenParser.effects := fun c =>
  (mirrors_many mirrors_effect? c).bind fun _ _ _ => .pure

theorem arrow_eq : TokenParser.arrow = do
    if ← TokenParser.look fun ts => ts.head?.any (·.kind = .arrow) then
      TokenParser.skip 1
      return true
    else return false := by
  funext ts
  cases ts with
  | nil => rfl
  | cons t ts =>
    change (if t.kind = .arrow then _ else _) =
      (if decide (t.kind = .arrow) = true then _ else _ : TokenParser Bool) (t :: ts)
    simp only [decide_eq_true_eq]
    split <;> rfl

theorem mirrors_arrow : Mirrors arrow TokenParser.arrow := by
  rw [arrow_eq]
  refine fun c => .look_bind (.ite (fun h => ?_) fun _ => .pure)
  have hone : 1 ≤ c.ahead.length := by
    cases hahead : c.ahead with
    | nil => simp [hahead] at h
    | cons t ts => simp
  exact (MirrorsAt.advance hone).bind fun _ _ _ => .pure

theorem mirrors_optionalMark? : Mirrors optionalMark? TokenParser.optionalMark? := by
  refine fun c => .look_bind (.ite (fun h => ?_) fun _ =>
    .look_bind (.ite (fun h => ?_) fun _ => .pure))
  · exact (MirrorsAt.advance (one_le_of_startsTouching h)).bind fun _ _ _ => .pure
  · exact (MirrorsAt.advance (one_le_of_startsTouching h)).bind fun _ _ _ => .pure

theorem mirrors_memberName? : Mirrors memberName? TokenParser.memberName? := by
  refine fun c => .look_bind ?_
  cases hname : if startsWith '.' c.ahead then word? c.ahead.tail else none with
  | some name => exact (MirrorsAt.advance (two_le_of_wordAfter hname)).bind fun _ _ _ => .pure
  | none => exact .pure

/-! ## Types -/

/-- The readers of types at bound `n` mirror those that run. -/
structure TypeReadersMirror (n : Nat) : Prop where
  typeExpr : Mirrors (typeExpr n) (TokenParser.typeExpr n)
  composition : Mirrors (composition n) (TokenParser.composition n)
  conjuncts : Mirrors (conjuncts n) (TokenParser.conjuncts n)
  suffixed : Mirrors (suffixed n) (TokenParser.suffixed n)
  suffixes : ∀ position base,
    Mirrors (suffixes n position base) (TokenParser.suffixes n position base)
  primary : Mirrors (primary n) (TokenParser.primary n)
  parenthesized : ∀ position,
    Mirrors (parenthesized n position) (TokenParser.parenthesized n position)
  bracketed : ∀ position, Mirrors (bracketed n position) (TokenParser.bracketed n position)
  genericArguments : Mirrors (genericArguments n) (TokenParser.genericArguments n)
  types : Mirrors (types n) (TokenParser.types n)
  elements : Mirrors (elements n) (TokenParser.elements n)

namespace TypeReadersMirror

variable {n : Nat} (h : TypeReadersMirror n)
include h

theorem succ_typeExpr : Mirrors (Keeper.typeExpr (n + 1)) (TokenParser.typeExpr (n + 1)) := by
  refine fun c => .look_bind ((mirrors_many mirrors_specifier? c).bind fun specifiers c _ => ?_)
  exact (h.composition c).bind fun _ _ _ => .pure

theorem succ_composition :
    Mirrors (Keeper.composition (n + 1)) (TokenParser.composition (n + 1)) := by
  refine fun c => .look_bind ((h.suffixed c).bind fun first c _ => ?_)
  refine (h.conjuncts c).bind fun others _ _ => ?_
  cases others <;> exact .pure

theorem succ_conjuncts : Mirrors (Keeper.conjuncts (n + 1)) (TokenParser.conjuncts (n + 1)) := by
  refine fun c => (mirrors_eats '&' c).bind fun joined c _ => .ite (fun _ => ?_) fun _ => .pure
  refine (h.suffixed c).bind fun part c _ => ?_
  exact (h.conjuncts c).bind fun _ _ _ => .pure

theorem succ_suffixed : Mirrors (Keeper.suffixed (n + 1)) (TokenParser.suffixed (n + 1)) := by
  refine fun c => .look_bind ((h.primary c).bind fun base c _ => ?_)
  exact h.suffixes _ base c

theorem succ_suffixes (position : Nat) (base : TypeExpr) :
    Mirrors (Keeper.suffixes (n + 1) position base)
      (TokenParser.suffixes (n + 1) position base) := by
  refine fun c => (mirrors_optionalMark? c).bind fun mark c _ => ?_
  cases mark with
  | some mark => exact h.suffixes position _ c
  | none =>
    refine (mirrors_memberName? c).bind fun name c _ => ?_
    cases name with
    | some name =>
      exact (h.genericArguments c).bind fun arguments c _ => h.suffixes position _ c
    | none => exact .pure

theorem succ_primary : Mirrors (Keeper.primary (n + 1)) (TokenParser.primary (n + 1)) := by
  refine fun c => .look_bind ((mirrors_name? c).bind fun name c _ => ?_)
  cases name with
  | some name => exact (h.genericArguments c).bind fun _ _ _ => .pure
  | none =>
    refine (mirrors_eats '(' c).bind fun paren c _ =>
      .ite (fun _ => h.parenthesized _ c) fun _ => ?_
    exact (mirrors_eats '[' c).bind fun bracket c _ =>
      .ite (fun _ => h.bracketed _ c) fun _ => .fail

theorem succ_parenthesized (position : Nat) :
    Mirrors (Keeper.parenthesized (n + 1) position)
      (TokenParser.parenthesized (n + 1) position) := by
  refine fun c => (h.elements c).bind fun elements c _ => ?_
  refine .look_bind (.ite (fun _ => ?_) fun _ => .pure)
  refine (mirrors_effects c).bind fun effects c _ => ?_
  refine (mirrors_arrow c).bind fun hasArrow c _ => .ite (fun _ => ?_) fun _ => .fail
  exact (h.typeExpr c).bind fun _ _ _ => .pure

theorem succ_bracketed (position : Nat) :
    Mirrors (Keeper.bracketed (n + 1) position) (TokenParser.bracketed (n + 1) position) := by
  refine fun c => (h.typeExpr c).bind fun first c _ => ?_
  refine (mirrors_optionally (mirrors_eats ':') h.typeExpr c).bind fun value c _ => ?_
  refine (mirrors_expect ']' c).bind fun _ _ _ => ?_
  cases value <;> exact .pure

theorem succ_genericArguments :
    Mirrors (Keeper.genericArguments (n + 1)) (TokenParser.genericArguments (n + 1)) := by
  refine fun c => .look_bind (.ite (fun hopen => ?_) fun _ => .pure)
  refine (MirrorsAt.advance (one_le_of_startsTouching hopen)).bind fun _ c _ => ?_
  refine (h.types c).bind fun _ c _ => ?_
  exact (mirrors_expect '>' c).bind fun _ _ _ => .pure

theorem succ_types : Mirrors (Keeper.types (n + 1)) (TokenParser.types (n + 1)) := by
  refine fun c => (h.typeExpr c).bind fun first c _ => ?_
  refine (mirrors_eats ',' c).bind fun goesOn c _ => .ite (fun _ => ?_) fun _ => .pure
  exact (h.types c).bind fun _ _ _ => .pure

theorem succ_elements : Mirrors (Keeper.elements (n + 1)) (TokenParser.elements (n + 1)) := by
  refine fun c => (mirrors_eats ')' c).bind fun closed c _ => .ite (fun _ => .pure) fun _ => ?_
  refine (mirrors_label? c).bind fun label c _ => ?_
  refine (h.typeExpr c).bind fun type c _ => ?_
  refine (mirrors_trailer c).bind fun _ c _ => ?_
  refine (mirrors_eats ',' c).bind fun goesOn c _ => .ite (fun _ => ?_) fun _ => ?_
  · exact (h.elements c).bind fun _ _ _ => .pure
  · exact (mirrors_eats ')' c).bind fun closed _ _ => .ite (fun _ => .pure) fun _ => .fail

theorem succ : TypeReadersMirror (n + 1) where
  typeExpr := h.succ_typeExpr
  composition := h.succ_composition
  conjuncts := h.succ_conjuncts
  suffixed := h.succ_suffixed
  suffixes := h.succ_suffixes
  primary := h.succ_primary
  parenthesized := h.succ_parenthesized
  bracketed := h.succ_bracketed
  genericArguments := h.succ_genericArguments
  types := h.succ_types
  elements := h.succ_elements

end TypeReadersMirror

/-- **The readers of types that keep their place mirror those that run**, whatever their bound. -/
theorem typeReadersMirror (n : Nat) : TypeReadersMirror n := by
  induction n with
  | zero =>
    -- at bound 0 both fail where they stand
    constructor <;> intros <;> exact fun _ => .fail
  | succ n ih => exact ih.succ

end Keeper

end SwiftTuples
