import SwiftTuples.Proofs.Parsing.Taking
import SwiftTuples.Proofs.Parsing.Throughout
/-!
# Phrases of types

What the readers of types accept, as a grammar over tokens: `Phrase part used rest` says that the
tokens `used`, standing before the tokens `rest`, are written out as `part`. The tokens after a
phrase matter, because a reader goes on as long as it can; each constructor says where it stopped.

Three things follow by induction on a phrase: where its type begins (`Phrase.startsAt`), what
cannot come after it (`Phrase.ends`), and that the types inside are phrases inside it
(`Phrase.inside`).
-/

namespace SwiftTuples

open TokenParser

/-! ## Repetition -/

/-- The tokens of one thing after the other, those of each being as `R` says. -/
inductive Chained {α : Type} (R : α → List Placed → Prop) : List α → List Placed → Prop
  | nil : Chained R [] []
  | cons {a : α} {as : List α} {used more : List Placed} (first : R a used)
      (others : Chained R as more) : Chained R (a :: as) (used ++ more)

/-- Where some things stand in a row, each taking a token, there are tokens. -/
theorem Chained.ne_nil {α : Type} {R : α → List Placed → Prop} {as : List α} {used : List Placed}
    (h : Chained R as used) (hne : as ≠ []) (hR : ∀ a used, R a used → used ≠ []) : used ≠ [] := by
  cases h with
  | nil => exact absurd rfl hne
  | cons first _ => simp [hR _ _ first]

/-- What is found is written as `R` says, and where nothing is found nothing is taken. -/
inductive Found {α : Type} (R : α → List Placed → Prop) : Option α → List Placed → Prop
  | some {a : α} {used : List Placed} (written : R a used) : Found R (some a) used
  | none : Found R none []

/-- What a parser finds again and again stands in a row. -/
theorem TokenParser.takes_many {α : Type} {step : TokenParser (Option α)}
    {R : α → List Placed → Prop} (h : Takes step (Found R)) : Takes (many step) (Chained R) := by
  suffices ∀ n, Takes (collect step n) (Chained R) from fun ts => this ts.length ts
  intro n
  induction n with
  | zero => exact fun _ => .pure .nil
  | succ n ih =>
    refine fun ts => (h ts).bind fun found used rest _ hfound => ?_
    cases hfound with
    | some written => exact (ih rest).bind fun _ _ _ _ hmore => .pure (by
        simpa using hmore.cons written)
    | none => exact .pure .nil

/-! ## Words around a type -/

/-- Arguments in parentheses that touch the token before them, or nothing. -/
def IsArguments (used : List Placed) : Prop := used = [] ∨ startsTouching '(' used

/-- How a specifier is written. -/
inductive Specifier.Written : Specifier → List Placed → Prop
  | signed {sign word : Placed} {name : String} {arguments : List Placed}
      (marked : sign.is '@') (named : word.name? = some name) (after : IsArguments arguments) :
      Written (.attribute name) (sign :: word :: arguments)
  | suppression {sign : Placed} (marked : sign.is '~') : Written .suppression [sign]
  | word {word : Placed} {text : String} (named : word.name? = some text)
      (specifying : text ∈ Specifier.words) : Written (.word text) [word]

/-- How an effect is written. -/
inductive TokenParser.Effect.Written : Effect → List Placed → Prop
  | async {word : Placed} (named : word.name? = some "async") : Written .async [word]
  | throws {word : Placed} {name : String} {arguments : List Placed}
      (named : word.name? = some name) (throwing : name = "throws" ∨ name = "rethrows")
      (after : IsArguments arguments) : Written .throws (word :: arguments)

/-- How the label of an element is written before the tokens `rest`. -/
inductive Labelled : Option Label → List Placed → List Placed → Prop
  | unlabelled {rest : List Placed} (missing : labelAt rest = none) : Labelled none [] rest
  | one {word colon : Placed} {first : String} {rest : List Placed}
      (named : word.name? = some first) (marked : colon.is ':') :
      Labelled (some ⟨first, none, colon.start⟩) [word, colon] rest
  | two {word word' colon : Placed} {first second : String} {rest : List Placed}
      (named : word.name? = some first) (named' : word'.name? = some second)
      (marked : colon.is ':') :
      Labelled (some ⟨first, some second, colon.start⟩) [word, word', colon] rest

/-- What may stand after the type of an element: three dots, and a default value. -/
inductive IsTrailer : List Placed → Prop
  | value {used : List Placed} (begins : used = [] ∨ startsWith '=' used) : IsTrailer used
  | variadic {dot dot' dot'' : Placed} {used : List Placed} (marked : dot.is '.')
      (marked' : dot'.is '.') (marked'' : dot''.is '.')
      (begins : used = [] ∨ startsWith '=' used) : IsTrailer (dot :: dot' :: dot'' :: used)

/-! ## Phrases -/

/-- What the readers of types put together. -/
inductive Part where
  /-- A type with its specifiers. -/
  | whole (type : TypeExpr)
  /-- A type without specifiers. -/
  | composed (type : TypeExpr)
  /-- The parts of a composition after the first, each after its `&`. -/
  | conjuncts (types : List TypeExpr)
  /-- A type with all its suffixes. -/
  | suffixed (type : TypeExpr)
  /-- A type with some suffixes. -/
  | chain (type : TypeExpr)
  /-- Generic arguments in their brackets; there are no brackets without arguments. -/
  | arguments (types : List TypeExpr)
  /-- Types between commas. -/
  | types (types : List TypeExpr)
  /-- The elements of a list and the parenthesis after them. -/
  | elements (elements : List (Element TypeExpr))

namespace Part

/-- The type that a part is. -/
def type? : Part → Option TypeExpr
  | whole t | composed t | suffixed t | chain t => some t
  | conjuncts _ | arguments _ | types _ | elements _ => none

/-- The types directly inside a part. -/
def inside : Part → List TypeExpr
  | whole t | composed t | suffixed t | chain t => t.children
  | conjuncts ts | arguments ts | types ts => ts
  | elements es => es.map (·.type)

theorem inside_eq_children {part : Part} {t : TypeExpr} (h : part.type? = some t) :
    part.inside = t.children := by
  cases part <;> cases h <;> rfl

end Part

/-- The first of the tokens stands at the offset `position`. -/
def StartsAt (used : List Placed) (position : Nat) : Prop :=
  used.head?.map (·.start) = some position

/-- No suffix can be read here. -/
structure EndsChain (rest : List Placed) : Prop where
  question : ¬ startsTouching '?' rest
  exclamation : ¬ startsTouching '!' rest
  member : ¬ (startsWith '.' rest ∧ startsWithWord rest.tail)

/-- The tokens `used` before `rest` are written out as a part. -/
inductive Phrase : Part → List Placed → List Placed → Prop
  | plain {t : TypeExpr} {used rest : List Placed} (type : Phrase (.composed t) used rest) :
      Phrase (.whole t) used rest
  | attributed {position : Nat} {specifiers : List Specifier} {t : TypeExpr}
      {before used rest : List Placed} (specified : Chained Specifier.Written specifiers before)
      (some_specifier : specifiers ≠ []) (starts : StartsAt before position)
      (base : Phrase (.composed t) used rest) :
      Phrase (.whole (.attributed position specifiers t)) (before ++ used) rest
  | single {t : TypeExpr} {used rest : List Placed} (type : Phrase (.suffixed t) used rest)
      (alone : ¬ startsWith '&' rest) : Phrase (.composed t) used rest
  | composition {position : Nat} {t : TypeExpr} {others : List TypeExpr}
      {used more rest : List Placed} (starts : StartsAt used position)
      (first : Phrase (.suffixed t) used (more ++ rest)) (some_other : others ≠ [])
      (following : Phrase (.conjuncts others) more rest) :
      Phrase (.composed (.composition position (t :: others))) (used ++ more) rest
  | noConjunct {rest : List Placed} (alone : ¬ startsWith '&' rest) :
      Phrase (.conjuncts []) [] rest
  | conjunct {sign : Placed} {t : TypeExpr} {others : List TypeExpr} {used more rest : List Placed}
      (marked : sign.is '&') (type : Phrase (.suffixed t) used (more ++ rest))
      (following : Phrase (.conjuncts others) more rest) :
      Phrase (.conjuncts (t :: others)) (sign :: (used ++ more)) rest
  | suffixed {t : TypeExpr} {used rest : List Placed} (type : Phrase (.chain t) used rest)
      (ends : EndsChain rest) : Phrase (.suffixed t) used rest
  | named {word : Placed} {name : String} {types : List TypeExpr} {used rest : List Placed}
      (named : word.name? = some name) (arguments : Phrase (.arguments types) used rest) :
      Phrase (.chain (.named word.start name types)) (word :: used) rest
  | tuple {paren : Placed} {es : List (Element TypeExpr)} {used rest : List Placed}
      (marked : paren.is '(') (elements : Phrase (.elements es) used rest)
      (alone : ¬ startsFunction rest) :
      Phrase (.chain (.tuple paren.start es)) (paren :: used) rest
  | function {paren arrow : Placed} {es : List (Element TypeExpr)} {found : List Effect}
      {t : TypeExpr} {used words more rest : List Placed} (marked : paren.is '(')
      (elements : Phrase (.elements es) used (words ++ arrow :: (more ++ rest)))
      (effects : Chained Effect.Written found words) (pointed : arrow.kind = .arrow)
      (result : Phrase (.whole t) more rest) :
      Phrase (.chain (.function paren.start es ⟨found.contains .async, found.contains .throws⟩ t))
        (paren :: (used ++ (words ++ arrow :: more))) rest
  | array {bracket close : Placed} {t : TypeExpr} {used rest : List Placed}
      (marked : bracket.is '[') (element : Phrase (.whole t) used (close :: rest))
      (closed : close.is ']') :
      Phrase (.chain (.array bracket.start t)) (bracket :: (used ++ [close])) rest
  | dictionary {bracket colon close : Placed} {t u : TypeExpr} {used more rest : List Placed}
      (marked : bracket.is '[') (key : Phrase (.whole t) used (colon :: (more ++ close :: rest)))
      (parted : colon.is ':') (value : Phrase (.whole u) more (close :: rest))
      (closed : close.is ']') :
      Phrase (.chain (.dictionary bracket.start t u))
        (bracket :: (used ++ colon :: (more ++ [close]))) rest
  | optional {position : Nat} {t : TypeExpr} {mark : OptionalMark} {sign : Placed}
      {used rest : List Placed} (starts : StartsAt used position)
      (wrapped : Phrase (.chain t) used (sign :: rest))
      (marked : (mark = .question ∧ sign.is '?') ∨ (mark = .exclamation ∧ sign.is '!'))
      (touching : sign.touching) :
      Phrase (.chain (.optional position t mark)) (used ++ [sign]) rest
  | member {position : Nat} {t : TypeExpr} {dot word : Placed} {name : String}
      {types : List TypeExpr} {used more rest : List Placed} (starts : StartsAt used position)
      (base : Phrase (.chain t) used (dot :: word :: (more ++ rest))) (marked : dot.is '.')
      (named : word.name? = some name) (arguments : Phrase (.arguments types) more rest) :
      Phrase (.chain (.member position t name types)) (used ++ dot :: word :: more) rest
  | noArguments {rest : List Placed} (alone : ¬ startsTouching '<' rest) :
      Phrase (.arguments []) [] rest
  | arguments {bracket close : Placed} {types : List TypeExpr} {used rest : List Placed}
      (marked : bracket.is '<') (touching : bracket.touching)
      (inside : Phrase (.types types) used (close :: rest)) (closed : close.is '>') :
      Phrase (.arguments types) (bracket :: (used ++ [close])) rest
  | lastType {t : TypeExpr} {used rest : List Placed} (type : Phrase (.whole t) used rest)
      (alone : ¬ startsWith ',' rest) : Phrase (.types [t]) used rest
  | nextType {t : TypeExpr} {comma : Placed} {others : List TypeExpr} {used more rest : List Placed}
      (type : Phrase (.whole t) used (comma :: (more ++ rest))) (parted : comma.is ',')
      (following : Phrase (.types others) more rest) :
      Phrase (.types (t :: others)) (used ++ comma :: more) rest
  | closed {close : Placed} {rest : List Placed} (closed : close.is ')') :
      Phrase (.elements []) [close] rest
  | lastElement {label : Option Label} {t : TypeExpr} {close : Placed}
      {names used trailer rest : List Placed}
      (labelled : Labelled label names (used ++ (trailer ++ close :: rest)))
      (type : Phrase (.whole t) used (trailer ++ close :: rest)) (trailed : IsTrailer trailer)
      (closed : close.is ')') :
      Phrase (.elements [⟨label, t⟩]) (names ++ (used ++ (trailer ++ [close]))) rest
  | nextElement {label : Option Label} {t : TypeExpr} {comma : Placed}
      {others : List (Element TypeExpr)} {names used trailer more rest : List Placed}
      (labelled : Labelled label names (used ++ (trailer ++ comma :: (more ++ rest))))
      (type : Phrase (.whole t) used (trailer ++ comma :: (more ++ rest)))
      (trailed : IsTrailer trailer) (parted : comma.is ',')
      (following : Phrase (.elements others) more rest) :
      Phrase (.elements (⟨label, t⟩ :: others)) (names ++ (used ++ (trailer ++ comma :: more))) rest

/-! ## Where a type begins -/

theorem startsAt_cons (t : Placed) (ts : List Placed) : StartsAt (t :: ts) t.start := rfl

theorem startsAt_of_ne_nil {used : List Placed} (h : used ≠ []) (rest : List Placed) :
    StartsAt used (((used ++ rest).head?.map (·.start)).getD 0) := by
  cases used with
  | nil => exact absurd rfl h
  | cons t used => rfl

namespace StartsAt

variable {used : List Placed} {position : Nat}

theorem ne_nil (h : StartsAt used position) : used ≠ [] := by
  rintro rfl
  cases h

theorem append (h : StartsAt used position) (more : List Placed) :
    StartsAt (used ++ more) position := by
  cases used with
  | nil => cases h
  | cons t ts => exact h

end StartsAt

namespace Phrase

variable {part : Part} {t : TypeExpr} {used rest : List Placed}

/-- A type begins with the first of its tokens. -/
theorem startsAt (h : Phrase part used rest) (ht : part.type? = some t) :
    StartsAt used t.position := by
  induction h generalizing t with
  | plain _ ih | single _ _ ih | suffixed _ _ ih => exact ih ht
  | attributed _ _ starts _ _ =>
    cases ht
    exact starts.append _
  | composition starts _ _ _ _ _ =>
    cases ht
    exact starts.append _
  | named | tuple | function | array | dictionary =>
    cases ht
    exact startsAt_cons _ _
  | optional starts _ _ _ _ =>
    cases ht
    exact starts.append _
  | member starts _ _ _ _ _ _ =>
    cases ht
    exact starts.append _
  | noConjunct | conjunct | noArguments | arguments | lastType | nextType | closed | lastElement
  | nextElement => cases ht

end Phrase

/-! ## What cannot come after a phrase -/

/-- What a part says of the tokens after it. A function type has taken all that its result could
take, so nothing that goes on a type comes after it. -/
def Part.Ends : Part → List Placed → Prop
  | whole _, rest | composed _, rest | chain (.function ..), rest =>
    EndsChain rest ∧ ¬ startsWith '&' rest
  | suffixed _, rest => EndsChain rest
  | conjuncts ts, rest => ¬ startsWith '&' rest ∧ (ts ≠ [] → EndsChain rest)
  | _, _ => True

namespace Phrase

variable {part : Part} {used rest : List Placed}

/-- **Nothing that a phrase could go on with comes after it.** -/
theorem ends (h : Phrase part used rest) : part.Ends rest := by
  induction h with
  | plain _ ih => exact ih
  | attributed _ _ _ _ ih => exact ih
  | single _ alone ih => exact ⟨ih, alone⟩
  | composition _ _ some_other _ _ following => exact ⟨following.2 some_other, following.1⟩
  | noConjunct alone => exact ⟨alone, fun h => absurd rfl h⟩
  | @conjunct _ _ others _ _ _ _ _ following type ih =>
    refine ⟨ih.1, fun _ => ?_⟩
    cases following with
    | noConjunct => exact type
    | conjunct => exact ih.2 (List.cons_ne_nil _ _)
  | suffixed _ ends _ => exact ends
  | function _ _ _ _ _ _ result => exact result
  | named | tuple | array | dictionary | optional | member | noArguments | arguments | lastType
  | nextType | closed | lastElement | nextElement => trivial

end Phrase

/-! ## The types inside a phrase -/

/-- Some of the tokens `used` before `rest` are written out as the type `t`. -/
def Holds (t : TypeExpr) (used rest : List Placed) : Prop :=
  ∃ part before list more, used = before ++ (list ++ more) ∧ Part.type? part = some t ∧
    Phrase part list (more ++ rest)

namespace Holds

variable {t : TypeExpr} {used rest : List Placed}

theorem of_phrase {part : Part} (ht : part.type? = some t) (h : Phrase part used rest) :
    Holds t used rest :=
  ⟨part, [], used, [], by simp, ht, by simpa using h⟩

/-- What some of the tokens hold all of them hold. -/
theorem within {list after : List Placed} (h : Holds t list after) (before more : List Placed)
    (hused : used = before ++ (list ++ more)) (hafter : after = more ++ rest) :
    Holds t used rest := by
  obtain ⟨part, before', list', more', rfl, ht, phrase⟩ := h
  subst hused hafter
  exact ⟨part, before ++ before', list', more' ++ more, by simp, ht, by simpa using phrase⟩

end Holds

namespace Phrase

variable {part : Part} {t : TypeExpr} {used rest : List Placed}

/-- The types directly inside a phrase are phrases inside it. -/
theorem inside (h : Phrase part used rest) : ∀ t ∈ part.inside, Holds t used rest := by
  induction h with
  | plain _ ih | single _ _ ih | suffixed _ _ ih => exact ih
  | noConjunct | noArguments | closed => exact fun _ ht => nomatch ht
  | @attributed _ _ _ before _ _ _ _ _ base _ =>
    intro t ht
    obtain rfl := List.mem_singleton.1 ht
    exact (Holds.of_phrase rfl base).within before [] (by simp) (by simp)
  | @composition _ _ _ used more _ _ first _ _ _ ih =>
    intro t ht
    rcases List.mem_cons.1 ht with rfl | ht
    · exact (Holds.of_phrase rfl first).within [] more (by simp) (by simp)
    · exact (ih t ht).within used [] (by simp) (by simp)
  | @conjunct sign _ _ used more _ _ type _ _ ih =>
    intro t ht
    rcases List.mem_cons.1 ht with rfl | ht
    · exact (Holds.of_phrase rfl type).within [sign] more (by simp) (by simp)
    · exact (ih t ht).within (sign :: used) [] (by simp) (by simp)
  | @named word _ _ _ _ _ _ ih =>
    intro t ht
    exact (ih t ht).within [word] [] (by simp) (by simp)
  | @tuple paren _ _ _ _ _ _ ih =>
    intro t ht
    exact (ih t ht).within [paren] [] (by simp) (by simp)
  | @function paren arrow _ _ _ used words more _ _ _ _ _ result ih _ =>
    intro t ht
    rcases List.mem_append.1 ht with ht | ht
    · exact (ih t ht).within [paren] (words ++ arrow :: more) (by simp) (by simp)
    · obtain rfl := List.mem_singleton.1 ht
      exact (Holds.of_phrase rfl result).within (paren :: (used ++ (words ++ [arrow]))) [] (by simp)
        (by simp)
  | @array bracket close _ _ _ _ element _ _ =>
    intro t ht
    obtain rfl := List.mem_singleton.1 ht
    exact (Holds.of_phrase rfl element).within [bracket] [close] (by simp) (by simp)
  | @dictionary bracket colon close _ _ used more _ _ key _ value _ _ _ =>
    intro t ht
    rcases List.mem_cons.1 ht with rfl | ht
    · exact (Holds.of_phrase rfl key).within [bracket] (colon :: (more ++ [close])) (by simp)
        (by simp)
    · obtain rfl := List.mem_singleton.1 ht
      exact (Holds.of_phrase rfl value).within (bracket :: (used ++ [colon])) [close] (by simp)
        (by simp)
  | @optional _ _ _ sign _ _ _ wrapped _ _ _ =>
    intro t ht
    obtain rfl := List.mem_singleton.1 ht
    exact (Holds.of_phrase rfl wrapped).within [] [sign] (by simp) (by simp)
  | @member _ _ dot word _ _ used more _ _ base _ _ _ _ ih =>
    intro t ht
    rcases List.mem_cons.1 ht with rfl | ht
    · exact (Holds.of_phrase rfl base).within [] (dot :: word :: more) (by simp) (by simp)
    · exact (ih t ht).within (used ++ [dot, word]) [] (by simp) (by simp)
  | @arguments bracket close _ _ _ _ _ _ _ ih =>
    intro t ht
    exact (ih t ht).within [bracket] [close] (by simp) (by simp)
  | lastType type _ _ =>
    intro t ht
    obtain rfl := List.mem_singleton.1 ht
    exact Holds.of_phrase rfl type
  | @nextType _ comma _ used more _ type _ _ _ ih =>
    intro t ht
    rcases List.mem_cons.1 ht with rfl | ht
    · exact (Holds.of_phrase rfl type).within [] (comma :: more) (by simp) (by simp)
    · exact (ih t ht).within (used ++ [comma]) [] (by simp) (by simp)
  | @lastElement _ _ close names _ trailer _ _ type _ _ _ =>
    intro t ht
    obtain rfl := List.mem_singleton.1 ht
    exact (Holds.of_phrase rfl type).within names (trailer ++ [close]) (by simp) (by simp)
  | @nextElement _ _ comma _ names used trailer more _ _ type _ _ _ _ ih =>
    intro t ht
    rcases List.mem_cons.1 ht with rfl | ht
    · exact (Holds.of_phrase rfl type).within names (trailer ++ comma :: more) (by simp) (by simp)
    · exact (ih t ht).within (names ++ (used ++ (trailer ++ [comma]))) [] (by simp) (by simp)

/-- **Every type in the tree of a phrase is a phrase inside it.** -/
theorem throughout (h : Phrase part used rest) (ht : part.type? = some t) :
    (Node.type t).Throughout fun n => ∃ u, n = .type u ∧ Holds u used rest := by
  refine .of_children ⟨t, rfl, .of_phrase ht h⟩ ?_
  rintro _ ⟨u, rfl, part, before, list, more, rfl, hu, phrase⟩ m hm
  obtain ⟨v, hv, rfl⟩ := List.mem_map.1 hm
  have hinside := phrase.inside v (Part.inside_eq_children hu ▸ hv)
  exact ⟨v, rfl, hinside.within before more rfl rfl⟩

end Phrase

end SwiftTuples
