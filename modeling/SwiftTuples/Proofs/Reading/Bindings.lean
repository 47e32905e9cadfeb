import SwiftTuples.Proofs.Parsing.Defaults
/-!
# Bindings between commas

The bindings of a declaration are read one after the other, each with its name and its type. All
that is looked for after a type is the comma before the next binding. An initialiser is not passed
over, so the first binding that has one is the last one that is read (`Binding.reached`), and so is
one whose type is not seen to be one. Initialisers begin no item, so the loop over items passes over
what is left of the declaration, other bindings included, and goes on after it.
-/

namespace SwiftTuples

open TokenParser

/-- A binding of a declaration of variables. -/
structure Binding where
  name : String
  type : Option TypeExpr
  /-- Its type, if it has one, begins on the line of the colon with a name, a bracket or an
  attribute. -/
  seen : Bool
  initialised : Bool

/-- The tokens are a colon and a type, which is seen or not, or nothing. -/
inductive Annotates : Option TypeExpr → Bool → List Placed → Prop
  | bare : Annotates none true []
  | type {colon : Placed} {ts : List Placed} {found : TypeExpr} {seen : Bool}
      (hcolon : colon.is ':') (hread : typeExpr (depth ts.length) ts = .ok (found, []))
      (hseen : startsDeclaredType (colon :: ts) = seen) : Annotates (some found) seen (colon :: ts)

/-- The tokens are an initialiser, or nothing. No item begins with a token of it, and its commas are
in brackets. -/
inductive Initialises : Bool → List Placed → Prop
  | bare : Initialises false []
  | value {equals : Placed} {ts : List Placed} (hequals : equals.is '=')
      (enclosed : Enclosed false false ts) (idle : ∀ t ∈ ts, t.Idle) :
      Initialises true (equals :: ts)

/-- No type, written at the end of `ts` or not at all, is written or goes on in `after`. -/
structure TypeSeam (type : Option TypeExpr) (ts after : List Placed) : Prop where
  absent : type = none → startsDeclaredType after = false
  parted : type ≠ none → Parted ts after

namespace Binding

variable (b : Binding)

/-- What a declaration that starts at `position` declares with the binding. -/
def declared (position : Nat) : Item := .variable position (.name b.name) b.type

/-- What is recorded of it. -/
def recorded (position : Nat) : Item :=
  .variable position (.name b.name) (if b.seen then b.type else none)

/-- The next binding is read after this one. -/
def goesOn : Bool := b.seen && !b.initialised

/-- The tokens are a name, a type and an initialiser. -/
inductive Phrase : List Placed → Prop
  | mk {name : Placed} {typed initialiser : List Placed} (hname : name.name? = some b.name)
      (annotates : Annotates b.type b.seen typed)
      (initialises : Initialises b.initialised initialiser) :
      Phrase (name :: (typed ++ initialiser))

/-- The bindings up to the first after which no other is read. -/
def reached : List Binding → List Binding
  | [] => []
  | b :: bs => if b.goesOn then b :: reached bs else [b]

/-- The types of all bindings are seen, and only the last one may have an initialiser. -/
def Complete (bs : List Binding) : Prop :=
  (∀ b ∈ bs, b.seen) ∧ ∀ b ∈ bs.dropLast, ¬ b.initialised

end Binding

/-- The tokens are bindings between commas. -/
inductive BindingPhrases : List Binding → List Placed → Prop
  | last {b : Binding} {ts : List Placed} (phrase : b.Phrase ts) : BindingPhrases [b] ts
  | next {b : Binding} {bs : List Binding} {ts us : List Placed} {comma : Placed}
      (phrase : b.Phrase ts) (hcomma : comma.is ',') (more : BindingPhrases bs us) :
      BindingPhrases (b :: bs) (ts ++ comma :: us)

/-- What follows the bindings goes on neither with the last of them nor with the declaration. An
initialiser ends anywhere. -/
def EndsBindings (bs : List Binding) (ts after : List Placed) : Prop :=
  ∀ b ∈ bs.getLast?, b.goesOn → TypeSeam b.type ts after ∧ startsNextBinding after = false

/-! ## One binding -/

/-- No item begins with the mark. -/
theorem Placed.Idle.of_is {t : Placed} {c : Char} (h : t.is c) (hc : c ∉ ['{', '}', '@']) :
    t.Idle := by
  simp only [List.mem_cons, List.not_mem_nil, or_false, not_or] at hc
  have hno : ∀ d, c ≠ d → t.is d = false := fun d => Token.is_eq_false_of_is h
  exact ⟨hno _ hc.1, hno _ hc.2.1, hno _ hc.2.2, by simp [Token.name?_of_is h]⟩

theorem Initialises.idle {initialised : Bool} {ts : List Placed} (h : Initialises initialised ts) :
    ∀ t ∈ ts, t.Idle := by
  cases h with
  | bare => simp
  | value hequals _ idle => exact List.forall_mem_cons.2 ⟨.of_is hequals (by decide), idle⟩

/-- A declared type begins with a colon. -/
theorem startsDeclaredType_of_not {t : Placed} (h : t.is ':' = false) (ts : List Placed) :
    startsDeclaredType (t :: ts) = false := by
  cases ts with
  | nil => rfl
  | cons u ts => simp [startsDeclaredType, h]

/-- Another binding begins with a comma. -/
theorem startsNextBinding_of_not {t : Placed} (h : t.is ',' = false) (ts : List Placed) :
    startsNextBinding (t :: ts) = false := by
  simp [startsNextBinding, startsWith, h]

namespace TypeSeam

variable {type : Option TypeExpr} {ts after : List Placed}

/-- An end of the tokens has the same seam. -/
theorem of_append (before : List Placed) (h : TypeSeam type (before ++ ts) after) :
    TypeSeam type ts after :=
  ⟨h.absent, fun hsome => (h.parted hsome).of_append⟩

/-- Neither a comma nor an equals sign goes on with a type. -/
theorem of_is {t : Placed} {c : Char} (h : t.is c) (hc : c ∉ typeMarks) :
    TypeSeam type ts (t :: after) where
  absent _ := startsDeclaredType_of_not
    (Token.is_eq_false_of_is h (by rintro rfl; exact hc (by decide))) after
  parted _ := (EndsType.of_is h hc after).parted ts

end TypeSeam

namespace Annotates

variable {type : Option TypeExpr} {seen : Bool} {ts : List Placed} {n : Nat}

/-- A type that is not seen is there. -/
theorem ne_none (h : Annotates type seen ts) (hseen : seen = false) : type ≠ none := by
  cases h with
  | bare => cases hseen
  | type => simp

/-- A type that is not seen stands behind its colon. -/
theorem startsNextBinding_eq_false (h : Annotates type seen ts) (hseen : seen = false)
    (more : List Placed) : startsNextBinding (ts ++ more) = false := by
  cases h with
  | bare => cases hseen
  | type hcolon => exact startsNextBinding_of_not (Token.is_eq_false_of_is hcolon (by decide)) _

/-- A type that is seen is read, up to what it does not go on with. One that is not is left. -/
theorem optionally_declaredColon (h : Annotates type seen ts) {more : List Placed}
    (hseam : seen → TypeSeam type ts more) (hn : 16 * ts.length ≤ n + 11) :
    optionally declaredColon (typeExpr n) (ts ++ more) =
      .ok (if seen then type else none, (if seen then [] else ts) ++ more) := by
  cases h with
  | bare =>
    have hlook : look startsDeclaredType more = .ok (false, more) := by
      rw [look, (hseam rfl).absent rfl]
    have hmark : declaredColon more = .ok (false, more) := bind_of_eq_ok hlook
    exact bind_of_eq_ok hmark
  | @type colon ts found _ hcolon hread hseen =>
    have hlook : look startsDeclaredType (colon :: (ts ++ more)) =
        .ok (seen, colon :: (ts ++ more)) := by
      cases ts with
      | nil => exact absurd hread (typeReadersAdvance _).typeExpr.not_ok_nil
      | cons t ts =>
        rw [← hseen]
        rfl
    cases seen with
    | false =>
      have hmark : declaredColon (colon :: (ts ++ more)) = .ok (false, colon :: (ts ++ more)) :=
        bind_of_eq_ok hlook
      exact bind_of_eq_ok hmark
    | true =>
      have hmark : declaredColon (colon :: (ts ++ more)) = .ok (true, ts ++ more) :=
        bind_of_eq_ok hlook
      have hdepth : typeExpr n ts = .ok (found, []) := by
        rw [← hread]
        simp only [List.length_cons] at hn
        exact (settled_typeExpr _).eq (Nat.le_refl _) (by omega) (by simp only [depth]; omega)
      have hparted : Parted ts more := ((hseam rfl).of_append [colon]).parted (by simp)
      have htype : typeExpr n (ts ++ more) = .ok (found, more) := typeExpr_of_parted hparted hdepth
      exact (bind_of_eq_ok hmark).trans (map_of_eq_ok htype)

end Annotates

theorem Binding.Phrase.length_pos {b : Binding} {ts : List Placed} (h : b.Phrase ts) :
    0 < ts.length := by
  obtain ⟨-, -, -⟩ := h
  simp

namespace TokenParser

variable {b : Binding} {bs : List Binding} {ts more after : List Placed} {n position : Nat}

/-- What is read after a binding. -/
def afterBinding (n position : Nat) (found : Item) : TokenParser (List Item) := do
  if ← look startsNextBinding then
    skip 1
    return found :: (← bindings n position)
  else return [found]

/-- A binding is read up to its initialiser, or up to its type if that is not seen. -/
theorem bindings_of_phrase (h : b.Phrase ts) (hseam : b.goesOn → TypeSeam b.type ts more)
    (position : Nat) :
    ∃ unread, unread <:+ ts ∧ (b.seen → ∀ t ∈ unread, t.Idle) ∧
      (if b.goesOn then unread = [] else startsNextBinding (unread ++ more) = false) ∧
      ∀ n, 16 * ts.length ≤ n + 11 → bindings (n + 1) position (ts ++ more) =
        afterBinding n position (b.recorded position) (unread ++ more) := by
  obtain ⟨text, type, seen, initialised⟩ := b
  obtain @⟨name, typed, initialiser, hname, annotates, initialises⟩ := h
  simp only at hname annotates initialises
  have hends : seen → TypeSeam type typed (initialiser ++ more) := by
    intro hseen
    cases initialises with
    | bare =>
      rw [List.append_nil] at hseam
      exact (hseam (by simpa [Binding.goesOn] using hseen)).of_append [name]
    | value hequals => exact .of_is hequals (by decide)
  have hbinder : binder? (name :: (typed ++ (initialiser ++ more))) =
      .ok (some (.name text), typed ++ (initialiser ++ more)) := by
    have hfirst : name? (name :: (typed ++ (initialiser ++ more))) =
        .ok (some text, typed ++ (initialiser ++ more)) := by simp [name?, hname]
    exact bind_of_eq_ok hfirst
  refine ⟨(if seen then [] else typed) ++ initialiser, ?_, ?_, ?_, ?_⟩
  · cases seen with
    | false => exact List.suffix_cons _ _
    | true => exact (List.suffix_append typed initialiser).trans (List.suffix_cons _ _)
  · rintro rfl
    exact initialises.idle
  · cases seen with
    | false => simpa [Binding.goesOn] using annotates.startsNextBinding_eq_false rfl _
    | true =>
      cases initialises with
      | bare => rfl
      | value hequals =>
        exact startsNextBinding_of_not (Token.is_eq_false_of_is hequals (by decide)) _
  · intro n hn
    simp only [List.length_cons, List.length_append] at hn
    have htype := annotates.optionally_declaredColon (n := n) hends (by omega)
    rw [List.cons_append, List.append_assoc, List.append_assoc]
    exact (bind_of_eq_ok hbinder).trans (bind_of_eq_ok htype)

/-- After the last binding that is read nothing is. -/
theorem afterBinding_of_not {found : Item} (h : startsNextBinding ts = false) :
    afterBinding n position found ts = .ok ([found], ts) := by
  have hlook : look startsNextBinding ts = .ok (false, ts) := by rw [look, h]
  exact bind_of_eq_ok hlook

end TokenParser

/-! ## All bindings -/

namespace BindingPhrases

variable {bs : List Binding} {ts after : List Placed}

theorem ne_nil (h : BindingPhrases bs ts) : bs ≠ [] := by
  cases h <;> exact List.cons_ne_nil _ _

theorem length_pos (h : BindingPhrases bs ts) : 0 < ts.length := by
  cases h with
  | last phrase => exact phrase.length_pos
  | next => simp

/-- A binding begins with its name. -/
theorem startsWithWord (h : BindingPhrases bs ts) (more : List Placed) :
    startsWithWord (ts ++ more) := by
  cases h with
  | last phrase | next phrase =>
    obtain ⟨hname, -, -⟩ := phrase
    simp [SwiftTuples.startsWithWord, word?, hname]

/-- A first binding is read on where all are recorded. -/
theorem complete_cons {b b' : Binding} {bs : List Binding} :
    Binding.Complete (b :: b' :: bs) ↔ b.goesOn ∧ Binding.Complete (b' :: bs) := by
  simp only [Binding.Complete, List.dropLast_cons_cons, List.forall_mem_cons, Binding.goesOn,
    Bool.and_eq_true, Bool.not_eq_true', Bool.not_eq_true]
  tauto

/-- **All bindings are recorded as they are declared exactly where each of them is read on.** -/
theorem recorded_eq_declared_iff (h : BindingPhrases bs ts) (position : Nat) :
    (Binding.reached bs).map (·.recorded position) = bs.map (·.declared position) ↔
      Binding.Complete bs := by
  induction h with
  | @last b _ phrase =>
    obtain ⟨-, annotates, -⟩ := phrase
    have hone : Binding.reached [b] = [b] := by
      rw [Binding.reached, Binding.reached]
      split <;> rfl
    rw [hone]
    cases hseen : b.seen with
    | true => simp [Binding.recorded, Binding.declared, Binding.Complete, hseen]
    | false =>
      have hsome := annotates.ne_none hseen
      simp [Binding.recorded, Binding.declared, Binding.Complete, hseen, hsome.symm]
  | @next b bs _ _ _ _ _ more ih =>
    obtain ⟨b', bs, rfl⟩ := List.exists_cons_of_ne_nil more.ne_nil
    rw [Binding.reached]
    rw [complete_cons]
    cases hgoesOn : b.goesOn with
    | true =>
      have hseen : b.seen := (Bool.and_eq_true_iff.1 hgoesOn).1
      have hsame : b.recorded position = b.declared position := by
        rw [Binding.recorded, if_pos hseen, Binding.declared]
      rw [if_pos rfl, List.map_cons, List.map_cons, hsame, List.cons_inj_right, ih]
      simp
    | false => simp

/-- **The bindings are read up to the first after which no other is.** Where all of them are
recorded, what is left is an initialiser, or nothing. -/
theorem bindings_eq (h : BindingPhrases bs ts) (ends : EndsBindings bs ts after) (position : Nat) :
    ∃ unread, unread <:+ ts ∧ (Binding.Complete bs → ∀ t ∈ unread, t.Idle) ∧
      ∀ n, 16 * ts.length ≤ n + 10 → bindings n position (ts ++ after) =
        .ok ((Binding.reached bs).map (·.recorded position), unread ++ after) := by
  induction h with
  | @last b ts phrase =>
    obtain ⟨unread, hsuffix, hidle, hnext, hread⟩ :=
      bindings_of_phrase phrase (fun hgoesOn => (ends b rfl hgoesOn).1) position
    have hstop : startsNextBinding (unread ++ after) = false := by
      split at hnext
      next hgoesOn =>
        rw [hnext, List.nil_append]
        exact (ends b rfl hgoesOn).2
      next => exact hnext
    refine ⟨unread, hsuffix, fun complete => hidle (complete.1 b List.mem_cons_self), ?_⟩
    intro n hn
    have hpos := phrase.length_pos
    obtain ⟨n, rfl⟩ : ∃ m, n = m + 1 := ⟨n - 1, by omega⟩
    rw [hread n (by omega), afterBinding_of_not hstop]
    simp [Binding.reached]
  | @next b bs ts us comma phrase hcomma more ih =>
    obtain ⟨b', bs, rfl⟩ := List.exists_cons_of_ne_nil more.ne_nil
    have hseam : b.goesOn → TypeSeam b.type ts (comma :: (us ++ after)) := fun _ =>
      .of_is hcomma (by decide)
    obtain ⟨unread, hsuffix, -, hnext, hread⟩ := bindings_of_phrase phrase hseam position
    simp only [List.append_assoc, List.cons_append, List.length_append, List.length_cons]
    rw [complete_cons, Binding.reached]
    cases hgoesOn : b.goesOn with
    | true =>
      rw [hgoesOn] at hnext
      obtain rfl : unread = [] := hnext
      have ends' : EndsBindings (b' :: bs) us after := by
        intro last hlast hgoesOn
        have hends := ends last (by rwa [List.getLast?_cons_cons]) hgoesOn
        rw [List.append_cons] at hends
        exact ⟨hends.1.of_append _, hends.2⟩
      obtain ⟨unread, hsuffix, hidle, hmore⟩ := ih ends'
      refine ⟨unread, ?_, fun complete => hidle complete.2, fun n hn => ?_⟩
      · exact hsuffix.trans ((List.suffix_cons comma us).trans (List.suffix_append _ _))
      · obtain ⟨n, rfl⟩ : ∃ m, n = m + 1 := ⟨n - 1, by omega⟩
        have hlook : look startsNextBinding (comma :: (us ++ after)) =
            .ok (true, comma :: (us ++ after)) := by
          simp [look, startsNextBinding, startsWith, hcomma, more.startsWithWord]
        rw [hread n (by omega)]
        refine (bind_of_eq_ok hlook).trans ((bind_of_eq_ok rfl).trans ?_)
        exact bind_of_eq_ok (hmore n (by omega))
    | false =>
      rw [hgoesOn] at hnext
      obtain ⟨before, rfl⟩ := hsuffix
      refine ⟨unread ++ comma :: us, ⟨before, by simp⟩, by simp, fun n hn => ?_⟩
      obtain ⟨n, rfl⟩ : ∃ m, n = m + 1 := ⟨n - 1, by omega⟩
      rw [hread n (by omega), afterBinding_of_not hnext, List.append_assoc]
      rfl

/-- The keyword of a declaration of variables begins it. -/
theorem item_eq (h : BindingPhrases bs ts) (ends : EndsBindings bs ts after) {keyword : Placed}
    (hkeyword : keyword.name? = some "let" ∨ keyword.name? = some "var")
    (hdot : keyword.afterDot = false) :
    ∃ unread, unread <:+ ts ∧ (Binding.Complete bs → ∀ t ∈ unread, t.Idle) ∧
      ∀ n, 16 * ts.length ≤ n + 8 → item n (keyword :: (ts ++ after)) =
        .ok (some ((Binding.reached bs).map (·.recorded keyword.start)), unread ++ after) := by
  obtain ⟨unread, hsuffix, hidle, hread⟩ := h.bindings_eq ends keyword.start
  refine ⟨unread, hsuffix, hidle, fun n hn => ?_⟩
  have hpos := h.length_pos
  obtain ⟨n, rfl⟩ : ∃ m, n = m + 2 := ⟨n - 2, by omega⟩
  obtain ⟨b, bs, rfl⟩ := List.exists_cons_of_ne_nil h.ne_nil
  have hfound : ∃ found more, (Binding.reached (b :: bs)).map (·.recorded keyword.start) =
      found :: more := by
    rw [Binding.reached]
    split <;> exact ⟨_, _, rfl⟩
  obtain ⟨found, more, hfound⟩ := hfound
  have hmore := hread n (by omega)
  rw [hfound] at hmore
  have hdeclared : ∀ word, word = "let" ∨ word = "var" →
      declared n keyword.start word (keyword :: (ts ++ after)) =
        .ok (some (found :: more), unread ++ after) := by
    intro word hword
    have hif : (decide (word = "let") || decide (word = "var")) = true := by simpa using hword
    rw [TokenParser.declared, if_pos hif]
    exact (bind_of_eq_ok rfl).trans (bind_of_eq_ok hmore)
  rw [hfound]
  rcases hkeyword with hname | hname
  · rw [item_of_keyword hname hdot (by decide) (by decide), hdeclared _ (.inl rfl)]
  · rw [item_of_keyword hname hdot (by decide) (by decide), hdeclared _ (.inr rfl)]

end BindingPhrases

/-- **A declaration records its bindings up to the first that is not read on**: that has an
initialiser, or a type that is not seen. So all of its bindings are recorded, with their types,
exactly if no binding but the last has an initialiser and all types are seen. Then a file with the
declaration is what is read up to it, one variable for each binding and what is read after it, and
every tuple in a type of a binding is observed. Otherwise nothing else is recorded of the
declaration, if no item begins with a token of what is left of it. -/
theorem bindings_recorded_iff {bs : List Binding} {keyword : Placed} {ts after : List Placed}
    (hkeyword : keyword.name? = some "let" ∨ keyword.name? = some "var")
    (hdot : keyword.afterDot = false) (h : BindingPhrases bs ts) (ends : EndsBindings bs ts after) :
    ((Binding.reached bs).map (·.recorded keyword.start) = bs.map (·.declared keyword.start) ↔
      Binding.Complete bs) ∧
    (∃ unread, unread <:+ ts ∧
      (∀ n, 16 * ts.length ≤ n + 8 → item n (keyword :: (ts ++ after)) =
        .ok (some ((Binding.reached bs).map (·.recorded keyword.start)), unread ++ after)) ∧
      (Binding.Complete bs ∨ (∀ t ∈ unread, t.Idle) → LoopReads (keyword :: (ts ++ after))
        ((Binding.reached bs).map (·.recorded keyword.start)) after)) ∧
    (Binding.Complete bs → ∀ (source : Text) (tokens : List Token) (before : List Item),
      tokenize source = .ok tokens →
      LoopReads (Placed.ofTokens tokens) before (keyword :: (ts ++ after)) → ∀ file,
      (SourceFile.parse source = .ok file ↔ checkBraces tokens = .ok () ∧
        ∃ others rest, items (depth after.length) false [] after = .ok (others, rest) ∧
          file.items = before ++ bs.map (·.declared keyword.start) ++ others) ∧
      (SourceFile.parse source = .ok file → ∀ b ∈ bs, ∀ type ∈ b.type,
        (Node.type type).observations <:+: file.observations)) := by
  obtain ⟨unread, hsuffix, hidle, hitem⟩ := h.item_eq ends hkeyword hdot
  have hsame := h.recorded_eq_declared_iff keyword.start
  have hno : ∀ c, keyword.is c = false := Token.is_eq_false_of_name? (by
    rcases hkeyword with hname | hname <;> simp [hname])
  have hlen : unread.length ≤ ts.length := hsuffix.length_le
  have hreads : (∀ t ∈ unread, t.Idle) → LoopReads (keyword :: (ts ++ after))
      ((Binding.reached bs).map (·.recorded keyword.start)) after := by
    intro hidle
    have hfirst : LoopReads (keyword :: (ts ++ after))
        ((Binding.reached bs).map (·.recorded keyword.start)) (unread ++ after) := by
      refine .of_item (by simp [hno]) (by simp [hno]) (fun n hn => hitem n ?_) ?_
      · simp only [List.length_cons, List.length_append] at hn
        omega
      · simp only [List.length_append]
        omega
    simpa using hfirst.trans (.of_idle hidle after)
  refine ⟨hsame, ⟨unread, hsuffix, hitem, fun hor => hreads (hor.elim hidle id)⟩, ?_⟩
  intro complete source tokens before htokens hbefore file
  have hall := hreads (hidle complete)
  rw [hsame.2 complete] at hall
  have hfile : SourceFile.parse source = .ok file ↔ _ := (hbefore.trans hall).parse_eq_ok htokens
  refine ⟨hfile, fun hparse b hb type htype => ?_⟩
  obtain ⟨-, others, rest, -, hitems⟩ := hfile.1 hparse
  have hmem : b.declared keyword.start ∈ file.items := by
    rw [hitems]
    simp only [List.mem_append, List.mem_map]
    exact .inl (.inr ⟨b, hb, rfl⟩)
  refine List.IsInfix.trans ?_ (Node.item_observations_infix hmem)
  refine Node.observations_infix ?_
  rw [Option.mem_def] at htype
  simp [Binding.declared, Node.children, Node.insideItem, htype]

/-- A name alone and a pair with a value are both recorded. -/
theorem name_and_pair_recorded :
    let source : Text := "var a, b: (B, C) = x".toList
    let bs : List Binding := [⟨"a", none, true, false⟩,
      ⟨"b", some (.tuple 10 [⟨none, .named 11 "B" []⟩, ⟨none, .named 14 "C" []⟩]), true, true⟩]
    ∃ tokens keyword ts, tokenize source = .ok tokens ∧ Placed.ofTokens tokens = keyword :: ts ∧
      keyword.name? = some "var" ∧ keyword.afterDot = false ∧ BindingPhrases bs ts ∧
      EndsBindings bs ts [] ∧ Binding.Complete bs ∧
      ∃ file, SourceFile.parse source = .ok file ∧ file.items = bs.map (·.declared 0) := by
  intro source bs
  have htokens : tokenize source = .ok
      [⟨.ident "var", 0, 3, true⟩, ⟨.ident "a", 4, 5, false⟩, ⟨.punct ',', 5, 6, false⟩,
        ⟨.ident "b", 7, 8, false⟩, ⟨.punct ':', 8, 9, false⟩, ⟨.punct '(', 10, 11, false⟩,
        ⟨.ident "B", 11, 12, false⟩, ⟨.punct ',', 12, 13, false⟩, ⟨.ident "C", 14, 15, false⟩,
        ⟨.punct ')', 15, 16, false⟩, ⟨.punct '=', 17, 18, false⟩, ⟨.ident "x", 19, 20, false⟩] := by
    decide +kernel
  have complete : Binding.Complete bs := by simp [Binding.Complete, bs]
  refine ⟨_, _, _, htokens, rfl, rfl, rfl, ?phrases, ?ends, complete, ⟨bs.map (·.declared 0)⟩,
    ((@bindings_recorded_iff bs _ _ [] (.inr rfl) rfl ?phrases ?ends).2.2 complete source _ []
      htokens (.refl _) _).1.2 ⟨rfl, [], [], rfl, rfl⟩, rfl⟩
  case phrases =>
    change BindingPhrases bs (_ :: ([] ++ []) ++ _ :: (_ :: ([_, _, _, _, _, _] ++ [_, _])))
    refine .next (.mk rfl .bare .bare) rfl (.last (.mk rfl (.type rfl rfl rfl) (.value rfl ?_ ?_)))
    · exact .token (by decide) (by decide) (by decide) .nil
    · exact List.forall_mem_singleton.2 ⟨rfl, rfl, rfl, by decide⟩
  case ends =>
    rintro b ⟨⟩ ⟨⟩

/-- **An initialiser ends a declaration.** The second of two bindings is not recorded, and the tuple
of its type is not observed, since the first has a value. -/
theorem binding_after_value_lost :
    let source : Text := "let a = 1, b: (A, B, C)".toList
    let bs : List Binding := [⟨"a", none, true, true⟩,
      ⟨"b", some (.tuple 14 [⟨none, .named 15 "A" []⟩, ⟨none, .named 18 "B" []⟩,
        ⟨none, .named 21 "C" []⟩]), true, false⟩]
    ∃ tokens keyword ts, tokenize source = .ok tokens ∧
      Placed.ofTokens tokens = keyword :: ts ∧ keyword.name? = some "let" ∧
      keyword.afterDot = false ∧ BindingPhrases bs ts ∧ EndsBindings bs ts [] ∧
      (∀ b ∈ bs, b.seen) ∧ bs.length = 2 ∧
      (SourceFile.parse source).map (·.items.length) = .ok 1 ∧
      (SourceFile.parse source).map (·.observations) = .ok [] := by
  intro source bs
  have htokens : tokenize source = .ok
      [⟨.ident "let", 0, 3, true⟩, ⟨.ident "a", 4, 5, false⟩, ⟨.punct '=', 6, 7, false⟩,
        ⟨.literal, 8, 9, false⟩, ⟨.punct ',', 9, 10, false⟩, ⟨.ident "b", 11, 12, false⟩,
        ⟨.punct ':', 12, 13, false⟩, ⟨.punct '(', 14, 15, false⟩, ⟨.ident "A", 15, 16, false⟩,
        ⟨.punct ',', 16, 17, false⟩, ⟨.ident "B", 18, 19, false⟩, ⟨.punct ',', 19, 20, false⟩,
        ⟨.ident "C", 21, 22, false⟩, ⟨.punct ')', 22, 23, false⟩] := by
    decide +kernel
  refine ⟨_, _, _, htokens, rfl, rfl, rfl, ?phrases, ?ends, by simp [bs], rfl, by decide +kernel,
    by decide +kernel⟩
  case phrases =>
    change BindingPhrases bs (_ :: ([] ++ [_, _]) ++ _ :: (_ :: ([_, _, _, _, _, _, _, _] ++ [])))
    refine .next (.mk rfl .bare (.value rfl ?_ ?_)) rfl (.last (.mk rfl (.type rfl rfl rfl) .bare))
    · exact .token (by decide) (by decide) (by decide) .nil
    · exact List.forall_mem_singleton.2 ⟨rfl, rfl, rfl, by decide⟩
  case ends =>
    rintro b ⟨⟩ -
    exact ⟨⟨fun _ => rfl, fun _ => EndsType.parted (fun _ h => by cases h) _⟩, rfl⟩

end SwiftTuples
