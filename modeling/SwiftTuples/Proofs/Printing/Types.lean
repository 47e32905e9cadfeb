import SwiftTuples.Proofs.Printing.Reading
/-!
# Printed types are read back

A canonical type is read from its glyphs as it was, up to positions, by the reader of its level.
What takes suffixes is not read to its end in one go: the reader of suffixes goes on with whatever
follows, so of these types it is said that reading them leaves the rest to that reader
(`ReadBack.suffixable`). The bounds cover the glyphs, sixteen for each.
-/

namespace SwiftTuples

namespace TokenParser

/-! ## Parts of types -/

section parts

variable {gs : List Glyph}

theorem reads_arguments_none (h : ∀ g ∈ gs.head?, g.kind = .punct '(' → g.gap = .space) :
    Reads arguments gs (fun _ => True) gs := by
  have hlook : Reads (look (startsTouching '(')) gs (· = false) gs := .look fun _ hts =>
    hts.startsTouching_eq_false fun g hg hkind => .inl (h g hg hkind)
  exact hlook.bind_known (.ite_neg (by decide) (.pure trivial))

theorem reads_attribute {name : String}
    (h : ∀ g ∈ gs.head?, g.kind = .punct '(' → g.gap = .space) :
    Reads attribute? (.mark '@' :: .word name :: gs) (· = some name) gs := by
  refine (reads_wordAfter '@' name).bind_known ?_
  exact (Reads.skip 2).bind fun _ _ => (reads_arguments_none h).bind fun _ _ => .pure rfl

theorem reads_attribute_none (h : ∀ g ∈ gs.head?, g.kind ≠ .punct '@') :
    Reads attribute? gs (· = none) gs :=
  (reads_wordAfter_none h).bind_known (.pure rfl)

/-- The glyph is a name or an opening bracket, so the word before it specifies a type. -/
def Specified (g : Glyph) : Prop := g.kind.isName ∨ g.kind = .punct '(' ∨ g.kind = .punct '['

theorem startsSpecified_of_written {g : Glyph} {ts : List Placed} (hg : Specified g)
    (hts : Written (g :: gs) ts) : startsSpecified ts := by
  rw [startsSpecified, startsWithWord, hts.word?, hts.startsWith, hts.startsWith]
  rcases hg with hname | hkind | hkind
  · simp [Glyph.isSome_name? hname]
  · simp [hkind]
  · simp [hkind]

theorem reads_suppression_false (h : ∀ g ∈ gs.head?, g.kind ≠ .punct '~') :
    Reads (look fun ts => startsWith '~' ts && startsWithWord ts.tail) gs (· = false) gs :=
  .look fun ts hts => by simp [hts.startsWith_eq_false h]

theorem reads_specifier_word {word : String} {g : Glyph} (h : word ∈ Specifier.words)
    (hg : Specified g) :
    Reads specifier? (.word word :: g :: gs) (· = some (.word word)) (g :: gs) := by
  refine (reads_attribute_none fun g hg => by cases hg; simp [Glyph.word]).bind_known ?_
  refine (reads_suppression_false fun g hg => by cases hg; simp [Glyph.word]).bind_known
    (.ite_neg (by decide) ?_)
  refine (reads_word _).bind_known ?_
  have hnext : Reads (look fun ts => startsSpecified ts.tail) (.word word :: g :: gs) (· = true)
      (.word word :: g :: gs) := .look fun ts hts => startsSpecified_of_written hg hts.tail
  refine hnext.bind fun _ hyes => .ite_pos (by simp [hyes, h]) ?_
  exact (Reads.skip 1).bind fun _ _ => .pure rfl

/-- The first glyph of a type without specifiers is none. -/
theorem reads_specifier_none {g : Glyph} (hg : g.StartsBase) (gap : Gap) :
    Reads specifier? ({ g with gap := gap } :: gs) (· = none) ({ g with gap := gap } :: gs) := by
  generalize hfirst : { g with gap := gap } = first
  have hkind : first.kind = g.kind := by rw [← hfirst]
  have hno : ∀ c, c = '@' ∨ c = '~' → first.kind ≠ .punct c := by
    rw [hkind]
    rintro c (rfl | rfl) <;> rcases hg with ⟨name, -, rfl⟩ | rfl | rfl <;>
      simp [Glyph.word, Glyph.mark]
  refine (reads_attribute_none fun g hg => by cases hg; exact hno '@' (.inl rfl)).bind_known ?_
  refine (reads_suppression_false fun g hg => by cases hg; exact hno '~' (.inr rfl)).bind_known
    (.ite_neg (by decide) ?_)
  refine (reads_word _).bind_known ?_
  rw [List.head?_cons, Option.bind_some, Glyph.name?, hkind]
  rcases hg with ⟨name, hname, rfl⟩ | rfl | rfl
  · have hfree : name ∉ Specifier.words := fun h => hname.free (by
      simp only [reservedWords, List.mem_append]
      exact .inl (.inr h))
    have hlook : Reads (look fun ts => startsSpecified ts.tail) (first :: gs) (fun _ => True)
        (first :: gs) := fun ts hts => ⟨_, _, rfl, trivial, hts⟩
    exact hlook.bind fun next _ => .ite_neg (by simp [hfree]) (.pure rfl)
  · exact .pure rfl
  · exact .pure rfl

/-- The words before a type are read up to it. -/
theorem reads_words {words : List String} (h : ∀ word ∈ words, word ∈ Specifier.words)
    {g : Glyph} (hg : g.StartsBase) (n : Nat) (hn : words.length ≤ n) :
    Reads (collect specifier? n) (words.map .word ++ { g with gap := .space } :: gs)
      (· = words.map .word) ({ g with gap := .space } :: gs) := by
  induction words generalizing n with
  | nil => exact reads_collect_nil (reads_specifier_none hg .space) n
  | cons word words ih =>
    obtain ⟨n, rfl⟩ : ∃ m, n = m + 1 := ⟨n - 1, by rw [List.length_cons] at hn; omega⟩
    have hmore := ih (fun w hw => h w (List.mem_cons_of_mem word hw)) n (by simpa using hn)
    refine reads_collect_cons ?_ hmore
    cases words with
    | nil =>
      refine reads_specifier_word (h word List.mem_cons_self) ?_
      rcases hg with ⟨name, -, rfl⟩ | rfl | rfl
      · exact .inl rfl
      · exact .inr (.inl rfl)
      · exact .inr (.inr rfl)
    | cons next words => exact reads_specifier_word (h word List.mem_cons_self) (.inl rfl)

/-- The specifiers before a type are read up to it. -/
theorem reads_specifiers {attributes words : List String}
    (h : ∀ word ∈ words, word ∈ Specifier.words) {g : Glyph} (hg : g.StartsBase) :
    Reads (many specifier?)
      ((attributes.map Specifier.attribute ++ words.map Specifier.word).flatMap Specifier.glyphs ++
        { g with gap := .space } :: gs)
      (· = attributes.map .attribute ++ words.map .word) ({ g with gap := .space } :: gs) := by
  have hwords : (words.map Specifier.word).flatMap Specifier.glyphs = words.map .word := by
    induction words with
    | nil => rfl
    | cons word words ih =>
      rw [List.map_cons, List.flatMap_cons, ih fun w hw => h w (List.mem_cons_of_mem _ hw)]
      rfl
  rw [List.flatMap_append, hwords, List.append_assoc]
  refine reads_many fun n hn => ?_
  induction attributes generalizing n with
  | nil => exact reads_words h hg n (by simp at hn; omega)
  | cons name attributes ih =>
    rw [List.map_cons, List.flatMap_cons, List.append_assoc] at hn ⊢
    simp only [Specifier.glyphs, List.cons_append, List.nil_append, List.length_cons] at hn ⊢
    obtain ⟨n, rfl⟩ : ∃ m, n = m + 1 := ⟨n - 1, by omega⟩
    refine reads_collect_cons ?_ (ih n (by omega))
    -- a parenthesis can come next only as the first glyph of the type, after a space
    have hnext : ∀ next ∈ ((attributes.map Specifier.attribute).flatMap Specifier.glyphs ++
        (words.map Glyph.word ++ { g with gap := .space } :: gs)).head?,
        next.kind = .punct '(' → next.gap = .space := by
      intro next hhead hkind
      cases attributes with
      | cons =>
        cases hhead
        cases hkind
      | nil =>
        cases words with
        | cons =>
          cases hhead
          cases hkind
        | nil =>
          cases hhead
          rfl
    refine (reads_attribute hnext).bind_known ?_
    exact .pure rfl

theorem reads_effect {word : String} {effect : Effect} (hword : Effect.ofWord? word = some effect)
    (h : ∀ g ∈ gs.head?, g.kind ≠ .punct '(') :
    Reads effect? (.word word :: gs) (· = some effect) gs := by
  refine (reads_word _).bind_known ?_
  have hname : ((Glyph.word word :: gs).head?.bind Glyph.name?).bind Effect.ofWord? = some effect :=
    hword
  rw [hname]
  cases effect with
  | async => exact (Reads.skip 1).bind fun _ _ => .pure rfl
  | throws =>
    exact (Reads.skip 1).bind fun _ _ =>
      (reads_arguments_none fun g hg hkind => absurd hkind (h g hg)).bind fun _ _ => .pure rfl

theorem reads_effect_none (h : ∀ g ∈ gs.head?, g.name?.bind Effect.ofWord? = none) :
    Reads effect? gs (· = none) gs := by
  refine (reads_word gs).bind_known ?_
  have hnone : (gs.head?.bind Glyph.name?).bind Effect.ofWord? = none := by
    cases gs with
    | nil => rfl
    | cons g gs => exact h g rfl
  rw [hnone]
  exact .pure rfl

/-- The effects of a function are read up to what is none. -/
theorem reads_effects (e : Effects) (h : ∀ g ∈ gs.head?,
    g.kind ≠ .punct '(' ∧ g.name?.bind Effect.ofWord? = none) :
    Reads effects (e.glyphs ++ gs) (· = e) gs := by
  have hstop : ∀ n, Reads (collect effect? n) gs (· = []) gs :=
    reads_collect_nil (reads_effect_none fun g hg => (h g hg).2)
  have hopen : ∀ g ∈ gs.head?, g.kind ≠ .punct '(' := fun g hg => (h g hg).1
  have hthrows : ∀ n, Reads (collect effect? (n + 1)) (.word "throws" :: gs) (· = [.throws]) gs :=
    fun n => reads_collect_cons (reads_effect rfl hopen) (hstop n)
  obtain ⟨isAsync, throws⟩ := e
  have hfound : Reads (many effect?) (Effects.glyphs ⟨isAsync, throws⟩ ++ gs)
      (· = (if isAsync then [.async] else []) ++ if throws then [.throws] else []) gs := by
    refine reads_many fun n hn => ?_
    cases isAsync <;> cases throws <;> simp [Effects.glyphs] at hn ⊢
    · exact hstop n
    · obtain ⟨n, rfl⟩ : ∃ m, n = m + 1 := ⟨n - 1, by omega⟩
      exact hthrows n
    · obtain ⟨n, rfl⟩ : ∃ m, n = m + 1 := ⟨n - 1, by omega⟩
      exact reads_collect_cons (reads_effect rfl hopen) (hstop n)
    · obtain ⟨n, rfl⟩ : ∃ m, n = m + 2 := ⟨n - 2, by omega⟩
      exact reads_collect_cons (reads_effect rfl fun g hg => by cases hg; simp [Glyph.word])
        (hthrows n)
  refine hfound.bind fun found hfound => .pure ?_
  subst hfound
  cases isAsync <;> cases throws <;> rfl

theorem labelAt_of_written {ts : List Placed} (h : startsLabel gs = false) (hts : Written gs ts) :
    labelAt ts = none := by
  rcases hts with _ | @⟨g, _, t, _, first, _ | @⟨k, _, u, _, second, more⟩⟩
  · rfl
  · rfl
  by_cases hname : g.kind.isName
  · simp only [startsLabel, hname, Bool.true_and, Bool.or_eq_false_iff, decide_eq_false_iff_not,
      Bool.and_eq_false_iff] at h
    obtain ⟨hcolon, hthird⟩ := h
    have hsecond : u.is ':' = false := by simp [second.is, hcolon]
    cases hfirst : t.name? with
    | none => simp [labelAt, hfirst]
    | some name =>
      cases more with
      | nil => cases hu : u.name? <;> simp [labelAt, hfirst, hsecond, hu]
      | @cons l _ v _ third _ =>
        rcases hthird with hnot | hthird
        · have hu : u.name? = none := by
            rw [second.name?, Glyph.name?_eq_none (by simp [hnot])]
          simp [labelAt, hfirst, hsecond, hu]
        · have hv : v.is ':' = false := by simpa [third.is] using hthird
          cases hu : u.name? <;> simp [labelAt, hfirst, hsecond, hu, hv]
  · simp [labelAt, first.name?, Glyph.name?_eq_none hname]

theorem reads_label_none (h : startsLabel gs = false) : Reads label? gs (· = none) gs := by
  intro ts hts
  refine ⟨none, ts, ?_, rfl, hts⟩
  rw [label?, labelAt_of_written h hts]

theorem reads_label (l : Label) :
    Reads label? (l.glyphs ++ gs) (fun found => found.map (·.unplaced) = some l.unplaced) gs := by
  obtain ⟨first, second, colon⟩ := l
  cases second with
  | none =>
    rintro ts (_ | @⟨_, _, t, _, hfirst, _ | @⟨_, _, u, _, hcolon, more⟩⟩)
    have ht : t.name? = some first := hfirst.name?
    have hu : u.is ':' := by simp [hcolon.is, Glyph.mark]
    exact ⟨some ⟨first, none, u.start⟩, _, by simp [label?, labelAt, ht, hu], rfl, more⟩
  | some second =>
    rintro ts (_ | @⟨_, _, t, _, hfirst, _ | @⟨_, _, u, _, hsecond,
      _ | @⟨_, _, v, _, hcolon, more⟩⟩⟩)
    have ht : t.name? = some first := hfirst.name?
    have hu : u.name? = some second := hsecond.name?
    have hno : u.is ':' = false := by simp [hsecond.is, Glyph.word]
    have hv : v.is ':' := by simp [hcolon.is, Glyph.mark]
    exact ⟨some ⟨first, some second, v.start⟩, _, by simp [label?, labelAt, ht, hu, hno, hv], rfl,
      more⟩

/-- There is nothing between a type and what ends an element. -/
theorem reads_trailer (h : ∀ g ∈ gs.head?, g.kind ≠ .punct '.' ∧ g.kind ≠ .punct '=') :
    Reads trailer gs (fun _ => True) gs := by
  intro ts hts
  refine ⟨(), ts, ?_, trivial, hts⟩
  have hdot : startsWith '.' ts = false := hts.startsWith_eq_false fun g hg => (h g hg).1
  have hequal : startsWith '=' ts = false := hts.startsWith_eq_false fun g hg => (h g hg).2
  simp [trailer, hdot, hequal]

/-- A comma or the closing parenthesis stands after an element of a parenthesised list. -/
theorem separator_append_close {α : Type} (l : List α) {inside : List Glyph}
    (h : l = [] → inside = []) : ∃ c more,
      separator ',' l ++ (inside ++ .mark ')' :: gs) = .mark c :: more ∧ (c = ',' ∨ c = ')') := by
  cases l with
  | nil => exact ⟨')', gs, by rw [h rfl]; rfl, .inr rfl⟩
  | cons => exact ⟨',', _, rfl, .inl rfl⟩

/-- A parenthesised list goes on after a comma and ends at its parenthesis. -/
theorem reads_listEnd {α β : Type} {first : α} {others : TokenParser (List α)}
    {cause : SyntaxCause} {P : List α → Prop} (l : List β) {inside : List Glyph}
    (hend : l = [] → inside = [] ∧ P [first])
    (hmore : l ≠ [] →
      Reads others (inside ++ .mark ')' :: gs) (fun found => P (first :: found)) gs) :
    Reads (do
        if ← eats ',' then return first :: (← others)
        else if ← eats ')' then return [first]
        else fail cause)
      (separator ',' l ++ (inside ++ .mark ')' :: gs)) P gs := by
  cases l with
  | nil =>
    obtain ⟨rfl, hfirst⟩ := hend rfl
    refine (reads_eats_false fun g hg => by cases hg; simp [Glyph.mark]).bind_known
      (.ite_neg (by decide) ?_)
    exact (reads_eats rfl).bind_known (.ite_pos rfl (.pure hfirst))
  | cons =>
    refine (reads_eats rfl).bind_known (.ite_pos rfl ?_)
    exact (hmore (List.cons_ne_nil _ _)).bind fun found hfound => .pure hfound

end parts

/-! ## Types -/

/-- What follows the type at its level stops its reader. -/
def Stops (p : Glyph → Bool) (gs : List Glyph) : Prop := ∀ g ∈ gs.head?, p g

end TokenParser

open TokenParser

/-- The type is read back, by the reader of its level, from its glyphs and whatever stops it. -/
def TypeExpr.ReadBack : TypeLevel → TypeExpr → Prop
  | .suffixable, t => ∀ ⦃gs hs⦄ ⦃Q : TypeExpr → Prop⦄ ⦃n⦄, Stops Ends.base gs →
      16 * (t.glyphs.length + gs.length) + 2 ≤ n →
      (∀ m position base, base.unplaced = t.unplaced → 16 * gs.length + 1 ≤ m →
        Reads (suffixes m position base) gs Q hs) →
      Reads (suffixed n) (t.glyphs ++ gs) Q hs
  | .single, t => ∀ ⦃gs n⦄, Stops Ends.whole gs → 16 * (t.glyphs.length + gs.length) + 2 ≤ n →
      Reads (suffixed n) (t.glyphs ++ gs) (·.unplaced = t.unplaced) gs
  | .composed, t => ∀ ⦃gs n⦄, Stops Ends.whole gs → 16 * (t.glyphs.length + gs.length) + 4 ≤ n →
      Reads (TokenParser.composition n) (t.glyphs ++ gs) (·.unplaced = t.unplaced) gs
  | .whole, t => ∀ ⦃gs n⦄, Stops Ends.whole gs → 16 * (t.glyphs.length + gs.length) + 5 ≤ n →
      Reads (typeExpr n) (t.glyphs ++ gs) (·.unplaced = t.unplaced) gs

namespace TypeExpr

theorem unplacedList_eq_map (ts : List TypeExpr) : unplacedList ts = ts.map unplaced := by
  induction ts with
  | nil => rfl
  | cons t ts ih => rw [unplacedList, ih, List.map_cons]

/-- What can follow a type can follow one whose suffixes have been read, and so on. -/
theorem stops_single {gs : List Glyph} (h : Stops Ends.whole gs) : Stops Ends.single gs :=
  fun g hg => (Bool.and_eq_true_iff.1 (h g hg)).1

theorem stops_base {gs : List Glyph} (h : Stops Ends.single gs) : Stops Ends.base gs := by
  intro g hg
  have := h g hg
  simp only [Ends.single, Bool.and_eq_true] at this
  exact this.1.1.1

/-- Where no suffix follows, a type that takes suffixes is read to its end. -/
theorem ReadBack.of_suffixable {t : TypeExpr} (h : t.ReadBack .suffixable) {gs : List Glyph}
    {n : Nat} (hgs : Stops Ends.single gs) (hn : 16 * (t.glyphs.length + gs.length) + 2 ≤ n) :
    Reads (suffixed n) (t.glyphs ++ gs) (·.unplaced = t.unplaced) gs := by
  -- the reader of suffixes that is left to go on finds none
  refine h (stops_base hgs) hn fun m position base hbase hm => ?_
  obtain ⟨m, rfl⟩ : ∃ k, m = k + 1 := ⟨m - 1, by omega⟩
  exact (reads_suffixes_nil hgs m position base).mono fun found hfound => by rw [hfound, hbase]

section lists

variable {gs : List Glyph} {n : Nat}

/-- Types between commas are read one after the other. -/
theorem reads_types {ts : List TypeExpr} (h : ∀ t ∈ ts, t.ReadBack .whole) (hne : ts ≠ [])
    (hgs : Stops Ends.whole gs) (hcomma : ∀ g ∈ gs.head?, g.kind ≠ .punct ',')
    (hn : 16 * ((listGlyphs ',' ts).length + gs.length) + 6 ≤ n) :
    Reads (types n) (listGlyphs ',' ts ++ gs) (·.map unplaced = ts.map unplaced) gs := by
  induction ts generalizing n with
  | nil => exact absurd rfl hne
  | cons t ts ih =>
    obtain ⟨n, rfl⟩ : ∃ m, n = m + 1 := ⟨n - 1, by omega⟩
    have ht := h t List.mem_cons_self
    rw [listGlyphs] at hn ⊢
    cases ts with
    | nil =>
      simp only [separator_nil, listGlyphs, List.append_nil] at hn ⊢
      refine (ht hgs (by omega)).bind fun first hfirst => ?_
      refine (reads_eats_false hcomma).bind_known (.ite_neg (by decide) (.pure ?_))
      simp [hfirst]
    | cons u ts =>
      simp only [separator_cons, List.append_assoc, List.cons_append, List.nil_append,
        List.length_append, List.length_cons] at hn ⊢
      refine (ht (fun g hg => by cases hg; rfl)
        (by simp only [List.length_cons, List.length_append]; omega)).bind fun first hfirst => ?_
      refine (reads_eats rfl).bind_known (.ite_pos rfl ?_)
      refine (ih (fun t ht => h t (List.mem_cons_of_mem _ ht)) (List.cons_ne_nil _ _)
        (by omega)).bind fun others hothers => .pure ?_
      rw [List.map_cons, List.map_cons, hfirst, hothers]

/-- Generic arguments are read, or their absence. -/
theorem reads_genericArguments {ts : List TypeExpr} (h : ∀ t ∈ ts, t.ReadBack .whole)
    (hgs : Stops Ends.base gs)
    (hn : 16 * ((angled ts (listGlyphs ',' ts)).length + gs.length) + 7 ≤ n) :
    Reads (genericArguments n) (angled ts (listGlyphs ',' ts) ++ gs)
      (·.map unplaced = ts.map unplaced) gs := by
  obtain ⟨n, rfl⟩ : ∃ m, n = m + 1 := ⟨n - 1, by omega⟩
  cases ts with
  | nil => exact (reads_genericArguments_nil hgs n).mono fun found hfound => by rw [hfound]
  | cons t ts =>
    simp only [angled_cons, List.cons_append, List.append_assoc, List.nil_append, List.length_cons,
      List.length_append, List.length_nil] at hn ⊢
    have hangle : Reads (look (startsTouching '<'))
        (.suffix '<' :: (listGlyphs ',' (t :: ts) ++ .mark '>' :: gs)) (· = true)
        (.suffix '<' :: (listGlyphs ',' (t :: ts) ++ .mark '>' :: gs)) :=
      .look fun _ hts => hts.startsTouching_suffix
    refine hangle.bind_known (.ite_pos rfl ?_)
    refine (Reads.skip 1).bind fun _ _ => ?_
    have hinside : Reads (types n) (listGlyphs ',' (t :: ts) ++ .mark '>' :: gs)
        (·.map unplaced = (t :: ts).map unplaced) (.mark '>' :: gs) :=
      reads_types h (List.cons_ne_nil _ _) (fun g hg => by cases hg; rfl)
        (fun g hg => by cases hg; simp [Glyph.mark]) (by rw [List.length_cons]; omega)
    refine hinside.bind fun found hfound => ?_
    exact (reads_expect rfl).bind fun _ _ => .pure hfound

/-- The type of an element is read, up to the comma or the parenthesis after it. -/
theorem reads_elementType {α β : Type} {t : TypeExpr} (ht : t.ReadBack .whole) (l : List β)
    {inside : List Glyph} (hinside : l = [] → inside = []) {P : List α → Prop}
    {f : TypeExpr → TokenParser (List α)}
    (hn : 16 * (t.glyphs.length + (separator ',' l).length + inside.length + gs.length + 1) + 5 ≤ n)
    (hf : ∀ u, u.unplaced = t.unplaced →
      Reads (f u) (separator ',' l ++ (inside ++ .mark ')' :: gs)) P gs) :
    Reads (do
        let u ← typeExpr n
        trailer
        f u)
      (t.glyphs ++ (separator ',' l ++ (inside ++ .mark ')' :: gs))) P gs := by
  obtain ⟨c, more, hrest, hc⟩ : ∃ c more,
      separator ',' l ++ (inside ++ .mark ')' :: gs) = .mark c :: more ∧ (c = ',' ∨ c = ')') :=
    separator_append_close l hinside
  have hlen := congrArg List.length hrest
  simp only [List.length_append, List.length_cons] at hlen
  rw [hrest] at hf ⊢
  have hstops : Stops Ends.whole (.mark c :: more) := by
    rcases hc with rfl | rfl <;> exact fun g hg => by cases hg; rfl
  have htrailer : Reads trailer (.mark c :: more) (fun _ => True) (.mark c :: more) := by
    rcases hc with rfl | rfl <;> exact reads_trailer fun g hg => by cases hg; simp [Glyph.mark]
  refine (ht hstops (by rw [List.length_cons]; omega)).bind fun u hu => ?_
  exact htrailer.bind fun _ _ => hf u hu

/-- The elements of a parenthesised list are read, and the parenthesis after them. -/
theorem reads_elements {es : List (Element TypeExpr)}
    (canonical : ∀ e ∈ es, e.type.Canonical .whole) (h : ∀ e ∈ es, e.type.ReadBack .whole)
    (hn : 16 * ((elementGlyphs es).length + gs.length + 1) + 6 ≤ n) :
    Reads (elements n) (elementGlyphs es ++ .mark ')' :: gs)
      (unplacedElements · = unplacedElements es) gs := by
  induction es generalizing n with
  | nil =>
    obtain ⟨n, rfl⟩ : ∃ m, n = m + 1 := ⟨n - 1, by omega⟩
    exact (reads_eats rfl).bind_known (.ite_pos rfl (.pure rfl))
  | cons e es ih =>
    obtain ⟨n, rfl⟩ : ∃ m, n = m + 1 := ⟨n - 1, by omega⟩
    obtain ⟨label, type⟩ := e
    have htype : type.Canonical .whole := canonical _ List.mem_cons_self
    have hread : type.ReadBack .whole := h _ List.mem_cons_self
    rw [elementGlyphs] at hn ⊢
    simp only [List.append_assoc, List.length_append] at hn ⊢
    have hinside : es = [] → elementGlyphs es = [] := fun h => by rw [h, elementGlyphs]
    have hends : EndsLabel (separator ',' es ++ (elementGlyphs es ++ .mark ')' :: gs)) := by
      obtain ⟨c, more, hrest, hc⟩ : ∃ c more, separator ',' es ++ (elementGlyphs es ++
          .mark ')' :: gs) = .mark c :: more ∧ (c = ',' ∨ c = ')') :=
        separator_append_close es hinside
      rw [hrest]
      rcases hc with rfl | rfl <;> exact fun g hg => by cases hg; decide
    have hlabel : Reads label? (label.toList.flatMap (·.glyphs) ++ (type.glyphs ++
          (separator ',' es ++ (elementGlyphs es ++ .mark ')' :: gs))))
        (fun found => found.map (·.unplaced) = label.map (·.unplaced))
        (type.glyphs ++ (separator ',' es ++ (elementGlyphs es ++ .mark ')' :: gs))) := by
      cases label with
      | some l => simpa using reads_label l
      | none =>
        exact (reads_label_none (htype.startsLabel_eq_false hends)).mono fun found hfound => by
          rw [hfound]
    have hopen : ∀ g ∈ (label.toList.flatMap (·.glyphs) ++ (type.glyphs ++
        (separator ',' es ++ (elementGlyphs es ++ .mark ')' :: gs)))).head?,
        g.kind ≠ .punct ')' := by
      intro g hg
      cases label with
      | some l =>
        cases hg
        simp [Glyph.word]
      | none =>
        obtain ⟨first, more, hglyphs, hfirst⟩ := htype.startsType
        rw [hglyphs] at hg
        cases hg
        exact hfirst.kind_ne (by decide)
    refine (reads_eats_false hopen).bind_known (.ite_neg (by decide) ?_)
    refine hlabel.bind fun found hfound => ?_
    refine reads_elementType hread es hinside (by omega) fun t ht => ?_
    refine reads_listEnd es ?_ fun hmore => ?_
    · rintro rfl
      exact ⟨rfl, by simp [unplacedElements, hfound, ht]⟩
    · have hcomma := length_separator ',' hmore
      refine (ih (fun e he => canonical e (List.mem_cons_of_mem _ he))
        (fun e he => h e (List.mem_cons_of_mem _ he)) (by omega)).mono fun others hothers => ?_
      rw [unplacedElements, unplacedElements, hfound, ht, hothers]

end lists

/-! ## The readers, constructor by constructor -/

section constructors

variable {gs : List Glyph} {n position : Nat}

/-- A parenthesised list that nothing follows is a tuple. -/
theorem reads_tuple {es : List (Element TypeExpr)}
    (canonical : ∀ e ∈ es, e.type.Canonical .whole) (h : ∀ e ∈ es, e.type.ReadBack .whole)
    (hgs : Stops Ends.base gs)
    (hn : 16 * ((elementGlyphs es).length + gs.length + 1) + 7 ≤ n) :
    Reads (parenthesized n position) (elementGlyphs es ++ .mark ')' :: gs)
      (·.unplaced = (tuple position es).unplaced) gs := by
  obtain ⟨n, rfl⟩ : ∃ m, n = m + 1 := ⟨n - 1, by omega⟩
  refine (reads_elements canonical h (by omega)).bind fun elements helements => ?_
  have hlook : Reads (look startsFunction) gs (· = false) gs :=
    .look fun ts hts => startsFunction_eq_false hgs hts
  refine hlook.bind_known (.ite_neg (by decide) (.pure ?_))
  rw [unplaced, unplaced, helements]

/-- An effect begins a function type, unless a declaration follows. -/
theorem startsFunction_of_effect {word : String} {effect : Effect}
    (hword : Effect.ofWord? word = some effect)
    (hnext : ∀ g ∈ gs.head?, g.name? ≠ some "let" ∧ g.name? ≠ some "var") {ts : List Placed}
    (hts : Written (.word word :: gs) ts) : startsFunction ts := by
  rcases hts with _ | @⟨_, _, t, rest, first, more⟩
  have hrest : word? rest ≠ some "let" ∧ word? rest ≠ some "var" := by
    rw [more.word?]
    cases gs with
    | nil => simp
    | cons g gs => exact hnext g rfl
  have hname : t.name? = some word := first.name?
  have hline : t.newlineBefore = false := first.newline
  simp [startsFunction, hname, hline, hword, hrest]

/-- Effects or an arrow after a parenthesised list begin a function type. -/
theorem startsFunction_of_arrow {e : Effects} {ts : List Placed}
    (hts : Written (e.glyphs ++ .arrow :: gs) ts) : startsFunction ts := by
  obtain ⟨isAsync, throws⟩ := e
  cases isAsync with
  | true =>
    refine startsFunction_of_effect (by rfl) (fun g hg => ?_) hts
    cases throws <;> (cases hg; simp [Glyph.name?, Glyph.word, Glyph.arrow])
  | false =>
    cases throws with
    | true =>
      refine startsFunction_of_effect (by rfl) (fun g hg => ?_) hts
      cases hg
      simp [Glyph.name?, Glyph.arrow]
    | false =>
      rcases hts with _ | ⟨first, more⟩
      simp [startsFunction, first.kind, Glyph.arrow]

/-- A parenthesised list with effects or an arrow after it holds the parameters of a function. -/
theorem reads_function {ps : List (Element TypeExpr)} {effects : Effects} {result : TypeExpr}
    (canonical : ∀ e ∈ ps, e.type.Canonical .whole) (h : ∀ e ∈ ps, e.type.ReadBack .whole)
    (hresult : result.ReadBack .whole) (hgs : Stops Ends.whole gs)
    (hn : 16 * ((elementGlyphs ps).length + 1 +
      (effects.glyphs ++ .arrow :: (result.glyphs ++ gs)).length) + 7 ≤ n) :
    Reads (parenthesized n position)
      (elementGlyphs ps ++ .mark ')' :: (effects.glyphs ++ .arrow :: (result.glyphs ++ gs)))
      (·.unplaced = (function position ps effects result).unplaced) gs := by
  obtain ⟨n, rfl⟩ : ∃ m, n = m + 1 := ⟨n - 1, by omega⟩
  refine (reads_elements canonical h (by omega)).bind fun elements helements => ?_
  have hlook : Reads (look startsFunction) (effects.glyphs ++ .arrow :: (result.glyphs ++ gs))
      (· = true) (effects.glyphs ++ .arrow :: (result.glyphs ++ gs)) :=
    .look fun ts hts => startsFunction_of_arrow hts
  refine hlook.bind_known (.ite_pos rfl ?_)
  have heffects : Reads TokenParser.effects (effects.glyphs ++ .arrow :: (result.glyphs ++ gs))
      (· = effects) (.arrow :: (result.glyphs ++ gs)) := reads_effects effects fun g hg => by
    cases hg
    exact ⟨by simp [Glyph.arrow], rfl⟩
  refine heffects.bind fun found hfound => ?_
  refine reads_arrow.bind_known (.ite_pos rfl ?_)
  simp only [List.length_append, List.length_cons] at hn
  refine (hresult hgs (by omega)).bind fun result' hresult' => .pure ?_
  rw [unplaced, unplaced, helements, hfound, hresult']

/-- What the reader of a type without suffixes reads is read back before suffixes. -/
theorem readBack_of_primary {t : TypeExpr} (h : ∀ ⦃gs n⦄, Stops Ends.base gs →
      16 * (t.glyphs.length + gs.length) + 1 ≤ n →
      Reads (primary n) (t.glyphs ++ gs) (·.unplaced = t.unplaced) gs) :
    t.ReadBack .suffixable := by
  intro gs hs Q n hgs hn hmore
  obtain ⟨n, rfl⟩ : ∃ m, n = m + 1 := ⟨n - 1, by omega⟩
  refine Reads.position.bind fun position _ => ?_
  exact (h hgs (by omega)).bind fun base hbase => hmore n position base hbase (by omega)

theorem readBack_named {name : String} {arguments : List TypeExpr}
    (h : ∀ t ∈ arguments, t.ReadBack .whole) :
    (named position name arguments).ReadBack .suffixable := by
  refine readBack_of_primary fun gs n hgs hn => ?_
  obtain ⟨n, rfl⟩ : ∃ m, n = m + 1 := ⟨n - 1, by omega⟩
  rw [glyphs] at hn ⊢
  rw [List.length_cons] at hn
  refine Reads.position.bind fun position _ => ?_
  refine (reads_name rfl).bind_known ?_
  refine (reads_genericArguments h hgs (by omega)).bind fun found hfound => .pure ?_
  rw [unplaced, unplaced, unplacedList_eq_map, unplacedList_eq_map, hfound]

/-- A member goes on from its base, which the reader of suffixes takes to the name. -/
theorem readBack_member {base : TypeExpr} {name : String} {arguments : List TypeExpr}
    (hbase : base.ReadBack .suffixable) (h : ∀ t ∈ arguments, t.ReadBack .whole) :
    (member position base name arguments).ReadBack .suffixable := by
  intro gs hs Q n hgs hn hmore
  rw [glyphs] at hn ⊢
  simp only [List.append_assoc, List.cons_append, List.length_append, List.length_cons] at hn ⊢
  -- after the base the same reader of suffixes goes on with the dot
  refine hbase (fun g hg => by cases hg; rfl)
    (by simp only [List.length_append, List.length_cons]; omega) fun m start found hfound hm => ?_
  simp only [List.length_append, List.length_cons] at hm
  obtain ⟨m, rfl⟩ : ∃ k, m = k + 1 := ⟨m - 1, by omega⟩
  refine (reads_optionalMark_none fun g hg => by cases hg; simp [Glyph.mark]).bind_known ?_
  refine (reads_memberName name).bind_known ?_
  refine (reads_genericArguments h hgs (by omega)).bind fun arguments' harguments => ?_
  refine hmore m start _ ?_ (by omega)
  rw [unplaced, unplaced, hfound, unplacedList_eq_map, unplacedList_eq_map, harguments]

theorem readBack_optional {wrapped : TypeExpr} {mark : OptionalMark}
    (h : wrapped.ReadBack .suffixable) : (optional position wrapped mark).ReadBack .suffixable := by
  intro gs hs Q n hgs hn hmore
  rw [glyphs] at hn ⊢
  simp only [List.append_assoc, List.cons_append, List.nil_append, List.length_append,
    List.length_cons, List.length_nil] at hn ⊢
  refine h (fun g hg => by cases hg; cases mark <;> rfl)
    (by simp only [List.length_cons]; omega) fun m start found hfound hm => ?_
  simp only [List.length_cons] at hm
  obtain ⟨m, rfl⟩ : ∃ k, m = k + 1 := ⟨m - 1, by omega⟩
  refine (reads_optionalMark mark).bind_known ?_
  refine hmore m start _ ?_ (by omega)
  rw [unplaced, unplaced, hfound]

/-- The reader of a type without suffixes goes on after a parenthesis. -/
theorem reads_primary_paren {hs : List Glyph} {P : TypeExpr → Prop}
    (h : ∀ position, Reads (parenthesized n position) gs P hs) :
    Reads (primary (n + 1)) (.mark '(' :: gs) P hs := by
  refine Reads.position.bind fun position _ => ?_
  refine (reads_name_none fun g hg => by cases hg; decide).bind_known ?_
  exact (reads_eats rfl).bind_known (.ite_pos rfl (h position))

theorem reads_primary_bracket {hs : List Glyph} {P : TypeExpr → Prop}
    (h : ∀ position, Reads (bracketed n position) gs P hs) :
    Reads (primary (n + 1)) (.mark '[' :: gs) P hs := by
  refine Reads.position.bind fun position _ => ?_
  refine (reads_name_none fun g hg => by cases hg; decide).bind_known ?_
  refine (reads_eats_false fun g hg => by cases hg; simp [Glyph.mark]).bind_known
    (.ite_neg (by decide) ?_)
  exact (reads_eats rfl).bind_known (.ite_pos rfl (h position))

theorem readBack_tuple {es : List (Element TypeExpr)}
    (canonical : ∀ e ∈ es, e.type.Canonical .whole) (h : ∀ e ∈ es, e.type.ReadBack .whole) :
    (tuple position es).ReadBack .suffixable := by
  refine readBack_of_primary fun gs n hgs hn => ?_
  obtain ⟨n, rfl⟩ : ∃ m, n = m + 1 := ⟨n - 1, by omega⟩
  rw [glyphs] at hn ⊢
  simp only [List.append_assoc, List.cons_append, List.nil_append, List.length_append,
    List.length_cons, List.length_nil] at hn ⊢
  refine reads_primary_paren fun start => ?_
  exact (reads_tuple canonical h hgs (by omega)).mono fun found hfound => by
    rw [hfound, unplaced, unplaced]

theorem readBack_array {element : TypeExpr} (h : element.ReadBack .whole) :
    (array position element).ReadBack .suffixable := by
  refine readBack_of_primary fun gs n hgs hn => ?_
  rw [glyphs] at hn ⊢
  simp only [List.append_assoc, List.cons_append, List.nil_append, List.length_append,
    List.length_cons, List.length_nil] at hn ⊢
  obtain ⟨n, rfl⟩ : ∃ m, n = m + 2 := ⟨n - 2, by omega⟩
  refine reads_primary_bracket fun start => ?_
  refine (h (fun g hg => by cases hg; rfl) (by rw [List.length_cons]; omega)).bind
    fun first hfirst => ?_
  refine (Reads.optionally_none
    (reads_eats_false fun g hg => by cases hg; simp [Glyph.mark])).bind_known ?_
  refine (reads_expect rfl).bind fun _ _ => .pure ?_
  rw [unplaced, unplaced, hfirst]

theorem readBack_dictionary {key value : TypeExpr} (hkey : key.ReadBack .whole)
    (hvalue : value.ReadBack .whole) : (dictionary position key value).ReadBack .suffixable := by
  refine readBack_of_primary fun gs n hgs hn => ?_
  rw [glyphs] at hn ⊢
  simp only [List.append_assoc, List.cons_append, List.nil_append, List.length_append,
    List.length_cons, List.length_nil] at hn ⊢
  obtain ⟨n, rfl⟩ : ∃ m, n = m + 2 := ⟨n - 2, by omega⟩
  refine reads_primary_bracket fun start => ?_
  refine (hkey (fun g hg => by cases hg; rfl)
    (by simp only [List.length_cons, List.length_append]; omega)).bind fun first hfirst => ?_
  have hread : Reads (typeExpr n) (value.glyphs ++ .mark ']' :: gs)
      (·.unplaced = value.unplaced) (.mark ']' :: gs) :=
    hvalue (fun g hg => by cases hg; rfl) (by rw [List.length_cons]; omega)
  refine (Reads.optionally_some (reads_eats rfl) hread (Q := fun found =>
    found.map (·.unplaced) = some value.unplaced) fun t ht => by rw [Option.map_some, ht]).bind
      fun found hfound => ?_
  cases found with
  | none => cases hfound
  | some found =>
    have hfound : found.unplaced = value.unplaced := Option.some.inj hfound
    refine (reads_expect rfl).bind fun _ _ => .pure ?_
    rw [unplaced, unplaced, hfirst, hfound]

theorem readBack_function {ps : List (Element TypeExpr)} {effects : Effects} {result : TypeExpr}
    (canonical : ∀ e ∈ ps, e.type.Canonical .whole) (h : ∀ e ∈ ps, e.type.ReadBack .whole)
    (hresult : result.ReadBack .whole) :
    (function position ps effects result).ReadBack .single := by
  intro gs n hgs hn
  obtain ⟨n, rfl⟩ : ∃ m, n = m + 2 := ⟨n - 2, by omega⟩
  rw [glyphs] at hn ⊢
  simp only [List.append_assoc, List.cons_append, List.length_append, List.length_cons] at hn ⊢
  have hprimary : Reads (primary (n + 1))
      (.mark '(' :: (elementGlyphs ps ++
        .mark ')' :: (effects.glyphs ++ .arrow :: (result.glyphs ++ gs))))
      (·.unplaced = (function position ps effects result).unplaced) gs := by
    refine reads_primary_paren fun start => ?_
    refine (reads_function canonical h hresult hgs ?_).mono fun found hfound => ?_
    · simp only [List.length_append, List.length_cons]
      omega
    · rw [hfound, unplaced, unplaced]
  refine Reads.position.bind fun start _ => hprimary.bind fun found hfound => ?_
  exact (reads_suffixes_nil (stops_single hgs) n start found).mono fun t ht => by rw [ht, hfound]

/-- What stops a type is no further part of a composition. -/
theorem reads_conjuncts_nil (hgs : Stops Ends.whole gs) (n : Nat) :
    Reads (conjuncts (n + 1)) gs (· = []) gs := by
  have hstop : ∀ g ∈ gs.head?, g.kind ≠ .punct '&' := fun g hg => by
    have := hgs g hg
    simp only [Ends.whole, Bool.and_eq_true, decide_eq_true_eq] at this
    exact this.2
  exact (reads_eats_false hstop).bind_known (.ite_neg (by decide) (.pure rfl))

/-- The parts of a composition after the first are read; the last may be a function type. -/
theorem reads_conjuncts {middle : List TypeExpr} {last : TypeExpr}
    (h : ∀ t ∈ middle, t.ReadBack .suffixable) (hlast : last.ReadBack .single)
    (hgs : Stops Ends.whole gs)
    (hn : 16 * ((listGlyphs '&' (middle ++ [last])).length + gs.length + 1) + 3 ≤ n) :
    Reads (conjuncts n) (.mark '&' :: (listGlyphs '&' (middle ++ [last]) ++ gs))
      (·.map unplaced = (middle ++ [last]).map unplaced) gs := by
  induction middle generalizing n with
  | nil =>
    obtain ⟨n, rfl⟩ : ∃ m, n = m + 2 := ⟨n - 2, by omega⟩
    simp only [List.nil_append, listGlyphs, separator_nil, List.append_nil] at hn ⊢
    refine (reads_eats rfl).bind_known (.ite_pos rfl ?_)
    refine (hlast hgs (by omega)).bind fun part hpart => ?_
    refine (reads_conjuncts_nil hgs n).bind fun others hothers => .pure ?_
    rw [hothers, List.map_cons, List.map_cons, hpart]
  | cons t middle ih =>
    obtain ⟨n, rfl⟩ : ∃ m, n = m + 1 := ⟨n - 1, by omega⟩
    rw [List.cons_append, listGlyphs, separator_concat] at hn ⊢
    simp only [List.append_assoc, List.cons_append, List.nil_append, List.length_append,
      List.length_cons] at hn ⊢
    refine (reads_eats rfl).bind_known (.ite_pos rfl ?_)
    refine ((h t List.mem_cons_self).of_suffixable (fun g hg => by cases hg; rfl)
      (by simp only [List.length_cons, List.length_append]; omega)).bind fun part hpart => ?_
    refine (ih (fun t ht => h t (List.mem_cons_of_mem _ ht)) (by omega)).bind
      fun others hothers => .pure ?_
    rw [List.map_cons, List.map_cons, hpart, hothers]

theorem readBack_composition {first last : TypeExpr} {middle : List TypeExpr}
    (hfirst : first.ReadBack .suffixable) (hmiddle : ∀ t ∈ middle, t.ReadBack .suffixable)
    (hlast : last.ReadBack .single) :
    (composition position (first :: middle ++ [last])).ReadBack .composed := by
  intro gs n hgs hn
  obtain ⟨n, rfl⟩ : ∃ m, n = m + 1 := ⟨n - 1, by omega⟩
  rw [glyphs, List.cons_append, listGlyphs, separator_concat] at hn ⊢
  simp only [List.append_assoc, List.cons_append, List.nil_append, List.length_append,
    List.length_cons] at hn ⊢
  refine Reads.position.bind fun start _ => ?_
  refine (hfirst.of_suffixable (fun g hg => by cases hg; rfl)
    (by simp only [List.length_cons, List.length_append]; omega)).bind fun part hpart => ?_
  refine (reads_conjuncts hmiddle hlast hgs (by omega)).bind fun others hothers => ?_
  cases others with
  | nil => simp at hothers
  | cons second others =>
    refine .pure ?_
    rw [unplaced, unplaced, unplacedList_eq_map, unplacedList_eq_map, List.map_cons, hpart, hothers]
    rfl

theorem ReadBack.composed {t : TypeExpr} (h : t.ReadBack .single) : t.ReadBack .composed := by
  intro gs n hgs hn
  obtain ⟨n, rfl⟩ : ∃ m, n = m + 2 := ⟨n - 2, by omega⟩
  refine Reads.position.bind fun start _ => ?_
  refine (h hgs (by omega)).bind fun first hfirst => ?_
  refine (reads_conjuncts_nil hgs n).bind_known ?_
  exact .pure hfirst

theorem readBack_attributed {attributes words : List String} {base : TypeExpr}
    (some_specifier : attributes ≠ [] ∨ words ≠ [])
    (specifying : ∀ word ∈ words, word ∈ Specifier.words) (canonical : base.Canonical .composed)
    (h : base.ReadBack .composed) :
    (attributed position (attributes.map .attribute ++ words.map .word) base).ReadBack .whole := by
  intro gs n hgs hn
  obtain ⟨n, rfl⟩ : ∃ m, n = m + 1 := ⟨n - 1, by omega⟩
  obtain ⟨g, more, hglyphs, hg⟩ := canonical.startsBase (by decide)
  have hlen : (spaced base.glyphs).length = base.glyphs.length := by rw [hglyphs]; rfl
  rw [glyphs, List.length_append, hlen] at hn
  rw [glyphs, List.append_assoc, hglyphs]
  refine Reads.position.bind fun start _ => ?_
  refine (reads_specifiers specifying hg).bind fun specifiers hspecifiers => ?_
  -- the base has a space before it here, which its reader does not see
  have hbase := h hgs (n := n) (by omega)
  rw [hglyphs] at hbase
  refine (hbase.spaced hg.startsType.gap).bind fun found hfound => .pure ?_
  have hne : specifiers.isEmpty = false := by
    rw [hspecifiers]
    rcases some_specifier with hne | hne <;> simp [hne]
  rw [hne, if_neg (by decide), unplaced, unplaced, hfound, hspecifiers]

theorem ReadBack.whole {t : TypeExpr} (canonical : t.Canonical .composed)
    (h : t.ReadBack .composed) : t.ReadBack .whole := by
  intro gs n hgs hn
  obtain ⟨n, rfl⟩ : ∃ m, n = m + 1 := ⟨n - 1, by omega⟩
  obtain ⟨g, more, hglyphs, hg⟩ := canonical.startsBase (by decide)
  have hnone : Reads (many specifier?) (t.glyphs ++ gs) (· = []) (t.glyphs ++ gs) := by
    rw [hglyphs]
    exact reads_many_nil (reads_specifier_none hg g.gap)
  refine Reads.position.bind fun start _ => ?_
  refine hnone.bind_known ?_
  exact (h hgs (by omega)).bind fun found hfound => .pure hfound

end constructors

/-- **A printed type is read back.** -/
theorem Canonical.readBack {level : TypeLevel} {t : TypeExpr} (h : t.Canonical level) :
    t.ReadBack level := by
  induction h with
  | named _ _ ih => exact readBack_named ih
  | member _ _ _ ihbase ih => exact readBack_member ihbase ih
  | tuple _ inside ih => exact readBack_tuple inside ih
  | optional _ ih => exact readBack_optional ih
  | array _ ih => exact readBack_array ih
  | dictionary _ _ ihkey ihvalue => exact readBack_dictionary ihkey ihvalue
  | function _ inside _ ih ihresult => exact readBack_function inside ih ihresult
  | single _ ih => exact fun gs n hgs hn => ih.of_suffixable (stops_single hgs) hn
  | composition _ _ _ ihfirst ihmiddle ihlast =>
    exact readBack_composition ihfirst ihmiddle ihlast
  | composed _ ih => exact ReadBack.composed ih
  | attributed some_specifier _ specifying canonical ih =>
    exact readBack_attributed some_specifier specifying canonical ih
  | whole canonical ih => exact ReadBack.whole canonical ih

end TypeExpr

end SwiftTuples
