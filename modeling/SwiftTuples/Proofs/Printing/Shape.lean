import SwiftTuples.Proofs.Printing.Canonical
/-!
# The shape of canonical glyphs

What reading has to know of canonical glyphs before it reads them: they are legible, a type begins
with a name or a bracket unless it has specifiers, and no type begins like a label.
-/

namespace SwiftTuples

section lists

variable {α : Type} (c : Char) (x : α) (xs : List α)

@[simp] theorem separator_nil : separator c ([] : List α) = [] := rfl

@[simp] theorem separator_cons : separator c (x :: xs) = [.mark c] := rfl

theorem separator_concat : separator c (xs ++ [x]) = [.mark c] := by cases xs <;> rfl

theorem length_separator {xs : List α} (h : xs ≠ []) : (separator c xs).length = 1 := by
  cases xs with
  | nil => exact absurd rfl h
  | cons => rfl

@[simp] theorem angled_nil (inside : List Glyph) : angled ([] : List α) inside = [] := rfl

@[simp] theorem angled_cons (inside : List Glyph) :
    angled (x :: xs) inside = .suffix '<' :: (inside ++ [.mark '>']) := rfl

end lists

/-! ## Legible glyphs -/

/-- The glyphs are legible in front of legible ones. -/
def Sound (gs : List Glyph) : Prop :=
  ∀ ⦃pending hs⦄, Legible false pending hs → Legible false pending (gs ++ hs)

/-- The glyph is plain, and neither a dot nor a brace. -/
def Glyph.Quiet (g : Glyph) : Prop :=
  g.Plain ∧ g.kind ≠ .punct '.' ∧ g.kind ≠ .punct '{' ∧ g.kind ≠ .punct '}'

theorem Glyph.quiet_of_isName {name : String} {gap : Gap} (h : isWord name.toList)
    (hgap : gap ≠ .nothing) : Glyph.Quiet ⟨.ident name, gap⟩ :=
  ⟨⟨h, fun _ => hgap⟩, by simp, by simp, by simp⟩

theorem Glyph.quiet_of_mark {c : Char} {gap : Gap} (h : c ∈ printedMarks)
    (hc : c ≠ '.' ∧ c ≠ '{' ∧ c ≠ '}') : Glyph.Quiet ⟨.punct c, gap⟩ :=
  ⟨⟨List.contains_iff_mem.2 h, fun h => by cases h⟩, by simpa using hc⟩

theorem Glyph.quiet_arrow : Glyph.arrow.Quiet := ⟨⟨rfl, fun h => by cases h⟩, by simp [arrow]⟩

theorem IsPlainName.quiet {name : String} (h : IsPlainName name) : (Glyph.word name).Quiet :=
  Glyph.quiet_of_isName h.word (by decide)

theorem IsPlainName.ne_empty {name : String} (h : IsPlainName name) : name ≠ "" := by
  rintro rfl
  exact Bool.false_ne_true h.word

namespace Sound

theorem nil : Sound [] := fun _ _ h => h

theorem append {gs hs : List Glyph} (hgs : Sound gs) (hhs : Sound hs) : Sound (gs ++ hs) := by
  intro pending more h
  rw [List.append_assoc]
  exact hgs (hhs h)

theorem cons {g : Glyph} {gs : List Glyph} (hg : g.Quiet) (hgs : Sound gs) : Sound (g :: gs) := by
  intro pending more h
  obtain ⟨hplain, hdot, hopen, hclose⟩ := hg
  refine .other hplain (fun h => by cases h) hopen hclose ?_
  simp only [hdot, decide_false]
  exact hgs h

theorem glyph {g : Glyph} (hg : g.Quiet) : Sound [g] := cons hg nil

/-- A dot is legible before a name. -/
theorem member {name : String} {gs : List Glyph} (h : IsPlainName name) (hgs : Sound gs) :
    Sound (.mark '.' :: .word name :: gs) := by
  intro pending more hmore
  refine .other ⟨rfl, fun h => by cases h⟩ (fun h => by cases h) (by simp [Glyph.mark])
    (by simp [Glyph.mark]) ?_
  obtain ⟨hplain, hdot, hopen, hclose⟩ := h.quiet
  refine .other hplain (fun _ => by simp [Glyph.word]) hopen hclose ?_
  simp only [hdot, decide_false]
  exact hgs hmore

theorem flatMap {α : Type} {f : α → List Glyph} {l : List α} (h : ∀ a ∈ l, Sound (f a)) :
    Sound (l.flatMap f) := by
  induction l with
  | nil => exact nil
  | cons a l ih =>
    exact (h a List.mem_cons_self).append (ih fun b hb => h b (List.mem_cons_of_mem a hb))

theorem words {names : List String} (h : ∀ name ∈ names, IsPlainName name) :
    Sound (names.map .word) := by
  induction names with
  | nil => exact nil
  | cons name names ih =>
    exact cons (h name List.mem_cons_self).quiet (ih fun n hn => h n (List.mem_cons_of_mem _ hn))

theorem separator {α : Type} {c : Char} (hc : Glyph.Quiet (.mark c)) (l : List α) :
    Sound (separator c l) := by
  cases l with
  | nil => exact nil
  | cons => exact glyph hc

theorem spaced {gs : List Glyph} (h : Sound gs) : Sound (spaced gs) := by
  cases gs with
  | nil => exact nil
  | cons g gs =>
    intro pending more hmore
    cases h hmore with
    | opening line more => exact .opening (fun h => by cases h) more
    | closing line more => exact .closing (fun h => by cases h) more
    | other plain line hopen hclose more =>
      exact .other ⟨plain.1, fun _ => by simp⟩ (fun h => by cases h) hopen hclose more

end Sound

theorem Label.Plain.sound {l : Label} (h : l.Plain) : Sound l.glyphs :=
  (Sound.words h).append (.glyph (Glyph.quiet_of_mark (by decide) (by decide)))

theorem Effects.sound (e : Effects) : Sound e.glyphs := by
  have hasync : (Glyph.word "async").Quiet := Glyph.quiet_of_isName (by decide) (by decide)
  have hthrows : (Glyph.word "throws").Quiet := Glyph.quiet_of_isName (by decide) (by decide)
  refine Sound.append ?_ ?_
  · split
    · exact .glyph hasync
    · exact .nil
  · split
    · exact .glyph hthrows
    · exact .nil

theorem isWord_of_mem_words {word : String} (h : word ∈ Specifier.words) : isWord word.toList := by
  have hall : ∀ w ∈ Specifier.words, isWord w.toList := by decide
  exact hall word h

namespace TypeExpr

theorem sound_listGlyphs {c : Char} (hc : Glyph.Quiet (.mark c)) {ts : List TypeExpr}
    (h : ∀ t ∈ ts, Sound t.glyphs) : Sound (listGlyphs c ts) := by
  induction ts with
  | nil => exact .nil
  | cons t ts ih =>
    rw [listGlyphs]
    exact (h t List.mem_cons_self).append
      ((Sound.separator hc ts).append (ih fun u hu => h u (List.mem_cons_of_mem t hu)))

theorem quiet_comma : (Glyph.mark ',').Quiet := Glyph.quiet_of_mark (by decide) (by decide)

theorem sound_angled {arguments : List TypeExpr} (h : ∀ t ∈ arguments, Sound t.glyphs) :
    Sound (angled arguments (listGlyphs ',' arguments)) := by
  cases arguments with
  | nil => exact .nil
  | cons t ts =>
    exact .cons (Glyph.quiet_of_mark (by decide) (by decide))
      ((sound_listGlyphs quiet_comma h).append
        (.glyph (Glyph.quiet_of_mark (by decide) (by decide))))

theorem sound_elementGlyphs {es : List (Element TypeExpr)}
    (labels : ∀ e ∈ es, ∀ l ∈ e.label, l.Plain) (inside : ∀ e ∈ es, Sound e.type.glyphs) :
    Sound (elementGlyphs es) := by
  induction es with
  | nil => exact .nil
  | cons e es ih =>
    obtain ⟨label, type⟩ := e
    rw [elementGlyphs]
    have hlabel : Sound (label.toList.flatMap (·.glyphs)) := .flatMap fun l hl =>
      (labels _ List.mem_cons_self l (by simpa using hl)).sound
    exact hlabel.append ((inside _ List.mem_cons_self).append
      ((Sound.separator quiet_comma es).append
        (ih (fun e he => labels e (List.mem_cons_of_mem _ he))
          fun e he => inside e (List.mem_cons_of_mem _ he))))

/-- A canonical type is legible. -/
theorem Canonical.sound {level : TypeLevel} {t : TypeExpr} (h : t.Canonical level) :
    Sound t.glyphs := by
  have mark : ∀ {c : Char}, c ∈ printedMarks → c ≠ '.' ∧ c ≠ '{' ∧ c ≠ '}' →
      (Glyph.mark c).Quiet := fun hc hne => Glyph.quiet_of_mark hc hne
  induction h with
  | named plain _ ih => exact .cons plain.quiet (sound_angled ih)
  | member _ plain _ ihbase ih => exact ihbase.append (.member plain (sound_angled ih))
  | tuple labels _ ih =>
    exact .cons (mark (by decide) (by decide))
      ((sound_elementGlyphs labels ih).append (.glyph (mark (by decide) (by decide))))
  | @optional _ _ m _ ih =>
    refine ih.append (.glyph (Glyph.quiet_of_mark ?_ ?_)) <;> cases m <;> decide
  | array _ ih =>
    exact .cons (mark (by decide) (by decide)) (ih.append (.glyph (mark (by decide) (by decide))))
  | dictionary _ _ ihkey ihvalue =>
    exact .cons (mark (by decide) (by decide)) (ihkey.append
      (.cons (mark (by decide) (by decide))
        (ihvalue.append (.glyph (mark (by decide) (by decide))))))
  | function labels _ _ ih ihresult =>
    exact .cons (mark (by decide) (by decide)) ((sound_elementGlyphs labels ih).append
      (.cons (mark (by decide) (by decide)) ((Effects.sound _).append
        (.cons Glyph.quiet_arrow ihresult))))
  | single _ ih | composed _ ih | whole _ ih => exact ih
  | composition _ _ _ ihfirst ihmiddle ihlast =>
    refine sound_listGlyphs (mark (by decide) (by decide)) fun t ht => ?_
    rcases List.mem_append.1 ht with ht | ht
    · rcases List.mem_cons.1 ht with rfl | ht
      · exact ihfirst
      · exact ihmiddle t ht
    · rw [List.mem_singleton.1 ht]
      exact ihlast
  | attributed _ plain specifying _ ih =>
    refine Sound.append (.flatMap fun s hs => ?_) ih.spaced
    rcases List.mem_append.1 hs with hs | hs
    · obtain ⟨name, hname, rfl⟩ := List.mem_map.1 hs
      exact .cons (mark (by decide) (by decide)) (.glyph (plain name hname).quiet)
    · obtain ⟨word, hword, rfl⟩ := List.mem_map.1 hs
      exact .glyph (Glyph.quiet_of_isName (isWord_of_mem_words (specifying word hword)) (by decide))

end TypeExpr

/-! ## Where a type begins -/

/-- The glyph begins a type without specifiers. -/
def Glyph.StartsBase (g : Glyph) : Prop :=
  (∃ name, IsPlainName name ∧ g = .word name) ∨ g = .mark '(' ∨ g = .mark '['

/-- The glyph begins a type. -/
structure Glyph.StartsType (g : Glyph) : Prop where
  kind : g.kind.isName ∨ g.kind = .punct '(' ∨ g.kind = .punct '[' ∨ g.kind = .punct '@'
  gap : g.gap = .free

/-- A glyph that begins a type is no other mark. -/
theorem Glyph.StartsType.kind_ne {g : Glyph} (h : g.StartsType) {c : Char}
    (hc : c ≠ '(' ∧ c ≠ '[' ∧ c ≠ '@') : g.kind ≠ .punct c := by
  rcases h.kind with hname | hkind | hkind | hkind
  · intro hkind
    rw [hkind] at hname
    cases hname
  all_goals simp [hkind, hc, Ne.symm]

theorem Glyph.StartsBase.startsType {g : Glyph} (h : g.StartsBase) : g.StartsType := by
  rcases h with ⟨name, -, rfl⟩ | rfl | rfl
  · exact ⟨.inl rfl, rfl⟩
  · exact ⟨.inr (.inl rfl), rfl⟩
  · exact ⟨.inr (.inr (.inl rfl)), rfl⟩

/-- The glyphs begin like a label. -/
def startsLabel : List Glyph → Bool
  | g :: h :: rest =>
    g.kind.isName &&
      (h.kind = .punct ':' || (h.kind.isName && rest.head?.any (·.kind = .punct ':')))
  | _ => false

/-- What follows a type, so that its first name cannot be taken for a label. -/
def EndsLabel (gs : List Glyph) : Prop :=
  ∀ g ∈ gs.head?, g.kind ≠ .punct ':' ∧ ¬ g.kind.isName

namespace TypeExpr

/-- A canonical type without specifiers begins with a name or a bracket. -/
theorem Canonical.startsBase {level : TypeLevel} {t : TypeExpr} (h : t.Canonical level)
    (hlevel : level ≠ .whole) : ∃ g gs, t.glyphs = g :: gs ∧ g.StartsBase := by
  induction h with
  | named plain => exact ⟨_, _, rfl, .inl ⟨_, plain, rfl⟩⟩
  | member _ _ _ ih | optional _ ih =>
    obtain ⟨g, gs, hbase, hg⟩ := ih (by decide)
    exact ⟨g, _, by rw [glyphs, hbase, List.cons_append], hg⟩
  | tuple | function => exact ⟨_, _, rfl, .inr (.inl rfl)⟩
  | array | dictionary => exact ⟨_, _, rfl, .inr (.inr rfl)⟩
  | single _ ih | composed _ ih => exact ih (by decide)
  | composition _ _ _ ih =>
    obtain ⟨g, gs, hfirst, hg⟩ := ih (by decide)
    exact ⟨g, _, by rw [glyphs, List.cons_append, listGlyphs, hfirst, List.cons_append], hg⟩
  | attributed | whole => exact absurd rfl hlevel

/-- A canonical type begins with a name, an opening bracket or an attribute. -/
theorem Canonical.startsType {level : TypeLevel} {t : TypeExpr} (h : t.Canonical level) :
    ∃ g gs, t.glyphs = g :: gs ∧ g.StartsType := by
  have hbase : ∀ {level : TypeLevel} {t : TypeExpr}, t.Canonical level → level ≠ .whole →
      ∃ g gs, t.glyphs = g :: gs ∧ g.StartsType := by
    intro level t h hlevel
    obtain ⟨g, gs, hglyphs, hg⟩ := h.startsBase hlevel
    exact ⟨g, gs, hglyphs, hg.startsType⟩
  by_cases hlevel : level = .whole
  · subst hlevel
    cases h with
    | whole canonical => exact hbase canonical (by decide)
    | @attributed _ attributes words base some_specifier =>
      rw [glyphs]
      cases attributes with
      | cons => exact ⟨_, _, rfl, .inr (.inr (.inr rfl)), rfl⟩
      | nil =>
        cases words with
        | nil => simp at some_specifier
        | cons => exact ⟨_, _, rfl, .inl rfl, rfl⟩
  · exact hbase h hlevel

theorem startsLabel_of_not_isName {g : Glyph} {gs : List Glyph} (h : ¬ g.kind.isName) :
    startsLabel (g :: gs) = false := by
  cases gs with
  | nil => rfl
  | cons => simp [startsLabel, h]

/-- **No canonical type begins like a label.** -/
theorem Canonical.startsLabel_eq_false {level : TypeLevel} {t : TypeExpr} (h : t.Canonical level)
    {gs : List Glyph} (hgs : EndsLabel gs) : startsLabel (t.glyphs ++ gs) = false := by
  induction h generalizing gs with
  | @named _ name arguments =>
    rw [glyphs]
    cases arguments with
    | nil =>
      cases gs with
      | nil => rfl
      | cons g gs => simp [startsLabel, hgs g rfl]
    | cons => rfl
  | member _ _ _ ih =>
    rw [glyphs, List.append_assoc]
    exact ih fun g hg => by cases hg; exact ⟨by simp [Glyph.mark], by decide⟩
  | @optional _ _ mark _ ih =>
    rw [glyphs, List.append_assoc]
    exact ih fun g hg => by cases hg; cases mark <;> decide
  | tuple | function | array | dictionary => exact startsLabel_of_not_isName (by decide)
  | single _ ih | composed _ ih | whole _ ih => exact ih hgs
  | composition _ _ _ ih =>
    rw [glyphs, List.cons_append, listGlyphs, separator_concat, List.append_assoc]
    exact ih fun g hg => by cases hg; decide
  | @attributed _ attributes words base some_specifier _ _ canonical ih =>
    obtain ⟨g, more, hbase, hg⟩ := canonical.startsBase (by decide)
    rw [glyphs, hbase]
    cases attributes with
    | cons => exact startsLabel_of_not_isName (by decide)
    | nil =>
      -- a word comes first: another word or the type itself stands second, and neither the
      -- second nor the third glyph is a colon
      have hcolon : g.kind ≠ .punct ':' := by
        rcases hg with ⟨name, -, rfl⟩ | rfl | rfl <;> simp [Glyph.word, Glyph.mark]
      cases words with
      | nil => simp at some_specifier
      | cons first others =>
        cases others with
        | cons second others => cases others <;> simp [startsLabel, Specifier.glyphs, spaced,
            Glyph.word, TokenKind.isName, hcolon]
        | nil =>
          have hmore := ih hgs
          rw [hbase] at hmore
          cases more with
          | nil =>
            cases gs with
            | nil => simp [startsLabel, Specifier.glyphs, spaced, hcolon]
            | cons h gs =>
              have := hgs h rfl
              simp [startsLabel, Specifier.glyphs, spaced, hcolon, this]
          | cons h more =>
            cases hname : g.kind.isName with
            | false => simp [startsLabel, Specifier.glyphs, spaced, hcolon, hname]
            | true =>
              simp only [List.cons_append, startsLabel, hname, Bool.true_and,
                Bool.or_eq_false_iff] at hmore
              simpa [startsLabel, Specifier.glyphs, spaced, hcolon, hname] using fun _ => hmore.1

end TypeExpr

end SwiftTuples
