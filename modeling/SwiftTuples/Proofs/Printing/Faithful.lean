import SwiftTuples.Proofs.Parsing.Deriving
import SwiftTuples.Proofs.Printing.Canonical
/-!
# A type keeps what it was written with

Reading a type forgets four things: default values, the dots of a variadic element, the arguments
of attributes and of `throws`, and a comma at the end of a list; effects it keeps in one order only.
Where the tokens that a type was read from have none of these (`PlainlyWritten`), they are the
tokens that the type is printed with, one by one (`Phrase.kinds_eq`): nothing was lost and nothing
made up. So each tuple in the type is a list in parentheses of as many slots as it has elements.
-/

namespace SwiftTuples

open TokenParser

/-! ## Tokens that say no more than a tree does -/

/-- The words of an effect. -/
def effectWords : List TokenKind := [.ident "async", .ident "throws", .ident "rethrows"]

/-- Nothing is written that a tree does not keep. -/
structure PlainlyWritten (used : List Placed) : Prop where
  /-- There are no default values. -/
  defaults : ∀ t ∈ used, t.kind ≠ .punct '='
  /-- There are no three dots. -/
  dots : ∀ t u v, [t, u, v] <:+: used →
    ¬ (t.kind = .punct '.' ∧ u.kind = .punct '.' ∧ v.kind = .punct '.')
  /-- Attributes have no arguments. -/
  attributes : ∀ t u v, [t, u, v] <:+: used → t.kind = .punct '@' → u.name?.isSome →
    v.kind = .punct '(' → ¬ v.touching
  /-- What is thrown is not said. -/
  thrown : ∀ t u, [t, u] <:+: used → t.kind = .ident "throws" ∨ t.kind = .ident "rethrows" →
    u.kind = .punct '(' → ¬ u.touching
  /-- No list ends in a comma. -/
  commas : ∀ t u, [t, u] <:+: used → t.kind = .punct ',' → u.kind ≠ .punct ')'
  /-- Between a list and an arrow stands nothing, `async`, `throws` or both in this order. -/
  effects : ∀ close words arrow, close :: (words ++ [arrow]) <:+: used → close.kind = .punct ')' →
    arrow.kind = .arrow → (∀ w ∈ words, w.kind ∈ effectWords) →
    words.map (·.kind) ∈
      [[], [.ident "async"], [.ident "throws"], [.ident "async", .ident "throws"]]

namespace PlainlyWritten

variable {used list : List Placed}

theorem restrict (h : PlainlyWritten used) (hlist : list <:+: used) : PlainlyWritten list where
  defaults t ht := h.defaults t (hlist.subset ht)
  dots t u v hrow := h.dots t u v (hrow.trans hlist)
  attributes t u v hrow := h.attributes t u v (hrow.trans hlist)
  thrown t u hrow := h.thrown t u (hrow.trans hlist)
  commas t u hrow := h.commas t u (hrow.trans hlist)
  effects close words arrow hrow := h.effects close words arrow (hrow.trans hlist)

/-- A stretch of tokens that are written plainly is written plainly. -/
theorem mid (h : PlainlyWritten used) (before after : List Placed)
    (hused : used = before ++ (list ++ after)) : PlainlyWritten list :=
  h.restrict ⟨before, after, by simp [hused]⟩

end PlainlyWritten

theorem kind_of_startsTouching {c : Char} {ts : List Placed} (h : startsTouching c ts) :
    ∃ t more, t.kind = .punct c ∧ t.touching ∧ ts = t :: more := by
  obtain ⟨t, more, ht, htouching, rfl⟩ := cons_of_startsTouching h
  exact ⟨t, more, Token.kind_of_is ht, htouching, rfl⟩

/-! ## Words around a type -/

theorem map_kind_spaced (gs : List Glyph) : (spaced gs).map (·.kind) = gs.map (·.kind) := by
  cases gs <;> rfl

/-- Specifiers without arguments are their glyphs. -/
theorem kinds_specifiers {specifiers : List Specifier} {used : List Placed}
    (h : Chained Specifier.Written specifiers used) (plain : PlainlyWritten used) :
    used.map (·.kind) = (specifiers.flatMap (·.glyphs)).map (·.kind) := by
  induction h with
  | nil => rfl
  | @cons specifier _ used more first others ih =>
    have hmore := ih (plain.mid used [] (by simp))
    rw [List.map_append, hmore, List.flatMap_cons, List.map_append]
    congr 1
    cases first with
    | @signed sign word name arguments marked named after =>
      rcases after with rfl | after
      · simp [Specifier.glyphs, Glyph.mark, Glyph.word, Token.kind_of_is marked,
          Token.kind_of_name? named]
      · obtain ⟨t, arguments, ht, htouching, rfl⟩ := kind_of_startsTouching after
        exact absurd htouching (plain.attributes sign word t ⟨[], arguments ++ more, by simp⟩
          (Token.kind_of_is marked) (by simp [named]) ht)
    | suppression marked => simp [Specifier.glyphs, Glyph.mark, Token.kind_of_is marked]
    | word named _ => simp [Specifier.glyphs, Glyph.word, Token.kind_of_name? named]

/-- The effect that a token names. -/
def TokenKind.effect? : TokenKind → Option Effect
  | ident name => Effect.ofWord? name
  | _ => none

/-- An effect without arguments is one word. -/
theorem effect_eq_singleton {effect : Effect} {used : List Placed} (h : effect.Written used)
    (plain : PlainlyWritten used) : ∃ word : Placed, used = [word] ∧ word.kind ∈ effectWords ∧
      word.kind.effect? = some effect := by
  cases h with
  | @async word named =>
    have hkind := Token.kind_of_name? named
    exact ⟨word, rfl, by simp [hkind, effectWords], by rw [hkind]; rfl⟩
  | @throws word name arguments named throwing after =>
    have hkind := Token.kind_of_name? named
    rcases after with rfl | after
    · refine ⟨word, rfl, ?_, ?_⟩
      · rcases throwing with rfl | rfl <;> simp [hkind, effectWords]
      · rcases throwing with rfl | rfl <;> rw [hkind] <;> rfl
    · obtain ⟨t, arguments, ht, htouching, rfl⟩ := kind_of_startsTouching after
      refine absurd htouching (plain.thrown word t ⟨[], arguments, rfl⟩ ?_ ht)
      rcases throwing with rfl | rfl <;> simp [hkind]

theorem filterMap_effect {found : List Effect} {words : List Placed}
    (h : Chained Effect.Written found words) (plain : PlainlyWritten words) :
    (words.map (·.kind)).filterMap TokenKind.effect? = found ∧
      ∀ w ∈ words, w.kind ∈ effectWords := by
  induction h with
  | nil => exact ⟨rfl, fun _ hw => nomatch hw⟩
  | @cons _ _ used more first _ ih =>
    obtain ⟨hfound, hwords⟩ := ih (plain.mid used [] (by simp))
    obtain ⟨word, rfl, hword, heffect⟩ := effect_eq_singleton first (plain.mid [] more (by simp))
    refine ⟨?_, by simpa using ⟨hword, hwords⟩⟩
    rw [List.map_append, List.map_singleton, List.singleton_append,
      List.filterMap_cons_some heffect, hfound]

/-- The effects after a list, in their one order, are their glyphs. -/
theorem kinds_effects {found : List Effect} {close arrow : Placed} {words : List Placed}
    (h : Chained Effect.Written found words)
    (plain : PlainlyWritten (close :: (words ++ [arrow]))) (closed : close.kind = .punct ')')
    (pointed : arrow.kind = .arrow) : words.map (·.kind) =
      (Effects.mk (found.contains .async) (found.contains .throws)).glyphs.map (·.kind) := by
  obtain ⟨hfound, hwords⟩ := filterMap_effect h (plain.mid [close] [arrow] (by simp))
  have horder := plain.effects close words arrow (List.infix_refl _) closed pointed hwords
  -- each way to write the effects leaves one list that they are read as
  simp only [List.mem_cons, List.not_mem_nil, or_false] at horder
  rcases horder with hkinds | hkinds | hkinds | hkinds <;> rw [hkinds] at hfound ⊢ <;>
    subst hfound <;> rfl

theorem kinds_label {label : Option Label} {names rest : List Placed}
    (h : Labelled label names rest) :
    names.map (·.kind) = (label.toList.flatMap (·.glyphs)).map (·.kind) := by
  cases h with
  | unlabelled => rfl
  | one named marked =>
    simp [Label.glyphs, Label.names, Glyph.word, Glyph.mark, Token.kind_of_name? named,
      Token.kind_of_is marked]
  | two named named' marked =>
    simp [Label.glyphs, Label.names, Glyph.word, Glyph.mark, Token.kind_of_name? named,
      Token.kind_of_name? named', Token.kind_of_is marked]

/-- Nothing stands after the type of an element that is written plainly. -/
theorem trailer_eq_nil {trailer : List Placed} (h : IsTrailer trailer)
    (plain : PlainlyWritten trailer) : trailer = [] := by
  cases h with
  | value begins =>
    rcases begins with rfl | begins
    · rfl
    · obtain ⟨t, more, ht, rfl⟩ := cons_of_startsWith begins
      exact absurd (Token.kind_of_is ht) (plain.defaults t List.mem_cons_self)
  | variadic marked marked' marked'' begins =>
    exact absurd ⟨Token.kind_of_is marked, Token.kind_of_is marked', Token.kind_of_is marked''⟩
      (plain.dots _ _ _ ⟨[], _, rfl⟩)

/-! ## Phrases -/

/-- The kinds of the tokens that a part is printed with. -/
def Part.kinds : Part → List TokenKind
  | whole t | composed t | suffixed t | chain t => t.glyphs.map (·.kind)
  | conjuncts ts => ts.flatMap fun t => .punct '&' :: t.glyphs.map (·.kind)
  | arguments ts => (angled ts (TypeExpr.listGlyphs ',' ts)).map (·.kind)
  | types ts => (TypeExpr.listGlyphs ',' ts).map (·.kind)
  | elements es => (TypeExpr.elementGlyphs es).map (·.kind) ++ [.punct ')']

theorem kinds_listGlyphs_cons (c : Char) (t : TypeExpr) (ts : List TypeExpr) :
    (TypeExpr.listGlyphs c (t :: ts)).map (·.kind) =
      t.glyphs.map (·.kind) ++ ts.flatMap fun t => .punct c :: t.glyphs.map (·.kind) := by
  induction ts generalizing t with
  | nil => simp [TypeExpr.listGlyphs, separator]
  | cons u ts ih =>
    rw [TypeExpr.listGlyphs, List.map_append, List.map_append, ih]
    simp [separator, Glyph.mark]

namespace Phrase

variable {part : Part} {used rest : List Placed}

/-- The elements of a list end in its parenthesis. -/
theorem elements_close {es : List (Element TypeExpr)} (h : Phrase (.elements es) used rest) :
    ∃ front close, used = front ++ [close] ∧ close.kind = .punct ')' := by
  generalize hpart : Part.elements es = part at h
  induction h generalizing es with
  | @closed close _ marked => exact ⟨[], close, rfl, Token.kind_of_is marked⟩
  | @lastElement _ _ close names used trailer _ _ _ _ marked _ =>
    exact ⟨names ++ (used ++ trailer), close, by simp, Token.kind_of_is marked⟩
  | @nextElement _ _ comma _ names used trailer _ _ _ _ _ _ _ _ ih =>
    obtain ⟨front, close, rfl, hclose⟩ := ih rfl
    exact ⟨names ++ (used ++ (trailer ++ comma :: front)), close, by simp, hclose⟩
  | _ => cases hpart

/-- **The tokens of a phrase that is written plainly are those that its part is printed with.** -/
theorem kinds_eq (h : Phrase part used rest) (plain : PlainlyWritten used) :
    used.map (·.kind) = part.kinds := by
  induction h with
  | plain _ ih | single _ _ ih | suffixed _ _ ih => exact ih plain
  | @attributed _ _ _ before used _ specified _ _ _ ih =>
    have hbefore := kinds_specifiers specified (plain.mid [] used (by simp))
    have hused := ih (plain.mid before [] (by simp))
    simp [Part.kinds, TypeExpr.glyphs, hbefore, hused, map_kind_spaced]
  | @composition _ _ _ used more _ _ _ _ _ ihfirst ihfollowing =>
    have hfirst := ihfirst (plain.mid [] more (by simp))
    have hfollowing := ihfollowing (plain.mid used [] (by simp))
    simp only [Part.kinds] at hfirst hfollowing ⊢
    rw [TypeExpr.glyphs, kinds_listGlyphs_cons, List.map_append, hfirst, hfollowing]
  | noConjunct | noArguments => rfl
  | @conjunct sign _ _ used more _ marked _ _ ihtype ihfollowing =>
    have htype := ihtype (plain.mid [sign] more (by simp))
    have hfollowing := ihfollowing (plain.mid (sign :: used) [] (by simp))
    simp only [Part.kinds] at htype hfollowing ⊢
    simp [htype, hfollowing, Token.kind_of_is marked]
  | @named word _ _ used _ named _ ih =>
    have hused := ih (plain.mid [word] [] (by simp))
    simp only [Part.kinds] at hused ⊢
    simp [TypeExpr.glyphs, hused, Glyph.word, Token.kind_of_name? named]
  | @tuple paren _ used _ marked _ _ ih =>
    have hused := ih (plain.mid [paren] [] (by simp))
    simp only [Part.kinds] at hused ⊢
    simp [TypeExpr.glyphs, hused, Glyph.mark, Token.kind_of_is marked]
  | @function paren arrow _ _ _ used words more _ marked elements effects pointed _ ih ihresult =>
    have hused := ih (plain.mid [paren] (words ++ arrow :: more) (by simp))
    have hresult := ihresult (plain.mid (paren :: (used ++ (words ++ [arrow]))) [] (by simp))
    obtain ⟨front, close, rfl, hclose⟩ := elements.elements_close
    have hwords := kinds_effects effects (plain.mid (paren :: front) more (by simp)) hclose pointed
    simp only [Part.kinds] at hused hresult ⊢
    simp only [List.map_append, List.map_cons, List.map_nil] at hused
    have hfront := (List.append_inj' hused rfl).1
    simp [TypeExpr.glyphs, hfront, hclose, hwords, pointed, hresult, Glyph.mark, Glyph.arrow,
      Token.kind_of_is marked]
  | @array bracket close _ used _ marked _ closed ih =>
    have hused := ih (plain.mid [bracket] [close] (by simp))
    simp only [Part.kinds] at hused ⊢
    simp [TypeExpr.glyphs, hused, Glyph.mark, Token.kind_of_is marked, Token.kind_of_is closed]
  | @dictionary bracket colon close _ _ used more _ marked _ parted _ closed ihkey ihvalue =>
    have hkey := ihkey (plain.mid [bracket] (colon :: (more ++ [close])) (by simp))
    have hvalue := ihvalue (plain.mid (bracket :: (used ++ [colon])) [close] (by simp))
    simp only [Part.kinds] at hkey hvalue ⊢
    simp [TypeExpr.glyphs, hkey, hvalue, Glyph.mark, Token.kind_of_is marked,
      Token.kind_of_is parted, Token.kind_of_is closed]
  | @optional _ _ _ sign used _ _ _ marked _ ih =>
    have hused := ih (plain.mid [] [sign] (by simp))
    simp only [Part.kinds] at hused ⊢
    rcases marked with ⟨rfl, marked⟩ | ⟨rfl, marked⟩ <;>
      simp [TypeExpr.glyphs, hused, Glyph.suffix, OptionalMark.char, Token.kind_of_is marked]
  | @member _ _ dot word _ _ used more _ _ _ marked named _ ihbase iharguments =>
    have hbase := ihbase (plain.mid [] (dot :: word :: more) (by simp))
    have harguments := iharguments (plain.mid (used ++ [dot, word]) [] (by simp))
    simp only [Part.kinds] at hbase harguments ⊢
    simp [TypeExpr.glyphs, hbase, harguments, Glyph.mark, Glyph.word, Token.kind_of_is marked,
      Token.kind_of_name? named]
  | @arguments bracket close ts used _ marked _ types closed ih =>
    have hused := ih (plain.mid [bracket] [close] (by simp))
    have hne : ts ≠ [] := by cases types <;> simp
    simp only [Part.kinds] at hused ⊢
    simp [angled, hne, hused, Glyph.suffix, Glyph.mark, Token.kind_of_is marked,
      Token.kind_of_is closed]
  | lastType _ _ ih =>
    have hused := ih plain
    simp only [Part.kinds] at hused ⊢
    simp [TypeExpr.listGlyphs, separator, hused]
  | @nextType _ comma others used more _ _ parted following ihtype ihfollowing =>
    have htype := ihtype (plain.mid [] (comma :: more) (by simp))
    have hfollowing := ihfollowing (plain.mid (used ++ [comma]) [] (by simp))
    have hne : others ≠ [] := by cases following <;> simp
    simp only [Part.kinds] at htype hfollowing ⊢
    simp [TypeExpr.listGlyphs, separator, hne, htype, hfollowing, Glyph.mark,
      Token.kind_of_is parted]
  | closed marked => simp [Part.kinds, TypeExpr.elementGlyphs, Token.kind_of_is marked]
  | @lastElement _ _ close names used trailer _ labelled _ trailed closed ih =>
    have hused := ih (plain.mid names (trailer ++ [close]) (by simp))
    obtain rfl := trailer_eq_nil trailed (plain.mid (names ++ used) [close] (by simp))
    simp only [Part.kinds] at hused ⊢
    simp [TypeExpr.elementGlyphs, separator, kinds_label labelled, hused, Token.kind_of_is closed]
  | @nextElement _ _ comma others names used trailer more _ labelled _ trailed parted following ih
      ihfollowing =>
    have hused := ih (plain.mid names (trailer ++ comma :: more) (by simp))
    have hfollowing :=
      ihfollowing (plain.mid (names ++ (used ++ (trailer ++ [comma]))) [] (by simp))
    obtain rfl := trailer_eq_nil trailed (plain.mid (names ++ used) (comma :: more) (by simp))
    have hne : others ≠ [] := by
      rintro rfl
      cases following with
      | @closed close _ marked =>
        exact plain.commas comma close ⟨names ++ used, [], by simp⟩ (Token.kind_of_is parted)
          (Token.kind_of_is marked)
    simp only [Part.kinds] at hused hfollowing ⊢
    simp [TypeExpr.elementGlyphs, separator, hne, kinds_label labelled, hused, hfollowing,
      Glyph.mark, Token.kind_of_is parted]

end Phrase

/-! ## Brackets of a printed type -/

namespace TokenKind

/-- The token opens a bracket of a type. -/
def opensBracket : TokenKind → Bool
  | punct c => c = '(' || c = '[' || c = '<'
  | _ => false

/-- The token closes a bracket of a type. -/
def closesBracket : TokenKind → Bool
  | punct c => c = ')' || c = ']' || c = '>'
  | _ => false

end TokenKind

/-- How many brackets are open after the tokens, `depth` of them being open before. There is no
answer where a closing bracket or the mark `c` stands outside of all brackets. -/
def openAfter (c : Char) : Nat → List TokenKind → Option Nat
  | depth, [] => some depth
  | depth, k :: ks =>
    if k.opensBracket then openAfter c (depth + 1) ks
    else if depth = 0 && (k.closesBracket || k = .punct c) then none
    else if k.closesBracket then openAfter c (depth - 1) ks
    else openAfter c depth ks

/-- The brackets of the tokens match, and the mark `c` stands only inside of them. -/
def Encloses (c : Char) (ks : List TokenKind) : Prop := openAfter c 0 ks = some 0

section openAfter

variable {c : Char} {depth depth' : Nat} {ks ls : List TokenKind}

theorem openAfter_append (h : openAfter c depth ks = some depth') :
    openAfter c depth (ks ++ ls) = openAfter c depth' ls := by
  fun_induction openAfter c depth ks with
  | case1 => cases h; rfl
  | case2 _ _ _ hopen ih => rw [List.cons_append, openAfter, if_pos hopen, ih h]
  | case3 => cases h
  | case4 _ _ _ hopen hout hclose ih =>
    rw [List.cons_append, openAfter, if_neg hopen, if_neg hout, if_pos hclose, ih h]
  | case5 _ _ _ hopen hout hclose ih =>
    rw [List.cons_append, openAfter, if_neg hopen, if_neg hout, if_neg hclose, ih h]

@[simp] theorem openAfter_nil : openAfter c depth [] = some depth := rfl

@[simp] theorem openAfter_ident (name : String) :
    openAfter c depth (.ident name :: ks) = openAfter c depth ks := by
  simp [openAfter, TokenKind.opensBracket, TokenKind.closesBracket]

@[simp] theorem openAfter_arrow : openAfter c depth (.arrow :: ks) = openAfter c depth ks := by
  simp [openAfter, TokenKind.opensBracket, TokenKind.closesBracket]

@[simp] theorem openAfter_open {k : TokenKind} (h : k.opensBracket) :
    openAfter c depth (k :: ks) = openAfter c (depth + 1) ks := by
  rw [openAfter, if_pos h]

@[simp] theorem openAfter_close {k : TokenKind} (h : k.closesBracket)
    (hopen : k.opensBracket = false) :
    openAfter c (depth + 1) (k :: ks) = openAfter c depth ks := by
  simp [openAfter, h, hopen]

/-- A mark that is no bracket may stand inside of brackets, and outside if it is not `c`. -/
@[simp] theorem openAfter_mark {m : Char} (hopen : (TokenKind.punct m).opensBracket = false)
    (hclose : (TokenKind.punct m).closesBracket = false) (h : m ≠ c ∨ depth ≠ 0) :
    openAfter c depth (.punct m :: ks) = openAfter c depth ks := by
  rcases h with h | h <;> simp [openAfter, hopen, hclose, h]

end openAfter

attribute [simp] TokenKind.opensBracket TokenKind.closesBracket

namespace TypeExpr

variable {c : Char} (hc : c = ',' ∨ c = ':')
include hc

theorem openAfter_specifiers (specifiers : List Specifier) (depth : Nat) :
    openAfter c depth ((specifiers.flatMap (·.glyphs)).map (·.kind)) = some depth := by
  induction specifiers with
  | nil => rfl
  | cons specifier specifiers ih =>
    rw [List.flatMap_cons, List.map_append, openAfter_append ?_, ih]
    rcases hc with rfl | rfl <;> cases specifier <;>
      simp [Specifier.glyphs, Glyph.mark, Glyph.word]

/-- Types in a row leave the brackets as they were, if their separator may stand there. -/
theorem openAfter_listGlyphs {ts : List TypeExpr} {depth : Nat} {s : Char}
    (h : ∀ t ∈ ts, openAfter c depth (t.glyphs.map (·.kind)) = some depth)
    (hs : s = '&' ∨ (s = ',' ∧ depth ≠ 0)) :
    openAfter c depth ((listGlyphs s ts).map (·.kind)) = some depth := by
  induction ts with
  | nil => rfl
  | cons t ts ih =>
    have hfirst := h t List.mem_cons_self
    have hrest := ih fun u hu => h u (List.mem_cons_of_mem t hu)
    cases ts with
    | nil => simpa [listGlyphs, separator] using hfirst
    | cons u ts =>
      rw [listGlyphs, List.map_append, openAfter_append hfirst, List.map_append]
      rcases hs with rfl | ⟨rfl, hdepth⟩
      · rcases hc with rfl | rfl <;>
          simpa [separator, Glyph.mark] using hrest
      · simpa [separator, Glyph.mark, hdepth] using hrest

theorem openAfter_angled {ts : List TypeExpr} (depth : Nat)
    (h : ∀ t ∈ ts, ∀ depth, openAfter c depth (t.glyphs.map (·.kind)) = some depth) :
    openAfter c depth ((angled ts (listGlyphs ',' ts)).map (·.kind)) = some depth := by
  unfold angled
  split
  · rfl
  · have hinside := openAfter_listGlyphs hc (fun t ht => h t ht (depth + 1)) (.inr ⟨rfl, by simp⟩)
    simp [Glyph.suffix, Glyph.mark, openAfter_append hinside]

omit hc in
/-- A label stands inside of brackets. -/
theorem openAfter_label (label : Option Label) {depth : Nat} (hdepth : depth ≠ 0) :
    openAfter c depth ((label.toList.flatMap (·.glyphs)).map (·.kind)) = some depth := by
  rcases label with _ | ⟨first, _ | second, colon⟩ <;>
    simp [Label.glyphs, Label.names, Glyph.word, Glyph.mark, hdepth]

omit hc in
theorem openAfter_elementGlyphs {es : List (Element TypeExpr)} (depth : Nat) (hdepth : depth ≠ 0)
    (h : ∀ e ∈ es, openAfter c depth (e.type.glyphs.map (·.kind)) = some depth) :
    openAfter c depth ((elementGlyphs es).map (·.kind)) = some depth := by
  induction es with
  | nil => rfl
  | cons e es ih =>
    have hfirst := h e List.mem_cons_self
    have hrest := ih fun e he => h e (List.mem_cons_of_mem _ he)
    have hlabel := openAfter_label (c := c) e.label hdepth
    cases es with
    | nil =>
      simp [elementGlyphs, separator, openAfter_append hlabel, hfirst]
    | cons e' es =>
      rw [elementGlyphs, List.map_append, openAfter_append hlabel, List.map_append,
        openAfter_append hfirst]
      simpa [separator, Glyph.mark, hdepth] using hrest

/-- The brackets of a printed type match, and commas and colons stand inside of them. -/
theorem openAfter_glyphs (t : TypeExpr) (depth : Nat) :
    openAfter c depth (t.glyphs.map (·.kind)) = some depth := by
  induction t using TypeExpr.of_children generalizing depth with
  | h t ih =>
    cases t with
    | named p name arguments =>
      simp only [glyphs, Glyph.word, List.map_cons, openAfter_ident]
      exact openAfter_angled hc depth ih
    | member p base name arguments =>
      have hbase := ih base List.mem_cons_self depth
      have harguments := openAfter_angled hc depth fun u hu =>
        ih u (List.mem_cons_of_mem base hu)
      rcases hc with rfl | rfl <;>
        simp [glyphs, Glyph.word, Glyph.mark, openAfter_append hbase, harguments]
    | tuple p elements =>
      have hinside := openAfter_elementGlyphs (depth + 1) (by simp) fun e he =>
        ih e.type (List.mem_map_of_mem he) _
      simp [glyphs, Glyph.mark, openAfter_append hinside]
    | function p parameters effects result =>
      have hinside := openAfter_elementGlyphs (depth + 1) (by simp) fun e he =>
        ih e.type (List.mem_append_left _ (List.mem_map_of_mem he)) _
      have hresult := ih result (List.mem_append_right _ List.mem_cons_self) depth
      rcases effects with ⟨_ | _, _ | _⟩ <;>
        simp [glyphs, Effects.glyphs, Glyph.mark, Glyph.word, Glyph.arrow,
          openAfter_append hinside, hresult]
    | optional p wrapped mark =>
      have hwrapped := ih wrapped List.mem_cons_self depth
      rcases hc with rfl | rfl <;> cases mark <;>
        simp [glyphs, Glyph.suffix, OptionalMark.char, openAfter_append hwrapped]
    | array p element =>
      have hinside := ih element List.mem_cons_self (depth + 1)
      simp [glyphs, Glyph.mark, openAfter_append hinside]
    | dictionary p key value =>
      have hkey := ih key List.mem_cons_self (depth + 1)
      have hvalue := ih value (List.mem_cons_of_mem _ List.mem_cons_self) (depth + 1)
      simp [glyphs, Glyph.mark, openAfter_append hkey, openAfter_append hvalue]
    | composition p parts =>
      exact openAfter_listGlyphs hc (fun u hu => ih u hu depth) (.inl rfl)
    | attributed p specifiers base =>
      rw [glyphs, List.map_append, openAfter_append (openAfter_specifiers hc _ _), map_kind_spaced]
      exact ih base List.mem_cons_self depth

end TypeExpr

/-! ## Slots of a list -/

/-- The tokens that an element is printed with. -/
def Element.kinds (e : Element TypeExpr) : List TokenKind :=
  (e.label.toList.flatMap (·.glyphs) ++ e.type.glyphs).map (·.kind)

/-- The tokens begin with one or two names and a colon. -/
def startsLabelled : List TokenKind → Bool
  | .ident _ :: .punct ':' :: _ => true
  | .ident _ :: .ident _ :: .punct ':' :: _ => true
  | _ => false

theorem startsLabelled_kinds (e : Element TypeExpr) : startsLabelled e.kinds = e.label.isSome := by
  rcases e with ⟨_ | ⟨first, _ | second, colon⟩, type⟩
  · -- a colon among the first tokens of a type would stand outside of brackets
    have h := TypeExpr.openAfter_glyphs (.inr rfl) type 0
    simp only [Element.kinds, Option.toList_none, List.flatMap_nil, List.nil_append]
    generalize type.glyphs.map (·.kind) = ks at h
    unfold startsLabelled
    split
    · simp [openAfter] at h
    · simp [openAfter] at h
    · rfl
  · rfl
  · rfl

theorem encloses_kinds (e : Element TypeExpr) : Encloses ',' e.kinds := by
  have h := TypeExpr.openAfter_glyphs (.inl rfl) e.type 0
  rcases e with ⟨_ | ⟨first, _ | second, colon⟩, type⟩ <;>
    simpa [Encloses, Element.kinds, Label.glyphs, Label.names, Glyph.word, Glyph.mark] using h

theorem kinds_elementGlyphs (es : List (Element TypeExpr)) :
    (TypeExpr.elementGlyphs es).map (·.kind) =
      [TokenKind.punct ','].intercalate (es.map (·.kinds)) := by
  induction es with
  | nil => rfl
  | cons e es ih =>
    cases es with
    | nil => simp [TypeExpr.elementGlyphs, separator, Element.kinds, List.intercalate]
    | cons e' es =>
      rw [TypeExpr.elementGlyphs, List.map_append, List.map_append, List.map_append, ih]
      simp [separator, Element.kinds, Glyph.mark, List.intercalate]

/-- Before the tokens `after` stands a list in parentheses with a slot for each of the elements
`es`, and no arrow follows it. -/
structure IsListOf (es : List (Element TypeExpr)) (list after : List Placed) : Prop where
  /-- The slots stand between commas; none is empty, and inside of one commas stand in brackets. -/
  slots : ∃ slots : List (List TokenKind),
    list.map (·.kind) = .punct '(' :: ([.punct ','].intercalate slots ++ [.punct ')']) ∧
    (∀ slot ∈ slots, slot ≠ [] ∧ Encloses ',' slot) ∧ slots.length = es.length ∧
    slots.countP startsLabelled = es.countP (·.label.isSome)
  not_function : ∀ t ∈ after.head?, t.kind ≠ .arrow

namespace Phrase

variable {part : Part} {t : TypeExpr} {used rest : List Placed}

/-- A type that is written plainly has the tokens that it is printed with. -/
theorem kinds_eq_glyphs (h : Phrase part used rest) (ht : part.type? = some t)
    (plain : PlainlyWritten used) : used.map (·.kind) = t.glyphs.map (·.kind) := by
  rw [h.kinds_eq plain]
  cases part <;> cases ht <;> rfl

/-- After a tuple stands nothing that would make it the parameters of a function type. -/
theorem not_startsFunction {position : Nat} {es : List (Element TypeExpr)}
    (h : Phrase part used rest) (ht : part.type? = some (.tuple position es)) :
    ¬ startsFunction rest := by
  induction h with
  | plain _ ih | single _ _ ih | suffixed _ _ ih => exact ih ht
  | tuple _ _ alone _ => exact alone
  | _ => cases ht

/-- **A tuple is a list of as many slots as it has elements.** -/
theorem isListOf {position : Nat} {es : List (Element TypeExpr)} (h : Phrase part used rest)
    (ht : part.type? = some (.tuple position es)) (plain : PlainlyWritten used) :
    IsListOf es used rest where
  slots := by
    refine ⟨es.map (·.kinds), ?_, ?_, List.length_map _, ?_⟩
    · rw [h.kinds_eq_glyphs ht plain]
      simp [TypeExpr.glyphs, kinds_elementGlyphs, Glyph.mark]
    · rintro _ hslot
      obtain ⟨e, he, rfl⟩ := List.mem_map.1 hslot
      refine ⟨?_, encloses_kinds e⟩
      -- the type of the element is read from tokens of its own
      obtain ⟨part', before, list, more, rfl, ht', phrase⟩ := h.inside e.type
        (Part.inside_eq_children ht ▸ List.mem_map_of_mem he)
      have hkinds := phrase.kinds_eq_glyphs ht' (plain.mid before more rfl)
      have hne := (phrase.startsAt ht').ne_nil
      intro hnil
      rw [Element.kinds, List.map_append, ← hkinds] at hnil
      simp [hne] at hnil
    · simp [List.countP_map, Function.comp_def, startsLabelled_kinds]
  not_function := by
    intro t hhead hkind
    refine h.not_startsFunction ht ?_
    obtain ⟨more, rfl⟩ := List.head?_eq_some_iff.1 hhead
    simp [startsFunction, hkind]

end Phrase

/-! ## Reading and printing -/

/-- **Printing undoes reading.** From whatever token a type is read, under whatever bound and before
whatever rest: if the tokens taken are written plainly, they are those that the type is printed
with, and each tuple in it is a list in parentheses among them, with a slot for each element and a
label where the element has one. -/
theorem typeExpr_keeps_tokens {tokens : List Token} {cursor bound : Nat} {t : TypeExpr}
    {rest : List Placed}
    (h : typeExpr bound ((Placed.ofTokens tokens).drop cursor) = .ok (t, rest)) :
    ∃ used, (Placed.ofTokens tokens).drop cursor = used ++ rest ∧ (PlainlyWritten used →
      used.map (·.kind) = t.glyphs.map (·.kind) ∧
      (Node.type t).Throughout fun n => ∀ position es, n = .type (.tuple position es) →
        ∃ before list more, used = before ++ (list ++ more) ∧ StartsAt list position ∧
          IsListOf es list (more ++ rest)) := by
  obtain ⟨used, hsplit, phrase⟩ := phrase_of_typeExpr h
  refine ⟨used, hsplit, fun plain => ⟨phrase.kinds_eq_glyphs rfl plain, ?_⟩⟩
  refine (phrase.throughout rfl).mono ?_
  rintro _ ⟨u, rfl, part, before, list, more, rfl, hpart, inner⟩ position es heq
  cases heq
  exact ⟨before, list, more, rfl, inner.startsAt hpart,
    inner.isListOf hpart (plain.mid before more rfl)⟩

/-- Neighbours are paired by shifting the list. -/
theorem pair_mem_zip_tail {α : Type} {a b : α} {l : List α} (h : [a, b] <:+: l) :
    (a, b) ∈ l.zip l.tail := by
  obtain ⟨before, after, rfl⟩ := h
  induction before with
  | nil => simp
  | cons c before ih =>
    cases before with
    | nil => simp
    | cons d before => exact List.mem_cons_of_mem _ ih

/-- The tokens of a tuple with a label, `(a: Int, B?)`. -/
def labelledPair : List Token :=
  [⟨.punct '(', 0, 1, true⟩, ⟨.ident "a", 1, 2, false⟩, ⟨.punct ':', 2, 3, false⟩,
    ⟨.ident "Int", 4, 7, false⟩, ⟨.punct ',', 7, 8, false⟩, ⟨.ident "B", 9, 10, false⟩,
    ⟨.punct '?', 10, 11, false⟩, ⟨.punct ')', 11, 12, false⟩]

theorem labelledPair_keeps_tokens :
    PlainlyWritten (Placed.ofTokens labelledPair) ∧
      ∃ before list more, Placed.ofTokens labelledPair = before ++ (list ++ more) ∧
        StartsAt list 0 ∧
        IsListOf [⟨some ⟨"a", none, 2⟩, .named 4 "Int" []⟩,
          ⟨none, .optional 9 (.named 9 "B" []) .question⟩] list (more ++ []) := by
  have plain : PlainlyWritten (Placed.ofTokens labelledPair) := by
    -- there is none of the tokens that most of the conditions are about
    have habsent : ∀ t ∈ Placed.ofTokens labelledPair, t.kind ∉ [.punct '=', .punct '.',
        .punct '@', .ident "throws", .ident "rethrows", .arrow] := by decide
    have hpairs : ∀ x ∈ (Placed.ofTokens labelledPair).zip (Placed.ofTokens labelledPair).tail,
        x.1.kind = .punct ',' → x.2.kind ≠ .punct ')' := by decide
    constructor
    · intro t ht hkind
      exact habsent t ht (by simp [hkind])
    · intro t u v hrow hkinds
      exact habsent t (hrow.subset List.mem_cons_self) (by simp [hkinds.1])
    · intro t u v hrow hkind
      exact absurd (by simp [hkind]) (habsent t (hrow.subset List.mem_cons_self))
    · intro t u hrow hkind
      refine absurd ?_ (habsent t (hrow.subset List.mem_cons_self))
      rcases hkind with hkind | hkind <;> simp [hkind]
    · exact fun t u hrow => hpairs (t, u) (pair_mem_zip_tail hrow)
    · intro close words arrow hrow _ hkind
      exact absurd (by simp [hkind]) (habsent arrow (hrow.subset (by simp)))
  have hread : typeExpr 16 ((Placed.ofTokens labelledPair).drop 0) = .ok (.tuple 0
      [⟨some ⟨"a", none, 2⟩, .named 4 "Int" []⟩,
        ⟨none, .optional 9 (.named 9 "B" []) .question⟩], []) := rfl
  obtain ⟨used, hsplit, hkeeps⟩ := typeExpr_keeps_tokens hread
  obtain rfl : used = Placed.ofTokens labelledPair := by simpa using hsplit.symm
  exact ⟨plain, (Node.throughout_iff.1 (hkeeps plain).2).1 0 _ rfl⟩

end SwiftTuples
