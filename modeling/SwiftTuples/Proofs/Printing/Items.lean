import SwiftTuples.Proofs.Printing.Types
/-!
# Where printed items begin and end

An item begins a line, with a word or a brace. What follows a part of an item is known before it
is read (`Ends.item`), and so is what follows a whole one (`Ends.line`); neither goes on with the
type that may stand last. The glyphs of canonical items are legible.
-/

namespace SwiftTuples

namespace TokenParser

/-! ## Where an item begins and ends -/

/-- The words that an item begins with. -/
def itemWords : List String :=
  ["let", "func", "struct", "class", "enum", "protocol", "extension", "actor", "typealias", "as",
   "is"]

/-- The glyph can follow a part of an item: it begins an item, a `where` clause or a block, or ends
a block. -/
def Ends.item (g : Glyph) : Bool :=
  match g.kind with
  | .punct c => c = '{' || c = '}'
  | .ident word => word = "where" || (g.gap = .line && itemWords.contains word)
  | _ => false

/-- The glyph can follow an item: it begins another one or ends a block, on a line of its own. -/
def Ends.line (g : Glyph) : Bool :=
  g.gap = .line &&
    match g.kind with
    | .punct c => c = '{' || c = '}'
    | .ident word => itemWords.contains word
    | _ => false

namespace Ends

section line

variable {g : Glyph} (h : Ends.line g)
include h

theorem line_item : Ends.item g := by
  simp only [line, Bool.and_eq_true, decide_eq_true_eq] at h
  obtain ⟨hgap, hkind⟩ := h
  unfold item
  cases hg : g.kind with
  | punct c => simpa [hg] using hkind
  | ident word =>
    rw [hg] at hkind
    simp only [hgap, hkind, decide_true, Bool.and_self, Bool.or_true]
  | literal | arrow => simp [hg] at hkind

theorem line_ne_where : g.name? ≠ some "where" := by
  intro hname
  have hkind : g.kind = .ident "where" := by
    unfold Glyph.name? at hname
    cases hg : g.kind with
    | ident word =>
      rw [hg] at hname
      rw [Option.some.inj hname]
    | literal | arrow | punct =>
      rw [hg] at hname
      cases hname
  simp [line, hkind, itemWords] at h

end line

section item

variable {g : Glyph} (h : Ends.item g)
include h

theorem item_kind_ne {c : Char} (hc : c ≠ '{' ∧ c ≠ '}') : g.kind ≠ .punct c := by
  intro hkind
  simp [item, hkind, hc] at h

theorem item_ne_arrow : g.kind ≠ .arrow := by
  intro hkind
  simp [item, hkind] at h

theorem item_not_effect : g.name?.bind Effect.ofWord? = none := by
  cases hkind : g.kind with
  | ident word =>
    have hwords : ∀ w ∈ "where" :: itemWords, Effect.ofWord? w = none := by decide
    have hmem : word ∈ "where" :: itemWords := by
      simp only [item, hkind, Bool.or_eq_true, Bool.and_eq_true, decide_eq_true_eq,
        List.contains_iff_mem] at h
      rcases h with rfl | ⟨-, hmem⟩
      · exact List.mem_cons_self
      · exact List.mem_cons_of_mem _ hmem
    simp [Glyph.name?, hkind, hwords word hmem]
  | literal | arrow | punct => simp [Glyph.name?, hkind]

theorem item_whole : Ends.whole g := by
  have hne : ∀ c, c = '<' ∨ c = '?' ∨ c = '!' ∨ c = '.' ∨ c = '&' → g.kind ≠ .punct c := by
    rintro c (rfl | rfl | rfl | rfl | rfl) <;> exact item_kind_ne h (by decide)
  simp [Ends.whole, Ends.single, Ends.base, hne, item_ne_arrow h, item_not_effect h]

end item

end Ends

end TokenParser

open TokenParser

namespace Item

/-- The word or the brace that an item begins with stands on a line of its own. -/
theorem begins (i : Item) : ∃ g gs, i.glyphs = g :: gs ∧ Ends.line g ∧ g.kind ≠ .punct '}' ∧
    (g.kind = .punct '{' ↔ i.isBlock) := by
  cases i with
  | block b =>
    obtain ⟨position, items⟩ := b
    exact ⟨_, _, rfl, rfl, by simp, by simp [isBlock]⟩
  | «variable» | function | «alias» =>
    exact ⟨_, _, rfl, rfl, by simp [Glyph.word, Glyph.onLine],
      by simp [Glyph.word, Glyph.onLine, isBlock]⟩
  | nominal _ kind =>
    refine ⟨_, _, rfl, ?_, by simp [Glyph.word, Glyph.onLine],
      by simp [Glyph.word, Glyph.onLine, isBlock]⟩
    cases kind <;> rfl
  | cast _ operator =>
    cases operator <;> exact ⟨_, _, rfl, rfl, by simp [Glyph.word, Glyph.onLine],
      by simp [Glyph.word, Glyph.onLine, isBlock]⟩

end Item

/-! ## Printed items are legible -/

/-- A block is legible if what is inside it is. -/
theorem Sound.braces {gs : List Glyph} (h : Sound gs) (gap : Gap) :
    Sound (⟨.punct '{', gap⟩ :: (gs ++ [(Glyph.mark '}').onLine])) := by
  intro pending hs hmore
  rw [List.cons_append, List.append_assoc]
  refine .opening (fun h => by cases h) (h ?_)
  exact .closing (fun h => by cases h) hmore

theorem sound_commaGlyphs {l : List (List Glyph)} (h : ∀ gs ∈ l, Sound gs) :
    Sound (commaGlyphs l) := by
  induction l with
  | nil => exact .nil
  | cons gs l ih =>
    exact (h gs List.mem_cons_self).append ((Sound.separator TypeExpr.quiet_comma l).append
      (ih fun hs hhs => h hs (List.mem_cons_of_mem _ hhs)))

theorem sound_dottedGlyphs {parts : List String} (h : ∀ part ∈ parts, IsPlainName part) :
    Sound (dottedGlyphs parts) := by
  have htail : ∀ rest : List String, (∀ part ∈ rest, IsPlainName part) →
      Sound (separator '.' rest ++ dottedGlyphs rest) := by
    intro rest hrest
    induction rest with
    | nil => exact .nil
    | cons part rest ih =>
      exact .member (hrest part List.mem_cons_self)
        (ih fun p hp => hrest p (List.mem_cons_of_mem _ hp))
  cases parts with
  | nil => exact .nil
  | cons part rest =>
    exact .cons (h part List.mem_cons_self).quiet
      (htail rest fun p hp => h p (List.mem_cons_of_mem _ hp))

theorem quiet_mark {c : Char} (hc : c ∈ printedMarks) (hne : c ≠ '.' ∧ c ≠ '{' ∧ c ≠ '}') :
    (Glyph.mark c).Quiet := Glyph.quiet_of_mark hc hne

theorem Parameter.Canonical.sound {p : Parameter} (h : p.Canonical) : Sound p.glyphs :=
  (Sound.words h.plain).append (.cons (quiet_mark (by decide) (by decide)) h.type.sound)

theorem Requirement.Canonical.sound {r : Requirement} (h : r.Canonical) : Sound r.glyphs := by
  refine h.subject.sound.append (.append ?_ h.constraint.sound)
  have hequal : (Glyph.mark '=').Quiet := quiet_mark (by decide) (by decide)
  split
  · exact .cons hequal (.glyph hequal)
  · exact .glyph (quiet_mark (by decide) (by decide))

theorem whereGlyphs_cons (r : Requirement) (rs : List Requirement) :
    whereGlyphs (r :: rs) = .word "where" :: commaGlyphs ((r :: rs).map (·.glyphs)) := rfl

theorem inheritGlyphs_cons (t : TypeExpr) (ts : List TypeExpr) :
    inheritGlyphs (t :: ts) = .mark ':' :: TypeExpr.listGlyphs ',' (t :: ts) := rfl

theorem sound_whereGlyphs {rs : List Requirement} (h : ∀ r ∈ rs, r.Canonical) :
    Sound (whereGlyphs rs) := by
  cases rs with
  | nil => exact .nil
  | cons r rs =>
    refine .cons (Glyph.quiet_of_isName (by decide) (by decide))
      (sound_commaGlyphs fun gs hgs => ?_)
    obtain ⟨r', hr', rfl⟩ := List.mem_map.1 hgs
    exact (h r' hr').sound

theorem sound_inheritGlyphs {ts : List TypeExpr} (h : ∀ t ∈ ts, t.Canonical .whole) :
    Sound (inheritGlyphs ts) := by
  cases ts with
  | nil => exact .nil
  | cons t ts =>
    exact .cons (quiet_mark (by decide) (by decide))
      (TypeExpr.sound_listGlyphs TypeExpr.quiet_comma fun u hu => (h u hu).sound)

theorem CastOperator.sound (operator : CastOperator) : Sound operator.glyphs := by
  cases operator with
  | cast => exact .glyph (Glyph.quiet_of_isName (by decide) (by decide))
  | test => exact .glyph (Glyph.quiet_of_isName (by decide) (by decide))
  | optionalCast | forcedCast =>
    exact .cons (Glyph.quiet_of_isName (by decide) (by decide))
      (.glyph (Glyph.quiet_of_mark (by decide) (by decide)))

namespace Item

theorem blockGlyphs_eq (gap : Gap) (b : Block Item) : blockGlyphs gap b =
    ⟨.punct '{', gap⟩ :: (listGlyphs b.items ++ [(Glyph.mark '}').onLine]) := by
  cases b
  rfl

theorem sound_blockGlyphs {b : Block Item} (h : Sound (listGlyphs b.items)) (gap : Gap) :
    Sound (blockGlyphs gap b) := by
  rw [blockGlyphs_eq]
  exact h.braces gap

theorem sound_listGlyphs {items : List Item} (h : ∀ i ∈ items, Sound i.glyphs) :
    Sound (listGlyphs items) := by
  induction items with
  | nil => exact .nil
  | cons i items ih =>
    exact (h i List.mem_cons_self).append (ih fun j hj => h j (List.mem_cons_of_mem _ hj))

/-- A canonical item is legible. -/
theorem Canonical.sound {i : Item} (h : i.Canonical) : Sound i.glyphs := by
  have word : ∀ {w : String}, isWord w.toList → (Glyph.word w).onLine.Quiet :=
    fun hw => Glyph.quiet_of_isName hw (by decide)
  have mark : ∀ {c : Char}, c ∈ printedMarks → c ≠ '.' ∧ c ≠ '{' ∧ c ≠ '}' →
      (Glyph.mark c).Quiet := quiet_mark
  induction h with
  | block _ _ ih => exact sound_blockGlyphs (sound_listGlyphs ih) .line
  | @«variable» _ _ type plain canonical =>
    refine .cons (word (by decide)) (.cons plain.quiet (.flatMap fun t ht => ?_))
    exact .cons (mark (by decide) (by decide)) (canonical t (by simpa using ht)).sound
  | @function _ _ parameters _ result _ body plain canonical_parameters canonical_result
      requirements _ _ ih =>
    have hparameters : Sound (commaGlyphs (parameters.map (·.glyphs))) :=
      sound_commaGlyphs fun gs hgs => by
        obtain ⟨p, hp, rfl⟩ := List.mem_map.1 hgs
        exact (canonical_parameters p hp).sound
    have hbody : Sound (bodyGlyphs body) := by
      cases body with
      | none => exact .nil
      | some b => exact sound_blockGlyphs (sound_listGlyphs (ih b rfl)) .free
    have hresult : Sound (result.toList.flatMap fun t => .arrow :: t.glyphs) := .flatMap fun t ht =>
      .cons Glyph.quiet_arrow (canonical_result t (by simpa using ht)).sound
    exact .cons (word (by decide)) (.cons plain.quiet (.cons (mark (by decide) (by decide))
      (hparameters.append (.cons (mark (by decide) (by decide)) ((Effects.sound _).append
        (hresult.append ((sound_whereGlyphs requirements).append hbody)))))))
  | @nominal _ kind _ _ _ _ plain inherits requirements _ _ ih =>
    have hkeyword : isWord kind.keyword.toList := by cases kind <;> decide
    exact .cons (word hkeyword) ((sound_dottedGlyphs plain).append
      ((sound_inheritGlyphs inherits).append ((sound_whereGlyphs requirements).append
        (sound_blockGlyphs (sound_listGlyphs ih) .free))))
  | «alias» plain canonical =>
    exact .cons (word (by decide)) (.cons plain.quiet
      (.cons (mark (by decide) (by decide)) canonical.sound))
  | cast canonical => exact (CastOperator.sound _).append canonical.sound

end Item

end SwiftTuples
