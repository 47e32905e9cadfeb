import SwiftTuples.Proofs.Parsing.Stopping
import SwiftTuples.Proofs.Printing.Types
/-!
# Canonical types in front of anything

No canonical type ends with a token that calls for more of it: it ends with a name, a closing
bracket or the mark of an optional type (`Canonical.finishes`). So it is read back from its tokens
in front of whatever a type cannot go on with, not only in front of printed glyphs.
-/

namespace SwiftTuples

open TokenParser

/-- The glyph can be the last of a type. -/
def Glyph.FinishesType (g : Glyph) : Prop :=
  (∃ name, IsPlainName name ∧ g.kind = .ident name) ∨
    ∃ c ∈ [')', ']', '>', '?', '!'], g.kind = .punct c

/-- The last of the glyphs can be the last of a type. -/
def Finishes (gs : List Glyph) : Prop := ∃ before g, gs = before ++ [g] ∧ g.FinishesType

namespace Finishes

theorem mark {c : Char} (hc : c ∈ [')', ']', '>', '?', '!']) (gap : Gap) :
    Finishes [⟨.punct c, gap⟩] :=
  ⟨[], _, rfl, .inr ⟨c, hc, rfl⟩⟩

theorem append {gs : List Glyph} (h : Finishes gs) (more : List Glyph) : Finishes (more ++ gs) := by
  obtain ⟨before, g, rfl, hg⟩ := h
  exact ⟨more ++ before, g, by simp, hg⟩

theorem cons {gs : List Glyph} (h : Finishes gs) (g : Glyph) : Finishes (g :: gs) := h.append [g]

/-- A space before the glyphs changes their first, which may be the last one. -/
theorem spaced {gs : List Glyph} (h : Finishes gs) : Finishes (spaced gs) := by
  obtain ⟨before, g, rfl, hg⟩ := h
  cases before with
  | nil => exact ⟨[], _, rfl, hg⟩
  | cons g' before => exact ⟨{ g' with gap := .space } :: before, g, rfl, hg⟩

/-- A name may have generic arguments. -/
theorem angled {name : String} (plain : IsPlainName name) {α : Type} (arguments : List α)
    (inside : List Glyph) : Finishes (.word name :: angled arguments inside) := by
  cases arguments with
  | nil => exact ⟨[], _, rfl, .inl ⟨name, plain, rfl⟩⟩
  | cons t ts => exact (((mark (by decide) .free).append inside).cons _).cons _

end Finishes

namespace TypeExpr

theorem finishes_listGlyphs (c : Char) (ts : List TypeExpr) {last : TypeExpr}
    (h : Finishes last.glyphs) : Finishes (listGlyphs c (ts ++ [last])) := by
  induction ts with
  | nil => simpa [listGlyphs] using h
  | cons t ts ih => exact (ih.append _).append _

/-- **No canonical type ends in the middle of something.** -/
theorem Canonical.finishes {level : TypeLevel} {t : TypeExpr} (h : t.Canonical level) :
    Finishes t.glyphs := by
  induction h with
  | named plain => exact .angled plain _ _
  | member _ plain => exact ((Finishes.angled plain _ _).cons _).append _
  | tuple => exact ((Finishes.mark (by decide) .free).append _).cons _
  | @optional _ _ mark => exact (Finishes.mark (by cases mark <;> decide) .nothing).append _
  | array => exact ((Finishes.mark (by decide) .free).append _).cons _
  | dictionary => exact ((((Finishes.mark (by decide) .free).append _).cons _).append _).cons _
  | function _ _ _ _ ih => exact ((((ih.cons _).append _).cons _).append _).cons _
  | single _ ih | composed _ ih | whole _ ih => exact ih
  | composition _ _ _ _ _ ih => exact finishes_listGlyphs '&' _ ih
  | attributed _ _ _ _ ih => exact ih.spaced.append _

end TypeExpr

/-- The token of a glyph that can be the last calls for nothing. -/
theorem Glyph.FinishesType.not_leads {g : Glyph} (h : g.FinishesType) {t : Placed}
    (ht : g.Matches t) : ¬ t.leads := by
  rcases h with ⟨name, plain, hkind⟩ | ⟨c, hc, hkind⟩
  · have hfree := plain.free
    simp only [reservedWords, List.mem_append, not_or] at hfree
    have hword : name ∉ Specifier.words := hfree.1.2
    have heffect : Effect.ofWord? name = none := by
      have hno : name ≠ "async" ∧ name ≠ "throws" ∧ name ≠ "rethrows" := by
        refine ⟨?_, ?_, ?_⟩ <;> (rintro rfl; exact absurd (by decide) hfree.2)
      simp [Effect.ofWord?, hno]
    simp [Placed.leads, Token.is, Token.name?, ht.kind, hkind, hword, heffect]
  · have hmarks : ∀ c ∈ [')', ']', '>', '?', '!'], c ≠ '.' ∧ c ≠ '@' ∧ c ≠ '~' := by simp
    simp [Placed.leads, Token.is, Token.name?, ht.kind, hkind, hmarks c hc]

/-- The last of the tokens is that of the last glyph. -/
theorem Written.exists_last {before : List Glyph} {g : Glyph} {ts : List Placed}
    (h : Written (before ++ [g]) ts) : ∃ first t, ts = first ++ [t] ∧ g.Matches t := by
  induction before generalizing ts with
  | nil =>
    rcases h with _ | ⟨first, _ | _⟩
    exact ⟨[], _, rfl, first⟩
  | cons g' before ih =>
    rcases h with _ | @⟨_, _, t, _, _, more⟩
    obtain ⟨first, last, rfl, hlast⟩ := ih more
    exact ⟨t :: first, last, rfl, hlast⟩

/-- Only what comes after such tokens can go on with their type. -/
theorem Finishes.parted {gs : List Glyph} (h : Finishes gs) {ts after : List Placed}
    (written : Written gs ts) (closes : ClosesType after) : Parted ts after := by
  obtain ⟨before, g, rfl, hg⟩ := h
  obtain ⟨first, last, rfl, hlast⟩ := written.exists_last
  refine ⟨closes, fun u hu hleads => absurd hleads ?_⟩
  rw [List.getLast?_concat] at hu
  cases hu
  exact hg.not_leads hlast

namespace TypeExpr.Canonical

variable {level : TypeLevel} {t : TypeExpr} {ts after : List Placed} {n : Nat}

/-- Only what comes after a canonical type can go on with it. -/
theorem parted (h : t.Canonical level) (written : Written t.glyphs ts) (closes : ClosesType after) :
    Parted ts after :=
  h.finishes.parted written closes

/-- **A canonical type is read back in front of whatever no type goes on with.** -/
theorem typeExpr_of_written (h : t.Canonical .whole) (written : Written t.glyphs ts)
    (closes : ClosesType after) (hn : 16 * ts.length + 5 ≤ n) :
    ∃ found, found.unplaced = t.unplaced ∧ typeExpr n (ts ++ after) = .ok (found, after) := by
  have hlen : 16 * (t.glyphs.length + ([] : List Glyph).length) + 5 ≤ n := by
    rw [← written.length_eq, List.length_nil]
    omega
  have hparted := h.parted written closes
  rw [← List.append_nil t.glyphs] at written
  obtain ⟨found, rest, hfound, hsame, ⟨⟩⟩ := h.readBack (fun g hg => by cases hg) hlen written
  exact ⟨found, hsame, typeExpr_of_parted hparted hfound⟩

end TypeExpr.Canonical

end SwiftTuples
