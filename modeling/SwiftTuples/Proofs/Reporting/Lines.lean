import Mathlib.Data.List.Infix
import SwiftTuples.Inspection
/-!
# Lines of a text

Two notions of a line meet in a report. A finding has the line and the column that the line index
gives to its offset, and the directive counts in the first lines of a text as it is split. Both
count the line feeds before a place: `Text.Stands` says where a character is without the index,
and `Text.BearsDirective` where the directive is without the lines.
-/

namespace SwiftTuples

/-- A place comes before another: on an earlier line, or to the left on the same one. -/
def Location.Before (a b : Location) : Prop :=
  a.line < b.line ∨ a.line = b.line ∧ a.column < b.column

/-- A character stands in a text at an offset, and its place is the location: `above` are the lines
above its own, `left` is what its own line has before it. -/
def Text.Stands (source : Text) (c : Char) (offset : Nat) (location : Location) : Prop :=
  ∃ above left after, source = above ++ (left ++ c :: after) ∧
    (above = [] ∨ above.getLast? = some '\n') ∧ '\n' ∉ left ∧
    offset = above.size + left.size ∧ location = ⟨above.count '\n' + 1, left.size + 1⟩

/-! ## The line index -/

namespace LineIndex

variable {line start offset offset' : Nat} {starts : List Nat}

/-- A place after a line start is not above its line. -/
theorem le_line_locate : line ≤ (locate line start offset starts).line := by
  induction starts generalizing line start with
  | nil => exact Nat.le_refl line
  | cons next later ih =>
    simp only [locate]
    split
    · exact Nat.le_of_succ_le ih
    · exact Nat.le_refl line

/-- **Later offsets have later places.** -/
theorem locate_before (hstart : start ≤ offset) (hlt : offset < offset') :
    (locate line start offset starts).Before (locate line start offset' starts) := by
  have hcolumn : offset - start + 1 < offset' - start + 1 := by omega
  induction starts generalizing line start with
  | nil => exact .inr ⟨rfl, hcolumn⟩
  | cons next later ih =>
    simp only [locate]
    by_cases hnext : next ≤ offset
    · rw [if_pos hnext, if_pos (hnext.trans hlt.le)]
      exact ih hnext (by omega)
    · rw [if_neg hnext]
      split
      -- the line ends between the two offsets
      · exact .inl (Nat.lt_of_succ_le le_line_locate)
      · exact .inr ⟨rfl, hcolumn⟩

/-- Line starts lie behind the offset they are counted from. -/
theorem lt_of_mem_startsFrom {text : Text} {p : Nat} (h : p ∈ startsFrom offset text) :
    offset < p := by
  induction text generalizing offset with
  | nil => cases h
  | cons c rest ih =>
    have := c.utf8Size_pos
    simp only [startsFrom] at h
    split at h
    · rcases List.mem_cons.1 h with rfl | h
      · exact Nat.lt_succ_self offset
      · exact Nat.lt_of_succ_lt (ih h)
    · exact lt_of_le_of_lt (Nat.le_add_right ..) (ih h)

theorem startsFrom_append (a b : Text) :
    startsFrom offset (a ++ b) = startsFrom offset a ++ startsFrom (offset + a.size) b := by
  induction a generalizing offset with
  | nil => rfl
  | cons c a ih =>
    simp only [List.cons_append, startsFrom, Text.size_cons, ih, ← Nat.add_assoc]
    split
    · next h => subst h; rfl
    · rfl

theorem startsFrom_eq_nil {text : Text} (h : '\n' ∉ text) : startsFrom offset text = [] := by
  induction text generalizing offset with
  | nil => rfl
  | cons c rest ih =>
    rw [List.mem_cons, not_or] at h
    rw [startsFrom, if_neg (Ne.symm h.1), ih h.2]

/-- A place before all further line starts is on the line at hand. -/
theorem locate_of_lt (h : ∀ p ∈ starts, offset < p) :
    locate line start offset starts = ⟨line, offset - start + 1⟩ := by
  cases starts with
  | nil => rfl
  | cons next later => rw [locate, if_neg (Nat.not_le.2 (h next List.mem_cons_self))]

/-- Whole lines above a place are passed over, and its own starts where they end. -/
theorem locate_startsFrom {above : Text} {base : Nat}
    (habove : above = [] ∧ start = base ∨ above.getLast? = some '\n')
    (hle : base + above.size ≤ offset) :
    locate line start offset (startsFrom base above ++ starts) =
      locate (line + above.count '\n') (base + above.size) offset starts := by
  induction above generalizing line start base with
  | nil =>
    rcases habove with ⟨-, rfl⟩ | habove
    · rfl
    · cases habove
  | cons c above ih =>
    replace habove := habove.resolve_left fun h => List.cons_ne_nil _ _ h.1
    rw [Text.size_cons] at hle
    by_cases hc : c = '\n'
    · subst hc
      have hsize : Char.utf8Size '\n' = 1 := rfl
      have hrest : above = [] ∧ base + 1 = base + 1 ∨ above.getLast? = some '\n' := by
        cases above with
        | nil => exact .inl ⟨rfl, rfl⟩
        | cons d above => exact .inr habove
      rw [startsFrom, if_pos rfl, List.cons_append, locate, if_pos (by omega),
        ih hrest (by omega), List.count_cons_self, Text.size_cons, hsize]
      congr 1 <;> omega
    · have hrest : above.getLast? = some '\n' := by
        cases above with
        | nil => exact absurd (Option.some.inj habove) hc
        | cons d above => exact habove
      rw [startsFrom, if_neg hc, ih (.inr hrest) (by omega), List.count_cons_of_ne hc,
        Text.size_cons, Nat.add_assoc]

/-- A place before the next line start is on the line that starts below the lines above it. -/
theorem location_of_lt {above rest : Text} {column : Nat}
    (habove : above = [] ∨ above.getLast? = some '\n')
    (hlater : ∀ p ∈ startsFrom above.size rest, above.size + column < p) :
    (ofText (above ++ rest)).location (above.size + column) =
      ⟨above.count '\n' + 1, column + 1⟩ := by
  have hzero : 0 + above.size = above.size := Nat.zero_add _
  rw [ofText, location, startsFrom_append,
    locate_startsFrom (habove.imp_left fun h => ⟨h, rfl⟩) (by omega), hzero, locate_of_lt hlater]
  congr 1 <;> omega

/-- **The index counts the lines above and the bytes to the left.** -/
theorem location_eq {above left after : Text} (habove : above = [] ∨ above.getLast? = some '\n')
    (hleft : '\n' ∉ left) :
    (ofText (above ++ (left ++ after))).location (above.size + left.size) =
      ⟨above.count '\n' + 1, left.size + 1⟩ := by
  refine location_of_lt habove fun p hp => ?_
  rw [startsFrom_append, startsFrom_eq_nil hleft, List.nil_append] at hp
  exact lt_of_mem_startsFrom hp

/-- A place inside a character that ends no line has the column of that byte. -/
theorem location_inside {above left after : Text} {c : Char} {k : Nat}
    (habove : above = [] ∨ above.getLast? = some '\n') (hleft : '\n' ∉ left) (hc : c ≠ '\n')
    (hk : k < c.utf8Size) :
    (ofText (above ++ (left ++ c :: after))).location (above.size + (left.size + k)) =
      ⟨above.count '\n' + 1, left.size + k + 1⟩ := by
  refine location_of_lt habove fun p hp => ?_
  rw [startsFrom_append, startsFrom_eq_nil hleft, List.nil_append, startsFrom, if_neg hc] at hp
  have := lt_of_mem_startsFrom hp
  omega

end LineIndex

/-- What comes before a place is whole lines and the beginning of one. -/
theorem Text.exists_lines (before : Text) : ∃ above left : Text, before = above ++ left ∧
    (above = [] ∨ above.getLast? = some '\n') ∧ '\n' ∉ left := by
  induction before with
  | nil => exact ⟨[], [], rfl, .inl rfl, List.not_mem_nil⟩
  | cons c before ih =>
    obtain ⟨above, left, rfl, habove, hleft⟩ := ih
    by_cases hc : c = '\n' ∨ above ≠ []
    · refine ⟨c :: above, left, rfl, .inr ?_, hleft⟩
      cases above with
      | nil => exact congrArg some (hc.resolve_right fun h => h rfl)
      | cons d above => exact habove.resolve_left (List.cons_ne_nil _ _)
    · rw [not_or, not_not] at hc
      obtain ⟨hc, rfl⟩ := hc
      exact ⟨[], c :: left, rfl, .inl rfl, by simp [Ne.symm hc, hleft]⟩

/-- A character stands where the index says. -/
theorem LineIndex.stands (before : Text) (c : Char) (after : Text) :
    (before ++ c :: after).Stands c before.size
      ((LineIndex.ofText (before ++ c :: after)).location before.size) := by
  obtain ⟨above, left, rfl, habove, hleft⟩ := before.exists_lines
  exact ⟨above, left, after, List.append_assoc .., habove, hleft, Text.size_append .., by
    rw [List.append_assoc, Text.size_append, LineIndex.location_eq habove hleft]⟩

/-- The line of a place is one more than the line feeds before it. -/
theorem LineIndex.line_eq (before after : Text) :
    ((LineIndex.ofText (before ++ after)).location before.size).line = before.count '\n' + 1 := by
  obtain ⟨above, left, rfl, habove, hleft⟩ := before.exists_lines
  rw [List.append_assoc, Text.size_append, LineIndex.location_eq habove hleft, List.count_append,
    List.count_eq_zero.2 hleft, Nat.add_zero]

/-! ## The lines a text is split into -/

namespace Text

/-- A text is held where it is an infix. -/
theorem holds_iff {t part : Text} : t.holds part ↔ part <:+: t := by
  induction t with
  | nil => simp [holds]
  | cons c rest ih => simp [holds, ih, List.infix_cons_iff]

/-- A part without a character lies on one side of it. -/
theorem infix_around {l r before part after : Text} {c : Char} (hc : c ∉ part)
    (h : l ++ c :: r = before ++ (part ++ after)) :
    (∃ after', l = before ++ (part ++ after')) ∨
      ∃ before', before = l ++ c :: before' ∧ r = before' ++ (part ++ after) := by
  rcases List.append_eq_append_iff.1 h with ⟨back, rfl, hback⟩ | ⟨front, rfl, hfront⟩
  · cases back with
    | nil =>
      cases part with
      | nil => exact .inl ⟨[], by simp⟩
      | cons d part => exact absurd (List.cons.inj hback).1 fun hd => hc (hd ▸ List.mem_cons_self)
    | cons d back =>
      obtain ⟨rfl, rfl⟩ := List.cons.inj hback
      exact .inr ⟨back, rfl, rfl⟩
  · rcases List.append_eq_append_iff.1 hfront with ⟨back, rfl, hback⟩ | ⟨mid, hmid, hrest⟩
    · exact .inl ⟨back, rfl⟩
    · cases mid with
      | nil => exact .inl ⟨[], by simpa using hmid.symm⟩
      | cons d mid =>
        obtain ⟨rfl, -⟩ := List.cons.inj hrest
        exact absurd (hmid ▸ List.mem_append_right front List.mem_cons_self) hc

variable {part : Text}

/-- The carriage return that ends a line is no matter for a part without one. -/
theorem infix_closeLine (hreturn : '\r' ∉ part) (hpart : part ≠ []) {before : Text} :
    part <:+: closeLine before ↔ part <:+: before.reverse := by
  unfold closeLine
  split
  · next before =>
    rw [List.reverse_cons]
    refine ⟨fun h => h.trans (List.prefix_append ..).isInfix, ?_⟩
    rintro ⟨front, back, h⟩
    rcases infix_around hreturn ((List.append_assoc ..).symm.trans h).symm with
      ⟨after, hinner⟩ | ⟨front', -, hinner⟩
    · exact ⟨front, after, by rw [hinner, List.append_assoc]⟩
    · exact absurd (List.append_eq_nil_iff.1 (List.append_eq_nil_iff.1 hinner.symm).2).1 hpart
  · rfl

/-- A part starts on one of the first `n` lines of a text: few line feeds come before it. -/
def OnFirstLines (part : Text) (n : Nat) (t : Text) : Prop :=
  ∃ before after, t = before ++ (part ++ after) ∧ before.count '\n' < n

theorem not_onFirstLines_zero (t : Text) : ¬ part.OnFirstLines 0 t := fun ⟨_, _, _, h⟩ => by
  cases h

/-- On a single line it starts anywhere. -/
theorem onFirstLines_line {line : Text} (hline : '\n' ∉ line) (n : Nat) :
    part.OnFirstLines (n + 1) line ↔ part <:+: line := by
  constructor
  · rintro ⟨before, after, rfl, -⟩
    exact ⟨before, after, List.append_assoc ..⟩
  · rintro ⟨before, after, rfl⟩
    refine ⟨before, after, List.append_assoc .., ?_⟩
    have hbefore : '\n' ∉ before := fun hmem => hline (by simp [hmem])
    rw [List.count_eq_zero.2 hbefore]
    exact Nat.succ_pos n

/-- On several lines it starts on the first one or on those after it. -/
theorem onFirstLines_append (hfeed : '\n' ∉ part) {line : Text} (hline : '\n' ∉ line) (n : Nat)
    (rest : Text) : part.OnFirstLines (n + 1) (line ++ '\n' :: rest) ↔
      part <:+: line ∨ part.OnFirstLines n rest := by
  have hfirst : line.count '\n' = 0 := List.count_eq_zero.2 hline
  constructor
  · rintro ⟨before, after, h, hn⟩
    rcases infix_around hfeed h with ⟨after', rfl⟩ | ⟨before', rfl, hrest⟩
    · exact .inl ⟨before, after', List.append_assoc ..⟩
    · rw [List.count_append, hfirst, List.count_cons_self] at hn
      exact .inr ⟨before', after, hrest, by omega⟩
  · rintro (⟨before, after, rfl⟩ | ⟨before, after, rfl, hn⟩)
    · refine ⟨before, after ++ '\n' :: rest, by simp, ?_⟩
      rw [List.append_assoc, List.count_append] at hfirst
      omega
    · refine ⟨line ++ '\n' :: before, after, by simp, ?_⟩
      rw [List.count_append, hfirst, List.count_cons_self]
      omega

theorem newline_not_mem_reverse {line : Text} (h : '\n' ∉ line) : '\n' ∉ line.reverse := by
  simpa using h

/-- **The first lines hold a part that starts on one of them.** -/
theorem any_holds_take_linesFrom (hfeed : '\n' ∉ part) (hreturn : '\r' ∉ part) (hpart : part ≠ [])
    (n : Nat) (line rest : Text) (hline : '\n' ∉ line) :
    ((linesFrom line rest).take n).any (·.holds part) ↔
      part.OnFirstLines n (line.reverse ++ rest) := by
  fun_induction linesFrom line rest generalizing n with
  | case1 line hempty =>
    rw [List.isEmpty_iff] at hempty
    subst hempty
    simp only [List.take_nil, List.any_nil, Bool.false_eq_true, false_iff]
    rintro ⟨before, after, h, -⟩
    exact hpart (List.append_eq_nil_iff.1 (List.append_eq_nil_iff.1 h.symm).2).1
  | case2 line hempty =>
    cases n with
    | zero => simpa using not_onFirstLines_zero _
    | succ n => simp [holds_iff, onFirstLines_line (newline_not_mem_reverse hline)]
  | case3 line rest ih =>
    cases n with
    | zero => simpa using not_onFirstLines_zero _
    | succ n =>
      rw [List.take_succ_cons, List.any_cons, Bool.or_eq_true, holds_iff,
        infix_closeLine hreturn hpart, onFirstLines_append hfeed (newline_not_mem_reverse hline),
        ih n List.not_mem_nil, List.reverse_nil, List.nil_append]
  | case4 line c rest hc ih =>
    have hcons : '\n' ∉ c :: line := by
      rw [List.mem_cons, not_or]
      exact ⟨fun h => hc h.symm, hline⟩
    rw [ih n hcons, List.reverse_cons, List.append_assoc, List.singleton_append]

/-- The directive starts on one of the first lines. -/
def BearsDirective (source : Text) : Prop :=
  ∃ before after, source = before ++ (ignoreDirective ++ after) ∧
    ((LineIndex.ofText source).location before.size).line ≤ directiveLines

/-- **A text is left alone when the directive starts on one of its first lines**, by the lines of
the index. -/
theorem isIgnored_iff {source : Text} : source.isIgnored ↔ source.BearsDirective := by
  rw [isIgnored, lines, any_holds_take_linesFrom (by decide) (by decide) (by decide) _ _ _
    List.not_mem_nil, List.reverse_nil, List.nil_append]
  constructor <;> rintro ⟨before, after, rfl, hlines⟩
  · exact ⟨before, after, rfl, by rw [LineIndex.line_eq]; exact hlines⟩
  · exact ⟨before, after, rfl, by rwa [LineIndex.line_eq] at hlines⟩

end Text

end SwiftTuples
