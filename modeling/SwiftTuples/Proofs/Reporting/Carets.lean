import SwiftTuples.Proofs.Reporting.Snippets
/-!
# Where carets stand

Below the row that shows a line stands a row with a caret. The shown line comes behind a number that
is at least three wide, and the caret behind as many blanks as there are bytes before the finding;
no width is left for the number. So the caret is below the character at the finding only where the
characters before it have as many bytes more as the number and a blank are wide
(`caret_below_iff`). On a line of characters of one byte each it never is.
-/

namespace SwiftTuples

/-- A span without colour is its text. -/
theorem Span.write_false (s : Span) : s.write false = s.text := by
  unfold write
  cases s.style.codes? <;> rfl

/-- A row without colour is the texts of its spans. -/
theorem Row.write_false (row : Row) : row.write false = row.flatMap (·.text) ++ ['\n'] := by
  have hspans : Span.write false = fun s => s.text := funext Span.write_false
  rw [write, hspans]

/-! ## Line feeds -/

theorem Text.newline_not_mem_closeLine {before : Text} (h : '\n' ∉ before) :
    '\n' ∉ closeLine before := by
  unfold closeLine
  split
  · next rest =>
    rw [List.mem_reverse]
    exact fun hrest => h (List.mem_cons_of_mem _ hrest)
  · rwa [List.mem_reverse]

/-- No line holds a line feed. -/
theorem Text.newline_not_mem_of_mem_linesFrom {before t line : Text} (hbefore : '\n' ∉ before)
    (h : line ∈ linesFrom before t) : '\n' ∉ line := by
  fun_induction linesFrom before t with
  | case1 before => cases h
  | case2 before =>
    rw [List.mem_singleton.1 h, List.mem_reverse]
    exact hbefore
  | case3 before rest ih =>
    rcases List.mem_cons.1 h with rfl | h
    · exact newline_not_mem_closeLine hbefore
    · exact ih List.not_mem_nil h
  | case4 before c rest hc ih =>
    refine ih ?_ h
    rw [List.mem_cons, not_or]
    exact ⟨Ne.symm hc, hbefore⟩

theorem Text.newline_not_mem_of_mem_lines {t line : Text} (h : line ∈ t.lines) : '\n' ∉ line :=
  newline_not_mem_of_mem_linesFrom List.not_mem_nil h

/-! ## The number in the gutter -/

theorem length_gutterText (number : Nat) :
    (gutterText number).length = max 3 (toString number).length := by
  have hdigits : (toString number).toList.length = (toString number).length := String.length_toList
  rw [gutterText, List.length_append, List.length_replicate, hdigits]
  omega

theorem newline_not_mem_gutterText (number : Nat) : '\n' ∉ gutterText number := by
  have hdigits : '\n' ∉ (toString number).toList := by
    rw [Nat.toString_eq_repr, Nat.toList_repr]
    intro h
    have hdigit := Nat.isDigit_of_mem_toDigits (by decide) (by decide) h
    cases hdigit
  have hblanks : '\n' ∉ List.replicate (3 - (toString number).toList.length) ' ' := by
    rw [List.mem_replicate]
    exact fun h => absurd h.2 (by decide)
  rw [gutterText, List.mem_append, not_or]
  exact ⟨hblanks, hdigits⟩

namespace Finding

/-- What stands in a row before the line that it shows. -/
def margin (number : Nat) : Text := "   ".toList ++ gutterText number ++ " | ".toList

/-- What stands in a row before a caret. -/
def indent (column : Nat) : Text := "   | ".toList ++ List.replicate (column - 1) ' '

theorem length_margin (number : Nat) :
    (margin number).length = 6 + max 3 (toString number).length := by
  have hleft : "   ".toList.length = 3 := rfl
  have hright : " | ".toList.length = 3 := rfl
  rw [margin, List.length_append, List.length_append, length_gutterText, hleft, hright]
  omega

theorem length_indent (column : Nat) : (indent column).length = 5 + (column - 1) := by
  have hbar : "   | ".toList.length = 5 := rfl
  rw [indent, List.length_append, List.length_replicate, hbar]

theorem caret_not_mem_indent (column : Nat) : '^' ∉ indent column := by
  have hblanks : '^' ∉ List.replicate (column - 1) ' ' := by
    rw [List.mem_replicate]
    exact fun h => absurd h.2 (by decide)
  rw [indent, List.mem_append, not_or]
  exact ⟨by decide, hblanks⟩

variable {f : Finding} {source line left right : Text} {c : Char}

/-- The rows of a snippet without colour. -/
theorem writeAll_snippetRows (h : source.lines[f.location.line - 1]? = some line) :
    Row.writeAll false (f.snippetRows source) =
      "   |\n".toList ++ (margin f.location.line ++ line ++ ['\n']) ++
        (indent f.location.column ++ ['^'] ++ ['\n']) := by
  rw [snippetRows_eq h]
  simp [Row.writeAll, Row.write_false, shownRows, lineRow, caretRow, margin, indent, Span.bare]

/-- **Where the caret of a snippet stands.** The finding is at the character `c` of its line, behind
`left`. The snippet without colour has a row with the line, in which `c` stands behind the margin
and `left`, and below it a row with a single caret, behind as many blanks as `left` has bytes. The
caret is exactly below `c` if and only if the bytes of `left` are more than its characters by the
width of the number in the gutter and one. -/
theorem caret_below_iff (hline : source.lines[f.location.line - 1]? = some line)
    (hleft : line = left ++ c :: right) (hcolumn : left.size = f.location.column - 1) :
    ∃ shown marked : Text,
      Row.writeAll false (f.snippetRows source) =
        "   |\n".toList ++ (shown ++ ['\n']) ++ (marked ++ ['\n']) ∧
      '\n' ∉ shown ∧ '\n' ∉ marked ∧ shown = margin f.location.line ++ line ∧
      shown[(margin f.location.line ++ left).length]? = some c ∧
      marked.count '^' = 1 ∧ marked.idxOf '^' = 5 + left.size ∧
      (marked.idxOf '^' = (margin f.location.line ++ left).length ↔
        left.size = left.length + max 3 (toString f.location.line).length + 1) := by
  have hnone := caret_not_mem_indent f.location.column
  have hcaret : (indent f.location.column ++ ['^']).idxOf '^' = 5 + left.size := by
    rw [List.idxOf_append, if_neg hnone, List.idxOf_cons_self, length_indent, hcolumn]
    omega
  have hplace : (margin f.location.line ++ left).length =
      6 + max 3 (toString f.location.line).length + left.length := by
    rw [List.length_append, length_margin]
  refine ⟨margin f.location.line ++ line, indent f.location.column ++ ['^'],
    writeAll_snippetRows hline, ?_, ?_, rfl, ?_, ?_, hcaret, ?_⟩
  · have hfeed := Text.newline_not_mem_of_mem_lines (List.mem_of_getElem? hline)
    have hnumber := newline_not_mem_gutterText f.location.line
    simp [margin, hfeed, hnumber]
  · simp [indent]
  · rw [hleft, ← List.append_assoc, List.getElem?_append_right (Nat.le_refl _), Nat.sub_self]
    rfl
  · rw [List.count_append, List.count_eq_zero_of_not_mem hnone, List.count_singleton_self]
  · rw [hcaret, hplace]
    omega

/-- Four letters of two bytes each make up for the width of the number. -/
theorem caret_below_behind_wide_letters :
    let source : Text := "let éééé: (A, B, C)".toList
    let f : Finding := ⟨⟨1, 15⟩, ⟨14, .warning, "too many"⟩⟩
    source.lines[0]? = some ("let éééé: ".toList ++ '(' :: "A, B, C)".toList) ∧
    Text.size "let éééé: ".toList = 14 ∧
    ∃ shown marked : Text,
      Row.writeAll false (f.snippetRows source) =
        "   |\n".toList ++ (shown ++ ['\n']) ++ (marked ++ ['\n']) ∧
      shown[(margin 1 ++ "let éééé: ".toList).length]? = some '(' ∧
      marked.idxOf '^' = (margin 1 ++ "let éééé: ".toList).length := by
  intro source f
  have hline : source.lines[f.location.line - 1]? =
      some ("let éééé: ".toList ++ '(' :: "A, B, C)".toList) := by decide +kernel
  have hsize : Text.size "let éééé: ".toList = f.location.column - 1 := by decide +kernel
  obtain ⟨shown, marked, hrows, -, -, -, hshown, -, -, hbelow⟩ := caret_below_iff hline rfl hsize
  exact ⟨hline, hsize, shown, marked, hrows, hshown, hbelow.2 (by decide +kernel)⟩

/-- The caret of this finding stands four characters to the left of its parenthesis. -/
theorem caret_left_of_parenthesis :
    let source : Text := "let a: (Int, Int, Int)".toList
    ∃ f shown marked, (FileReport.ofSource {} ⟨"a.swift".toList⟩ source).findings = [f] ∧
      f.location = ⟨1, 8⟩ ∧
      Row.writeAll false (f.snippetRows source) =
        "   |\n".toList ++ (shown ++ ['\n']) ++ (marked ++ ['\n']) ∧
      shown = "     1 | let a: (Int, Int, Int)".toList ∧ marked = "   |        ^".toList ∧
      shown[16]? = some '(' ∧ marked.idxOf '^' = 12 := by
  intro source
  obtain ⟨f, hf⟩ := List.length_eq_one_iff.1
    (show (FileReport.ofSource {} ⟨"a.swift".toList⟩ source).findings.length = 1 by
      decide +kernel)
  have hlocation : (FileReport.ofSource {} ⟨"a.swift".toList⟩ source).findings.map (·.location) =
      [⟨1, 8⟩] := by decide +kernel
  rw [hf] at hlocation
  have hplace : f.location = ⟨1, 8⟩ := List.singleton_inj.1 hlocation
  have hline : source.lines[f.location.line - 1]? = some source := by
    rw [hplace]
    decide +kernel
  refine ⟨f, _, _, hf, hplace, writeAll_snippetRows hline, ?_, ?_, ?_, ?_⟩
  all_goals
    rw [hplace]
    decide +kernel

end Finding

end SwiftTuples
