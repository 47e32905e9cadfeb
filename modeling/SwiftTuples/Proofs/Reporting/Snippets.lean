import SwiftTuples.Report.Text
import SwiftTuples.Proofs.Reporting.FileReport
import SwiftTuples.Proofs.Reporting.Places
/-!
# Snippets show the right line

A finding has its line from the line feed bytes of the text, and a snippet takes the line with that
number from the text as it is split. Splitting drops the carriage return before a line feed and
opens no line after the last one; a place that is on neither keeps its line and its column there
(`Text.exists_line_at`). So the text of a report has below each finding the line of its parenthesis,
as long as the file is as it was when it was analyzed (`Report.snippets_show_lines`).
-/

namespace SwiftTuples

namespace Text

variable {source line above before rest : Text} {c : Char}

/-! ## The lines of a text, one at a time -/

/-- What comes after a line: nothing, or a line feed with the carriage return before it, if there is
one. -/
def EndsLine (line ending : Text) : Prop :=
  ending = [] ∨ (∃ below, ending = '\r' :: '\n' :: below) ∨
    ∃ below, ending = '\n' :: below ∧ line.getLast? ≠ some '\r'

/-- The line of a text on which a character stands at an offset. -/
def LineWith (source line : Text) (c : Char) (offset : Nat) : Prop :=
  ∃ above left right ending, source = above ++ (line ++ ending) ∧ line = left ++ c :: right ∧
    (above = [] ∨ above.getLast? = some '\n') ∧ '\n' ∉ line ∧ EndsLine line ending ∧
    offset = above.size + left.size

/-- Whole lines are split off one by one. -/
theorem drop_linesFrom (habove : above.getLast? = some '\n') :
    (linesFrom before (above ++ rest)).drop (above.count '\n') = lines rest := by
  induction above generalizing before with
  | nil => cases habove
  | cons c above ih =>
    by_cases hc : c = '\n'
    · subst hc
      rw [List.cons_append, linesFrom, List.count_cons_self, List.drop_succ_cons]
      cases above with
      | nil => rfl
      | cons d above => exact ih habove
    · rw [List.cons_append, linesFrom.eq_3 _ _ _ fun h => hc h, List.count_cons_of_ne hc]
      cases above with
      | nil => exact absurd (Option.some.inj habove) hc
      | cons d above => exact ih habove

/-- Below whole lines comes the first line of what is left. -/
theorem getElem?_lines (habove : above = [] ∨ above.getLast? = some '\n') (rest : Text) :
    (lines (above ++ rest))[above.count '\n']? = (lines rest).head? := by
  rcases habove with rfl | habove
  · exact List.head?_eq_getElem?.symm
  · rw [← List.head?_drop, lines, drop_linesFrom habove]

/-- What is on one line is gathered. -/
theorem linesFrom_append {left : Text} (hleft : '\n' ∉ left) :
    linesFrom before (left ++ rest) = linesFrom (left.reverse ++ before) rest := by
  induction left generalizing before with
  | nil => rfl
  | cons c left ih =>
    rw [List.mem_cons, not_or] at hleft
    rw [List.cons_append, linesFrom.eq_3 _ _ _ fun h => hleft.1 h.symm, ih hleft.2,
      List.reverse_cons, List.append_assoc, List.singleton_append]

theorem closeLine_eq (h : before.head? ≠ some '\r') : closeLine before = before.reverse := by
  unfold closeLine
  split
  · exact absurd rfl h
  · rfl

/-- The first line of a text that begins with `before` in reverse. All of `before` is on it, unless
it ends in a carriage return that belongs to the end of the line. -/
theorem head?_linesFrom (hne : before ≠ []) (hbefore : '\n' ∉ before)
    (hreturn : ¬ (before.head? = some '\r' ∧ rest.head? = some '\n')) :
    ∃ right ending, rest = right ++ ending ∧ EndsLine (before.reverse ++ right) ending ∧
      '\n' ∉ before.reverse ++ right ∧
      (linesFrom before rest).head? = some (before.reverse ++ right) := by
  have hnone : '\n' ∉ before.reverse ++ [] := by simpa using hbefore
  fun_induction linesFrom before rest with
  | case1 before hempty => exact absurd (List.isEmpty_iff.1 hempty) hne
  | case2 before hempty => exact ⟨[], [], rfl, .inl rfl, hnone, by simp⟩
  | case3 before below ih =>
    have hlast : before.head? ≠ some '\r' := fun h => hreturn ⟨h, rfl⟩
    refine ⟨[], '\n' :: below, rfl, .inr (.inr ⟨below, rfl, ?_⟩), hnone, ?_⟩
    · rwa [List.append_nil, List.getLast?_reverse]
    · rw [closeLine_eq hlast, List.append_nil]
      rfl
  | case4 before c rest hc ih =>
    by_cases hend : c = '\r' ∧ rest.head? = some '\n'
    · obtain ⟨rfl, hrest⟩ := hend
      obtain ⟨below, rfl⟩ := List.head?_eq_some_iff.1 hrest
      exact ⟨[], '\r' :: '\n' :: below, rfl, .inr (.inl ⟨below, rfl⟩), hnone, by
        simp [linesFrom, closeLine]⟩
    · have hcons : '\n' ∉ c :: before := by simp [hbefore, Ne.symm hc]
      obtain ⟨right, ending, rfl, hends, hline, hhead⟩ := ih (List.cons_ne_nil _ _) hcons
        (by simpa using hend) (by simp [hbefore, Ne.symm hc])
      rw [List.reverse_cons, List.append_assoc, List.singleton_append] at hends hline hhead
      exact ⟨c :: right, ending, rfl, hends, hline, hhead⟩

/-- **A place on a line is on that line of the text as it is split.** The place may be any that is
no part of the end of the line. -/
theorem exists_line {left after : Text} (habove : above = [] ∨ above.getLast? = some '\n')
    (hleft : '\n' ∉ left) (hc : c ≠ '\n') (hreturn : ¬ (c = '\r' ∧ after.head? = some '\n')) :
    ∃ right ending, after = right ++ ending ∧ EndsLine (left ++ c :: right) ending ∧
      '\n' ∉ left ++ c :: right ∧
      (lines (above ++ (left ++ c :: after)))[above.count '\n']? = some (left ++ c :: right) := by
  have hbefore : '\n' ∉ c :: left.reverse := by simp [hleft, Ne.symm hc]
  obtain ⟨right, ending, rfl, hends, hline, hhead⟩ :=
    head?_linesFrom (List.cons_ne_nil c left.reverse) hbefore (by simpa using hreturn)
  rw [List.reverse_cons, List.reverse_reverse, List.append_assoc, List.singleton_append]
    at hends hline hhead
  refine ⟨right, ending, rfl, hends, hline, ?_⟩
  rw [getElem?_lines habove, lines, linesFrom_append hleft, List.append_nil,
    linesFrom.eq_3 _ _ _ fun h => hc h, hhead]

/-! ## Bytes of lines -/

/-- Every byte of a text is a byte of one of its characters. -/
theorem exists_char {o : Nat} {b : UInt8} (h : source.bytes[o]? = some b) :
    ∃ (before : Text) (c : Char) (after : Text) (k : Nat), source = before ++ c :: after ∧
      o = before.size + k ∧ (String.utf8EncodeChar c)[k]? = some b := by
  induction source generalizing o with
  | nil => cases h
  | cons c source ih =>
    rw [bytes_cons] at h
    by_cases ho : o < (String.utf8EncodeChar c).length
    · rw [List.getElem?_append_left ho] at h
      exact ⟨[], c, source, o, rfl, (Nat.zero_add o).symm, h⟩
    · rw [Nat.not_lt] at ho
      rw [List.getElem?_append_right ho] at h
      obtain ⟨before, d, after, k, rfl, hk, hb⟩ := ih h
      refine ⟨c :: before, d, after, k, rfl, ?_, hb⟩
      rw [String.length_utf8EncodeChar] at ho hk
      rw [size_cons]
      omega

/-- The bytes of a character in a text. -/
theorem getElem?_bytes (before after : Text) {k : Nat} {b : UInt8}
    (h : (String.utf8EncodeChar c)[k]? = some b) :
    (bytes (before ++ c :: after))[before.size + k]? = some b := by
  obtain ⟨hk, -⟩ := List.getElem?_eq_some_iff.1 h
  rw [bytes_append, List.getElem?_append_right (by rw [length_bytes]; omega), length_bytes,
    Nat.add_sub_cancel_left, bytes_cons, List.getElem?_append_left hk, h]

/-- The byte of a carriage return. -/
def carriageReturn : UInt8 := 13

/-- **A byte that is no part of a line end is found on the line with its number, at its column.** -/
theorem exists_line_at {o : Nat} {b : UInt8} (h : source.bytes[o]? = some b) (hfeed : b ≠ feed)
    (hreturn : ¬ (b = carriageReturn ∧ source.bytes[o + 1]? = some feed)) :
    ∃ line, source.lines[((LineIndex.ofText source).location o).line - 1]? = some line ∧
      line.bytes[((LineIndex.ofText source).location o).column - 1]? = some b := by
  obtain ⟨before, c, after, k, rfl, rfl, hb⟩ := exists_char h
  obtain ⟨above, left, rfl, habove, hleft⟩ := before.exists_lines
  obtain ⟨hk, -⟩ := List.getElem?_eq_some_iff.1 hb
  have hc : c ≠ '\n' := by
    rintro rfl
    exact hfeed (List.mem_singleton.1 (List.mem_of_getElem? hb))
  have hend : ¬ (c = '\r' ∧ after.head? = some '\n') := by
    rintro ⟨rfl, hafter⟩
    obtain ⟨below, rfl⟩ := List.head?_eq_some_iff.1 hafter
    obtain rfl : k = 0 := Nat.lt_one_iff.1 hk
    have hnext := getElem?_bytes (above ++ left ++ ['\r']) below
      (show (String.utf8EncodeChar '\n')[0]? = some feed from rfl)
    refine hreturn ⟨List.mem_singleton.1 (List.mem_of_getElem? hb), ?_⟩
    rw [List.append_assoc, List.singleton_append, size_append] at hnext
    exact hnext
  obtain ⟨right, ending, rfl, -, -, hline⟩ := exists_line habove hleft hc hend
  rw [String.length_utf8EncodeChar] at hk
  rw [List.append_assoc, size_append, Nat.add_assoc, LineIndex.location_inside habove hleft hc hk]
  exact ⟨left ++ c :: right, hline, getElem?_bytes left right hb⟩

end Text

/-! ## Rows of a report -/

variable {f : Finding} {path : Path} {source line : Text}

/-- The rows that show a line below a finding. -/
def Finding.shownRows (f : Finding) (line : Text) : List Row :=
  [[.bare "   ", ⟨.blue, ['|']⟩], lineRow f.location.line line, caretRow f.location.column]

theorem Finding.snippetRows_eq (h : source.lines[f.location.line - 1]? = some line) :
    f.snippetRows source = f.shownRows line := by
  rw [snippetRows, h]
  rfl

namespace FileReport

/-- Below the header of a finding its snippet is written. -/
theorem infix_findingRows (source : Text) (guided : Bool) :
    f.headerRows path ++ f.snippetRows source <:+: findingRows path (some source) guided f := by
  rw [findingRows]
  exact (List.prefix_append _ _).isInfix.trans (List.prefix_append _ _).isInfix

/-- The findings of a file are written one below the other. -/
theorem infix_findingsRows {findings : List Finding} (hf : f ∈ findings) (path : Path)
    (source : Text) (guided : Bool) : f.headerRows path ++ f.snippetRows source <:+:
      findingsRows path (some source) guided findings := by
  cases findings with
  | nil => cases hf
  | cons g findings =>
    rw [findingsRows]
    rcases List.mem_cons.1 hf with rfl | hf
    · exact (infix_findingRows source guided).trans (List.prefix_append _ _).isInfix
    · refine ((infix_findingRows source false).trans ?_).trans (List.suffix_append _ _).isInfix
      simpa using ((List.singleton_infix_iff f findings).2 hf).flatMap
        (findingRows path (some source) false)

/-- What a file has is found at parentheses of its text. -/
theorem stands_of_mem_findings {w : Workspace} {s : Settings} (hread : w.read path = .ok source)
    (hf : f ∈ (ofFile w s path).findings) :
    source.Stands '(' f.violation.position f.location := by
  rw [ofFile, hread] at hf
  simp only [ofSource] at hf
  split at hf
  · cases hf
  · cases hparse : SourceFile.parse source with
    | error e =>
      rw [hparse] at hf
      cases hf
    | ok file =>
      rw [hparse] at hf
      exact (covers_of_parse s.tuples.rule path hparse).placed f hf

/-- The snippet of a finding shows the line of its parenthesis. -/
theorem exists_snippet {w : Workspace} {s : Settings} (hread : w.read path = .ok source)
    (hf : f ∈ (ofFile w s path).findings) :
    ∃ line, source.LineWith line '(' f.violation.position ∧
      f.snippetRows source = f.shownRows line := by
  obtain ⟨above, left, after, rfl, habove, hleft, hposition, hlocation⟩ :=
    stands_of_mem_findings hread hf
  have hreturn : ¬ ('(' = '\r' ∧ after.head? = some '\n') := fun h => nomatch h.1
  obtain ⟨right, ending, rfl, hends, hline, hlines⟩ :=
    Text.exists_line habove hleft (by decide) hreturn
  refine ⟨left ++ '(' :: right, ⟨above, left, right, ending, by simp, rfl, habove, hline, hends,
    hposition⟩, Finding.snippetRows_eq ?_⟩
  rw [hlocation]
  exact hlines

end FileReport

namespace Report

/-- The files of a report are written one below the other. -/
theorem infix_fileRows {r : FileReport} {files : List FileReport} (hr : r ∈ files)
    (sourceOf : Path → Option Text) (guided : Bool) :
    ∃ guided', r.rows (sourceOf r.path) guided' <:+: fileRows sourceOf guided files := by
  induction files generalizing guided with
  | nil => cases hr
  | cons r' files ih =>
    rw [fileRows]
    rcases List.mem_cons.1 hr with rfl | hr
    · exact ⟨guided, (List.prefix_append _ _).isInfix⟩
    · obtain ⟨guided', h⟩ := ih hr (guided && r'.isClean)
      exact ⟨guided', h.trans (List.suffix_append _ _).isInfix⟩

/-- The text of a report has the header of each finding with its snippet below, as it is in the
text that the file has now. -/
theorem infix_text {r : Report} {g : FileReport} {w : Workspace} (hg : g ∈ r.files)
    (hread : w.read g.path = .ok source) (hf : f ∈ g.findings) (colour : Bool) :
    Row.writeAll colour (f.headerRows g.path ++ f.snippetRows source) <:+:
      r.text (some w) colour := by
  obtain ⟨guided, hfile⟩ := infix_fileRows hg (fun p => (w.read p).toOption) true
  rw [FileReport.rows, hread] at hfile
  have hfinding := FileReport.infix_findingsRows hf g.path source guided
  have hrows := (hfinding.trans (List.suffix_append _ _).isInfix).trans
    (hfile.trans (List.prefix_append _ r.summaryRows).isInfix)
  exact hrows.flatMap (Row.write colour)

/-- **Snippets show the right line.** A byte that is no part of a line end is found on the line with
its number, at its column, however the lines end. So the text of a report has, below the header of
each finding of a file that is as it was when it was analyzed, the line of that file on which the
parenthesis of the finding stands. -/
theorem snippets_show_lines :
    (∀ (source : Text) (o : Nat) (b : UInt8), source.bytes[o]? = some b → b ≠ Text.feed →
      ¬ (b = Text.carriageReturn ∧ source.bytes[o + 1]? = some Text.feed) →
      ∃ line, source.lines[((LineIndex.ofText source).location o).line - 1]? = some line ∧
        line.bytes[((LineIndex.ofText source).location o).column - 1]? = some b) ∧
    ∀ (scanned shown : Workspace) (s : Settings) (path : Path) (source : Text) (r : Report)
      (colour : Bool), scanned.read path = .ok source → shown.read path = .ok source →
      FileReport.ofFile scanned s path ∈ r.files →
      ∀ f ∈ (FileReport.ofFile scanned s path).findings,
        ∃ line, source.LineWith line '(' f.violation.position ∧
          Row.writeAll colour (f.headerRows path ++ f.shownRows line) <:+:
            r.text (some shown) colour := by
  refine ⟨fun _ _ _ => Text.exists_line_at, ?_⟩
  intro scanned shown s path source r colour hscanned hshown hr f hf
  obtain ⟨line, hline, hsnippet⟩ := FileReport.exists_snippet hscanned hf
  have htext := infix_text hr (by rwa [FileReport.path_ofFile]) hf colour
  rw [FileReport.path_ofFile, hsnippet] at htext
  exact ⟨line, hline, htext⟩

/-- A tuple on a second line, behind a carriage return that ends no line and a letter of two bytes. -/
def secondLine : Text := "\r\n\rlet é: (B, C, D)\r\n".toList

/-- A directory with a file of this text. -/
def secondLineDir : Workspace :=
  ⟨.directory [("a.swift".toList, .file (String.ofList secondLine).toUTF8)], []⟩

/-- The settings that nobody has changed find that tuple, and the report shows its line. -/
theorem snippet_of_second_line :
    (∃ line, secondLine.lines[1]? = some line ∧ line.bytes[9]? = some 40) ∧
    ∃ f line, (FileReport.ofFile secondLineDir {} ⟨"a.swift".toList⟩).findings = [f] ∧
      secondLine.LineWith line '(' f.violation.position ∧
      Row.writeAll false (f.headerRows ⟨"a.swift".toList⟩ ++ f.shownRows line) <:+:
        (Report.ofFiles [FileReport.ofFile secondLineDir {} ⟨"a.swift".toList⟩] 0).text
          (some secondLineDir) false := by
  have hread : secondLineDir.read ⟨"a.swift".toList⟩ = .ok secondLine := by decide +kernel
  refine ⟨snippets_show_lines.1 secondLine 11 40 (by decide +kernel) (by decide) (by decide), ?_⟩
  obtain ⟨f, hf⟩ := List.length_eq_one_iff.1
    (show (FileReport.ofFile secondLineDir {} ⟨"a.swift".toList⟩).findings.length = 1 by
      decide +kernel)
  obtain ⟨line, hline, htext⟩ := snippets_show_lines.2 secondLineDir secondLineDir {} _ _
    (Report.ofFiles [FileReport.ofFile secondLineDir {} ⟨"a.swift".toList⟩] 0) false hread hread
    (List.mem_singleton.2 rfl) f (hf ▸ List.mem_singleton.2 rfl)
  exact ⟨f, line, hf, hline, htext⟩

end Report

end SwiftTuples
