import SwiftTuples.Report.Text
/-!
# Guidance is said once

Above its summary the text of a report is made of parts: why a file was skipped, a finding with its
header and its snippet, and the row below it. The parts of a file are told by the file and its text
alone (`FileReport.parts`). Guidance is no part of any file: it is put in once, right behind the
very first finding (`Part.guided`), and the text is what comes of that (`Report.text_eq_parts`). The
loops over files and findings hand on whether guidance is still to be said; `guided_append` carries
it from file to file.
-/

namespace SwiftTuples

namespace Report

/-- A part of the text of a report, above the summary. -/
inductive Part where
  /-- Why a file could not be analyzed. -/
  | skipped (path : Path) (reason : String)
  /-- A finding in a file, the text of which may be known. -/
  | finding (path : Path) (source : Option Text) (f : Finding)
  /-- Why large tuples matter and what to do. -/
  | guidance
  /-- The empty row below a finding. -/
  | gap
deriving DecidableEq

namespace Part

/-- The rows of a part. A finding has its header and, where its file can be read, its snippet. -/
def rows : Part → List Row
  | skipped path reason =>
    [[⟨.faint, "skipped:".toList⟩, .bare " ", ⟨.plain, path.text⟩,
      .bare (": could not be analyzed: " ++ reason)]]
  | finding path source f => f.headerRows path ++ (source.map f.snippetRows).getD []
  | guidance => guidanceRows
  | gap => [[]]

/-- The parts as they are written, one below the other. -/
def writeAll (colour : Bool) (parts : List Part) : Text := Row.writeAll colour (parts.flatMap rows)

/-- The part is a finding. -/
def isFinding : Part → Bool
  | finding .. => true
  | _ => false

/-- The parts with guidance right behind the first finding. -/
def guided : List Part → List Part
  | [] => []
  | p :: rest => if p.isFinding then p :: guidance :: rest else p :: guided rest

end Part

end Report

/-- The parts of a file: why it was skipped, if it was, and its findings. -/
def FileReport.parts (r : FileReport) (source : Option Text) : List Report.Part :=
  (r.failure.map (.skipped r.path)).toList ++
    r.findings.flatMap fun f => [.finding r.path source f, .gap]

namespace Report

/-- The text that a snippet of a file is cut from. -/
def sourceOf (snippetsFrom : Option Workspace) (p : Path) : Option Text :=
  snippetsFrom.bind fun w => (w.read p).toOption

/-- The parts of files, in their order. -/
def parts (snippetsFrom : Option Workspace) (files : List FileReport) : List Part :=
  files.flatMap fun r => r.parts (sourceOf snippetsFrom r.path)

/-- What a report says of its files. -/
def body (snippetsFrom : Option Workspace) (colour : Bool) (files : List FileReport) : Text :=
  Row.writeAll colour (fileRows (sourceOf snippetsFrom) true files)

/-- Something was found in one of the files. -/
def FoundAny (files : List FileReport) : Prop := ∃ r ∈ files, r.findings ≠ []

instance (files : List FileReport) : Decidable (FoundAny files) :=
  inferInstanceAs (Decidable (∃ r ∈ files, _))

/-! ## Guidance among parts -/

namespace Part

variable {ps qs : List Part}

@[simp] theorem guided_finding (path : Path) (source : Option Text) (f : Finding) :
    guided (finding path source f :: ps) = finding path source f :: guidance :: ps := rfl

/-- Guidance comes with the first finding of what stands above, or else is still to be said. -/
theorem guided_append (ps qs : List Part) :
    guided (ps ++ qs) = if ps.any isFinding then guided ps ++ qs else ps ++ guided qs := by
  induction ps with
  | nil => rfl
  | cons p ps ih =>
    rw [List.cons_append, guided, guided, List.any_cons, ih]
    by_cases hp : p.isFinding
    · rw [if_pos hp, hp, Bool.true_or, if_pos rfl, if_pos rfl]
      rfl
    · have hno : p.isFinding = false := Bool.eq_false_iff.2 hp
      rw [if_neg hp, if_neg hp, hno, Bool.false_or]
      split <;> rfl

theorem guided_of_not_any (h : ps.any isFinding = false) : guided ps = ps := by
  have happend := guided_append ps []
  rw [h, if_neg Bool.false_ne_true, List.append_nil] at happend
  exact happend.trans (List.append_nil ps)

/-- Guidance aside, nothing is put in. -/
theorem filter_guided (h : guidance ∉ ps) : (guided ps).filter (· ≠ guidance) = ps := by
  have hkeep : ∀ rs : List Part, guidance ∉ rs → rs.filter (· ≠ guidance) = rs := by
    intro rs hrs
    rw [List.filter_eq_self]
    intro r hr
    have hne : r ≠ guidance := fun heq => hrs (heq ▸ hr)
    simpa using hne
  induction ps with
  | nil => rfl
  | cons p ps ih =>
    rw [List.mem_cons, not_or] at h
    obtain ⟨hp, hps⟩ := h
    have hne : p ≠ guidance := Ne.symm hp
    rw [guided]
    split
    · rw [List.filter_cons_of_pos (by simpa using hne), List.filter_cons_of_neg (by simp),
        hkeep ps hps]
    · rw [List.filter_cons_of_pos (by simpa using hne), ih hps]

/-- Guidance is said once where there is a finding, and not at all where there is none. -/
theorem count_guided (h : guidance ∉ ps) :
    (guided ps).count guidance = if ps.any isFinding then 1 else 0 := by
  induction ps with
  | nil => rfl
  | cons p ps ih =>
    rw [List.mem_cons, not_or] at h
    obtain ⟨hp, hps⟩ := h
    have hne : p ≠ guidance := Ne.symm hp
    rw [guided, List.any_cons]
    by_cases hfinding : p.isFinding
    · rw [if_pos hfinding, List.count_cons_of_ne hne, List.count_cons_self,
        List.count_eq_zero_of_not_mem hps, hfinding, Bool.true_or, if_pos rfl]
    · have hno : p.isFinding = false := Bool.eq_false_iff.2 hfinding
      rw [if_neg hfinding, List.count_cons_of_ne hne, ih hps, hno, Bool.false_or]

theorem writeAll_append (colour : Bool) (ps qs : List Part) :
    writeAll colour (ps ++ qs) = writeAll colour ps ++ writeAll colour qs := by
  simp [writeAll, Row.writeAll]

end Part

end Report

/-! ## One file -/

namespace FileReport

open Report (Part)

variable (r : FileReport) (source : Option Text)

theorem guidance_not_mem_parts : Part.guidance ∉ r.parts source := by
  unfold parts
  cases r.failure <;> simp

theorem any_isFinding_parts : (r.parts source).any Part.isFinding = !r.isClean := by
  unfold parts isClean
  cases r.failure <;> cases r.findings <;> simp [Part.isFinding]

theorem skippedRows_eq :
    r.skippedRows = ((r.failure.map (Part.skipped r.path)).toList).flatMap Part.rows := by
  unfold skippedRows
  cases r.failure <;> rfl

/-- Without guidance the findings of a file are written one by one. -/
theorem flatMap_findingRows (findings : List Finding) :
    findings.flatMap (findingRows r.path source false) =
      (findings.flatMap fun f => [Part.finding r.path source f, .gap]).flatMap Part.rows := by
  have hone : findingRows r.path source false =
      fun f => [Part.finding r.path source f, .gap].flatMap Part.rows := by
    funext f
    simp [findingRows, Part.rows]
  rw [List.flatMap_assoc, hone]

/-- **The rows of a file** are those of its parts, guidance being put in where it is still to be
said. -/
theorem rows_eq (guided : Bool) : r.rows source guided =
    (if guided then Part.guided (r.parts source) else r.parts source).flatMap Part.rows := by
  rw [rows, skippedRows_eq]
  have hskipped : ((r.failure.map (Part.skipped r.path)).toList).any Part.isFinding = false := by
    cases r.failure <;> rfl
  cases guided with
  | false =>
    rw [if_neg Bool.false_ne_true, parts, List.flatMap_append, ← flatMap_findingRows]
    cases r.findings <;> rfl
  | true =>
    rw [if_pos rfl, parts, Part.guided_append, hskipped, if_neg Bool.false_ne_true,
      List.flatMap_append]
    congr 1
    cases r.findings with
    | nil => rfl
    | cons f rest =>
      rw [findingsRows, flatMap_findingRows, List.flatMap_cons, List.cons_append,
        Part.guided_finding]
      simp [findingRows, Part.rows]

end FileReport

/-! ## All files -/

namespace Report

variable {snippetsFrom : Option Workspace} {colour : Bool} {files before after : List FileReport}

theorem parts_append (snippetsFrom : Option Workspace) (a b : List FileReport) :
    parts snippetsFrom (a ++ b) = parts snippetsFrom a ++ parts snippetsFrom b :=
  List.flatMap_append

theorem guidance_not_mem_parts : Part.guidance ∉ parts snippetsFrom files := by
  intro h
  obtain ⟨r, -, hr⟩ := List.mem_flatMap.1 h
  exact r.guidance_not_mem_parts _ hr

theorem any_isFinding_parts :
    (parts snippetsFrom files).any Part.isFinding = decide (FoundAny files) := by
  rw [Bool.eq_iff_iff, parts, List.any_flatMap, List.any_eq_true, decide_eq_true_iff]
  refine exists_congr fun r => and_congr_right fun _ => ?_
  rw [r.any_isFinding_parts]
  simp [FileReport.isClean]

/-- The parts of files with guidance come file by file. -/
theorem guided_parts_append (a b : List FileReport) :
    Part.guided (parts snippetsFrom (a ++ b)) =
      Part.guided (parts snippetsFrom a) ++
        if FoundAny a then parts snippetsFrom b else Part.guided (parts snippetsFrom b) := by
  rw [parts_append, Part.guided_append, any_isFinding_parts]
  by_cases ha : FoundAny a
  · simp [ha]
  · have hnone : (parts snippetsFrom a).any Part.isFinding = false := by
      rw [any_isFinding_parts, decide_eq_false ha]
    simp [ha, Part.guided_of_not_any hnone]

/-- **The rows of files** are those of their parts. -/
theorem fileRows_eq (sourceOf : Path → Option Text) (guided : Bool) (files : List FileReport) :
    fileRows sourceOf guided files =
      (if guided then Part.guided (files.flatMap fun r => r.parts (sourceOf r.path))
        else files.flatMap fun r => r.parts (sourceOf r.path)).flatMap Part.rows := by
  induction files generalizing guided with
  | nil => cases guided <;> rfl
  | cons r files ih =>
    rw [fileRows, r.rows_eq, ih, List.flatMap_cons]
    cases guided with
    | false => simp
    | true =>
      -- what is found in this file decides whether the next one has guidance
      rw [Part.guided_append, r.any_isFinding_parts]
      cases hclean : r.isClean with
      | false => simp
      | true =>
        have hnone : (r.parts (sourceOf r.path)).any Part.isFinding = false := by
          rw [r.any_isFinding_parts, hclean]
          rfl
        simp [Part.guided_of_not_any hnone]

theorem body_eq (snippetsFrom : Option Workspace) (colour : Bool) (files : List FileReport) :
    body snippetsFrom colour files =
      Part.writeAll colour (Part.guided (parts snippetsFrom files)) := by
  rw [body, fileRows_eq]
  rfl

theorem body_append (a b : List FileReport) : body snippetsFrom colour (a ++ b) =
    body snippetsFrom colour a ++
      if FoundAny a then Part.writeAll colour (parts snippetsFrom b)
      else body snippetsFrom colour b := by
  simp only [body_eq]
  rw [guided_parts_append, Part.writeAll_append]
  split <;> rfl

theorem text_eq_parts (r : Report) (snippetsFrom : Option Workspace) (colour : Bool) :
    r.text snippetsFrom colour =
      Part.writeAll colour (Part.guided (parts snippetsFrom r.files)) ++
        Row.writeAll colour r.summaryRows := by
  rw [← body_eq]
  exact List.flatMap_append

/-- Guidance stands right behind the header and the snippet of the very first finding. -/
theorem guided_parts_of_first {r : FileReport} {f : Finding} {rest : List Finding}
    (hbefore : ¬ FoundAny before) (hr : r.findings = f :: rest) :
    Part.guided (parts snippetsFrom (before ++ r :: after)) =
      parts snippetsFrom before ++ (r.failure.map (Part.skipped r.path)).toList ++
        [.finding r.path (sourceOf snippetsFrom r.path) f, .guidance, .gap] ++
        (rest.flatMap fun g => [.finding r.path (sourceOf snippetsFrom r.path) g, .gap]) ++
        parts snippetsFrom after := by
  have hnone : (parts snippetsFrom before ++
      (r.failure.map (Part.skipped r.path)).toList).any Part.isFinding = false := by
    rw [List.any_append, any_isFinding_parts, decide_eq_false hbefore]
    cases r.failure <;> rfl
  have hsplit : parts snippetsFrom (before ++ r :: after) =
      (parts snippetsFrom before ++ (r.failure.map (Part.skipped r.path)).toList) ++
        (.finding r.path (sourceOf snippetsFrom r.path) f :: .gap ::
          ((rest.flatMap fun g => [.finding r.path (sourceOf snippetsFrom r.path) g, .gap]) ++
            parts snippetsFrom after)) := by
    simp [parts, FileReport.parts, hr]
  rw [hsplit, Part.guided_append, hnone, if_neg Bool.false_ne_true, Part.guided_finding]
  simp

/-- **How the text of a report is made.** Its files stand one below the other, each with its own
parts, and the summary comes last. Guidance is added once if anything was found, right behind the
header and the snippet of the very first finding, and not at all otherwise. So what is said of some
files and then of others is what is said of the former and what is said of the latter, these without
guidance where the former have a finding; and what is said of one file are the parts of that file,
whatever the others are, with guidance if nothing was found before. -/
theorem guidance_said_once (snippetsFrom : Option Workspace) (colour : Bool) :
    (∀ r : Report, r.text snippetsFrom colour =
      Part.writeAll colour (Part.guided (parts snippetsFrom r.files)) ++
        Row.writeAll colour r.summaryRows) ∧
    (∀ files, (Part.guided (parts snippetsFrom files)).filter (· ≠ .guidance) =
      files.flatMap fun r => r.parts (sourceOf snippetsFrom r.path)) ∧
    (∀ files, (Part.guided (parts snippetsFrom files)).count .guidance =
      if FoundAny files then 1 else 0) ∧
    (∀ before r after f rest, ¬ FoundAny before → r.findings = f :: rest →
      Part.guided (parts snippetsFrom (before ++ r :: after)) =
        parts snippetsFrom before ++ (r.failure.map (Part.skipped r.path)).toList ++
          [.finding r.path (sourceOf snippetsFrom r.path) f, .guidance, .gap] ++
          (rest.flatMap fun g => [.finding r.path (sourceOf snippetsFrom r.path) g, .gap]) ++
          parts snippetsFrom after) ∧
    (∀ a b, body snippetsFrom colour (a ++ b) = body snippetsFrom colour a ++
      if FoundAny a then Part.writeAll colour (parts snippetsFrom b)
      else body snippetsFrom colour b) ∧
    ∀ before r after, body snippetsFrom colour (before ++ r :: after) =
      body snippetsFrom colour before ++
        Part.writeAll colour
          (if FoundAny before then r.parts (sourceOf snippetsFrom r.path)
          else Part.guided (r.parts (sourceOf snippetsFrom r.path))) ++
        if FoundAny (before ++ [r]) then Part.writeAll colour (parts snippetsFrom after)
        else body snippetsFrom colour after := by
  refine ⟨fun r => r.text_eq_parts snippetsFrom colour, ?_, ?_, ?_, ?_, ?_⟩
  · intro files
    exact Part.filter_guided guidance_not_mem_parts
  · intro files
    rw [Part.count_guided guidance_not_mem_parts, any_isFinding_parts]
    simp
  · intro before r after f rest hbefore hr
    exact guided_parts_of_first hbefore hr
  · intro a b
    exact body_append a b
  · intro before r after
    have hone : parts snippetsFrom [r] = r.parts (sourceOf snippetsFrom r.path) := by
      simp [parts]
    have hfile : body snippetsFrom colour (before ++ [r]) = body snippetsFrom colour before ++
        Part.writeAll colour
          (if FoundAny before then r.parts (sourceOf snippetsFrom r.path)
          else Part.guided (r.parts (sourceOf snippetsFrom r.path))) := by
      rw [body_append, body_eq snippetsFrom colour [r], hone]
      split <;> rfl
    rw [List.append_cons, body_append, hfile]

/-- A file that was skipped, and one with a finding below. -/
theorem guidance_below_skipped_file :
    let skipped : FileReport := { path := ⟨"a.swift".toList⟩, failure := some "unreadable" }
    let found : Finding := ⟨⟨1, 8⟩, ⟨7, .error, "too many"⟩⟩
    let dirty : FileReport := { path := ⟨"b.swift".toList⟩, findings := [found] }
    ¬ FoundAny [skipped] ∧ dirty.findings = [found] ∧
      Part.guided (parts none ([skipped] ++ dirty :: [])) =
        [.skipped skipped.path "unreadable", .finding dirty.path none found, .guidance, .gap] := by
  intro skipped found dirty
  have hbefore : ¬ FoundAny [skipped] := by decide
  exact ⟨hbefore, rfl,
    (guidance_said_once none false).2.2.2.1 [skipped] dirty [] found [] hbefore rfl⟩

end Report

end SwiftTuples
