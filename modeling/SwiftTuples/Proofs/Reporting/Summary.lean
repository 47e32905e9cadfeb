import Mathlib
import SwiftTuples.Report.Text
/-!
# The summary and the exit code

A report is counted in several ways: findings by severity, files with and without findings, files
that could not be analyzed. The counts agree, so what the summary says and how the run ends agree
as well (`summary_agrees`): the summary says OK exactly where a strict run succeeds.
-/

namespace SwiftTuples

/-- The row begins with the word. -/
def Row.Says (row : Row) (word : String) : Prop := row.head?.map (·.text) = some word.toList

instance (row : Row) (word : String) : Decidable (row.Says word) :=
  inferInstanceAs (Decidable (_ = _))

namespace FileReport

/-- Every finding is a warning or an error. -/
theorem count_error_add_count_warning (r : FileReport) :
    r.count .error + r.count .warning = r.findings.length := by
  unfold count
  rw [List.length_eq_countP_add_countP fun f : Finding => f.violation.severity = .error]
  congr 2
  funext f
  cases f.violation.severity <;> rfl

end FileReport

namespace Report

variable (r : Report)

/-- Files in which something was found. -/
def dirtyFiles : Nat := r.files.countP (·.findings ≠ [])

/-- The numbers of errors and of warnings that are not zero. -/
def countedSeverities : List (Nat × String) :=
  [(r.count .error, "error"), (r.count .warning, "warning")].filter (·.1 ≠ 0)

/-- How long the run took, as the end of a summary. -/
def elapsed : String := " (" ++ durationText (shownMilliseconds r.milliseconds) ++ ")."

/-- The row that says how many files could not be analyzed. -/
def noteRow : Row :=
  [⟨.boldYellow, "NOTE".toList⟩,
    .bare (" " ++ counted r.failures "file" ++ " could not be analyzed.")]

/-- The row that says that nothing was found. -/
def okRow : Row :=
  [⟨.boldGreen, "OK".toList⟩,
    .bare (" No large tuples in " ++ counted r.files.length "file" ++ r.elapsed)]

/-- The row that says how much was found, and in how many of the files. -/
def foundRow : Row :=
  [⟨.boldRed, "FOUND".toList⟩,
    .bare (" " ++ ", ".intercalate (r.countedSeverities.map fun c => counted c.1 c.2) ++ " in " ++
      toString r.dirtyFiles ++ " of " ++ counted r.files.length "file" ++ r.elapsed)]

/-! ## Counts -/

/-- Findings of a severity are counted file by file. -/
theorem count_eq_sum (severity : Severity) :
    r.count severity = (r.files.map (·.count severity)).sum := by
  rw [count, List.countP_flatMap]
  rfl

theorem count_error_add_count_warning :
    r.count .error + r.count .warning = (r.files.map (·.findings.length)).sum := by
  rw [count_eq_sum, count_eq_sum, ← List.sum_map_add]
  simp only [FileReport.count_error_add_count_warning]

theorem dirtyFiles_add_cleanFiles : r.dirtyFiles + r.cleanFiles = r.files.length := by
  rw [dirtyFiles, cleanFiles, List.length_eq_countP_add_countP]
  congr 2
  funext f
  cases hfindings : f.findings <;> simp [FileReport.isClean, hfindings]

/-- Something was found in a file exactly when something was found at all. -/
theorem dirtyFiles_pos_iff : 0 < r.dirtyFiles ↔ 0 < r.count .error + r.count .warning := by
  rw [count_error_add_count_warning, dirtyFiles, List.countP_pos_iff, Nat.pos_iff_ne_zero, ne_eq,
    List.sum_eq_zero_iff_forall_eq_nat]
  simp

/-! ## The exit code -/

theorem exitCode_eq_success_iff (strict : Bool) : r.exitCode strict = .success ↔
    r.count .error = 0 ∧ (strict → r.count .warning = 0) := by
  unfold exitCode hasErrors
  cases strict <;> simp [Nat.pos_iff_ne_zero]

theorem exitCode_eq_violationsFound_iff (strict : Bool) :
    r.exitCode strict = .violationsFound ↔ r.exitCode strict ≠ .success := by
  unfold exitCode
  split <;> simp

/-- A strict run ends otherwise where warnings are all there is. -/
theorem exitCode_ne_iff :
    r.exitCode false ≠ r.exitCode true ↔ 0 < r.count .warning ∧ r.count .error = 0 := by
  unfold exitCode hasErrors
  by_cases herror : r.count .error = 0 <;> by_cases hwarning : r.count .warning = 0 <;>
    simp [herror, hwarning, Nat.pos_iff_ne_zero]

/-! ## The summary -/

theorem totals_eq : r.totals = r.countedSeverities.map fun c => counted c.1 c.2 := by
  unfold totals countedSeverities
  by_cases herror : r.count .error = 0 <;> by_cases hwarning : r.count .warning = 0 <;>
    simp [herror, hwarning, Severity.text]

theorem totals_isEmpty : r.totals.isEmpty ↔ r.exitCode true = .success := by
  rw [totals_eq, exitCode_eq_success_iff, List.isEmpty_iff, List.map_eq_nil_iff, countedSeverities,
    List.filter_eq_nil_iff]
  simp

/-- **The summary** has a note where a file could not be analyzed, and a verdict that is as the
exit code of a strict run. -/
theorem summaryRows_eq : r.summaryRows =
    (if r.failures = 0 then [] else [r.noteRow]) ++
      [if r.exitCode true = .success then r.okRow else r.foundRow] := by
  have hdirty : r.files.length - r.cleanFiles = r.dirtyFiles := by
    have := r.dirtyFiles_add_cleanFiles
    omega
  have hverdict := r.totals_isEmpty
  rw [totals_eq] at hverdict
  unfold summaryRows okRow foundRow noteRow elapsed
  simp only [totals_eq, hverdict, hdirty]

theorem failures_eq_zero_iff : r.failures = 0 ↔ ¬ ∃ f ∈ r.files, f.failure.isSome := by
  rw [failures, List.countP_eq_zero]
  simp

theorem countedSeverities_ne_nil_iff : r.countedSeverities ≠ [] ↔ r.exitCode true ≠ .success := by
  rw [ne_eq, ne_eq, ← totals_isEmpty, totals_eq, List.isEmpty_iff, List.map_eq_nil_iff]

/-- The text of a report: its files, the note, the verdict. -/
theorem text_eq (snippetsFrom : Option Workspace) (colour : Bool) :
    r.text snippetsFrom colour =
      Row.writeAll colour
        (fileRows (fun p => snippetsFrom.bind fun w => (w.read p).toOption) true r.files ++
          (if ∃ f ∈ r.files, f.failure.isSome then [r.noteRow] else [])) ++
        Row.write colour (if r.exitCode true = .success then r.okRow else r.foundRow) := by
  have hnote : (if r.failures = 0 then [] else [r.noteRow]) =
      if ∃ f ∈ r.files, f.failure.isSome then [r.noteRow] else [] := by
    simp only [failures_eq_zero_iff, ite_not]
  rw [text, rows, summaryRows_eq, hnote, ← List.append_assoc]
  simp [Row.writeAll]

theorem says_okRow : r.okRow.Says "OK" := rfl

theorem says_foundRow : r.foundRow.Says "FOUND" := rfl

/-- A verdict says one thing. -/
theorem says_verdict_iff : let verdict := if r.exitCode true = .success then r.okRow else r.foundRow
    (verdict.Says "OK" ↔ r.exitCode true = .success) ∧
      (verdict.Says "FOUND" ↔ r.exitCode true = .violationsFound) := by
  have hne : "OK".toList ≠ "FOUND".toList := by decide
  rw [exitCode_eq_violationsFound_iff]
  dsimp only
  split
  · next h => exact ⟨iff_of_true r.says_okRow h, iff_of_false
      (fun hsays => hne (Option.some.inj hsays)) fun hnot => hnot h⟩
  · next h => exact ⟨iff_of_false (fun hsays => hne (Option.some.inj hsays).symm) h,
      iff_of_true r.says_foundRow h⟩

/-- What was found decides the exit code; which files could not be analyzed does not. -/
theorem exitCode_congr {r r' : Report}
    (h : r'.files.map (·.findings) = r.files.map (·.findings)) (strict : Bool) :
    r'.exitCode strict = r.exitCode strict := by
  have hcount : ∀ severity, r'.count severity = r.count severity := by
    intro severity
    rw [count, count, List.flatMap_def, List.flatMap_def, h]
  rw [exitCode, exitCode, hasErrors, hasErrors, hcount, hcount]

/-- **Counts, summary and exit code agree.** Errors and warnings are all the findings. The files
less the clean ones are those in which something was found. The text of a report ends in a verdict,
OK where a strict run succeeds and else what was found, in how many files; above it stands a note
where a file could not be analyzed, which has no say in the exit code. Asking for a strict run
makes a difference exactly where there are warnings and no errors. -/
theorem summary_agrees (snippetsFrom : Option Workspace) (colour : Bool) :
    r.count .error + r.count .warning = (r.files.map (·.findings.length)).sum ∧
    (∀ files milliseconds, r = ofFiles files milliseconds →
      r.totalViolations = r.count .error + r.count .warning) ∧
    r.cleanFiles ≤ r.files.length ∧ r.files.length - r.cleanFiles = r.dirtyFiles ∧
    (∃ verdict : Row, r.text snippetsFrom colour =
        Row.writeAll colour
          (fileRows (fun p => snippetsFrom.bind fun w => (w.read p).toOption) true r.files ++
            (if ∃ f ∈ r.files, f.failure.isSome then [r.noteRow] else [])) ++
          verdict.write colour ∧
      (verdict.Says "OK" ↔ r.exitCode true = .success) ∧
      (r.exitCode true = .success → verdict = r.okRow) ∧
      (verdict.Says "FOUND" ↔ r.exitCode true = .violationsFound) ∧
      (r.exitCode true = .violationsFound →
        verdict = r.foundRow ∧ r.countedSeverities ≠ [] ∧ 0 < r.dirtyFiles)) ∧
    (r.exitCode false = .violationsFound ↔ r.hasErrors) ∧
    (r.exitCode false = .violationsFound → r.exitCode true = .violationsFound) ∧
    (r.exitCode false ≠ r.exitCode true ↔ 0 < r.count .warning ∧ r.count .error = 0) ∧
    (∀ r' : Report, r'.files.map (·.findings) = r.files.map (·.findings) →
      ∀ strict, r'.exitCode strict = r.exitCode strict) := by
  have hfiles := r.dirtyFiles_add_cleanFiles
  refine ⟨r.count_error_add_count_warning, ?_, by omega, by omega, ?_, ?_, ?_, ?_,
    fun r' h => exitCode_congr h⟩
  · rintro files milliseconds rfl
    rw [count_error_add_count_warning, ofFiles, List.length_flatMap]
  · obtain ⟨hok, hfound⟩ := r.says_verdict_iff
    refine ⟨_, r.text_eq snippetsFrom colour, hok, fun h => if_pos h, hfound, fun h => ?_⟩
    rw [exitCode_eq_violationsFound_iff] at h
    refine ⟨if_neg h, r.countedSeverities_ne_nil_iff.2 h, r.dirtyFiles_pos_iff.2 ?_⟩
    rw [ne_eq, exitCode_eq_success_iff] at h
    simp only [forall_const] at h
    omega
  · rw [exitCode_eq_violationsFound_iff, ne_eq, exitCode_eq_success_iff]
    simp [hasErrors, Nat.pos_iff_ne_zero]
  · simp only [exitCode_eq_violationsFound_iff, ne_eq, exitCode_eq_success_iff, not_imp_not]
    exact fun h => ⟨h.1, fun hstrict => by cases hstrict⟩
  · exact r.exitCode_ne_iff

end Report

end SwiftTuples
