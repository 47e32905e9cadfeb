import SwiftTuples.Proofs.Running.Runs
/-!
# Files do not disturb one another

Each file of a run is reported on by itself: its report is made of its bytes, its path and the
settings (`FileReport.ofBytes`). So when the bytes of one Swift file change, that report alone
changes, unless the file is the one that settings are read from.
-/

namespace SwiftTuples

open Workspace

/-- The report of what a file holds. -/
def FileReport.ofBytes (s : Settings) (path : Path) (bytes : ByteArray) : FileReport :=
  match String.fromUTF8? bytes with
  | some text => ofSource s path text.toList
  | none => { path, failure := some (FileError.notText.about path) }

/-- The number of findings in the reports of the file at a place. -/
def ownFindings (w : Workspace) (place : List Text) (files : List FileReport) : Nat :=
  ((files.filter fun r => w.locate r.path = .ok place).flatMap (·.findings)).length

/-- The workspaces are the same but for what the file at a place holds. -/
structure Workspace.AlteredAt (place : List Text) (w w' : Workspace) : Prop where
  here : w.here = w'.here
  kind : ∀ names, names ≠ place → w.tree.kindAt? names = w'.tree.kindAt? names
  hasFile : w.tree.HasFile place
  hasFile' : w'.tree.HasFile place

variable {w w' : Workspace} {place : List Text} {p : Path} {s : Settings}

namespace Workspace.AlteredAt

variable (h : AlteredAt place w w')
include h

theorem agreeOutside : AgreeOutside (· = place) w w' := by
  refine ⟨h.here, h.kind, ?_⟩
  rintro _ rfl
  obtain ⟨bytes, hbytes⟩ := h.hasFile
  obtain ⟨bytes', hbytes'⟩ := h.hasFile'
  simp [hbytes, hbytes']

theorem hasFile_iff (names : List Text) : w.tree.HasFile names ↔ w'.tree.HasFile names := by
  by_cases hnames : names = place
  · subst hnames
    exact iff_of_true h.hasFile h.hasFile'
  · exact h.agreeOutside.hasFile hnames

/-- Every path leads to the same place, or fails alike. -/
theorem locate (p : Path) : w.locate p = w'.locate p := by
  refine locate_congr h.here fun names _ => ?_
  by_cases hnames : names = place
  · subst hnames
    obtain ⟨bytes, hbytes⟩ := h.hasFile
    obtain ⟨bytes', hbytes'⟩ := h.hasFile'
    rw [FileTree.shapeAt?, FileTree.shapeAt?, hbytes, hbytes']
    rfl
  · rw [FileTree.shapeAt?, FileTree.shapeAt?, h.kind names hnames]

theorem read (hp : w.locate p ≠ .ok place) : w.read p = w'.read p :=
  h.agreeOutside.read (h.locate p) fun _ hthere heq => hp (heq ▸ hthere)

theorem ofFile (hp : w.locate p ≠ .ok place) : FileReport.ofFile w s p = .ofFile w' s p := by
  rw [FileReport.ofFile, FileReport.ofFile, h.read hp]

end Workspace.AlteredAt

/-! ## Reports of files -/

namespace FileReport

/-- A file is reported on by itself. -/
theorem ofFile_eq_ofBytes {bytes : ByteArray} (hp : w.locate p = .ok place)
    (hbytes : w.tree.kindAt? place = some (.file bytes)) : ofFile w s p = ofBytes s p bytes := by
  have hread : w.read p = textOf (some (.file bytes)) := by
    rw [read_eq, hp, ← hbytes]
    rfl
  rw [ofFile, ofBytes, hread, textOf]
  cases String.fromUTF8? bytes with
  | some text => rfl
  | none => rfl

theorem ofBytes_of_notText {bytes : ByteArray} (h : String.fromUTF8? bytes = none) :
    ofBytes s p bytes = { path := p, failure := some (FileError.notText.about p) } := by
  rw [ofBytes, h]

theorem ofBytes_of_parse_eq_error {bytes : ByteArray} {text : String} {e : SyntaxError}
    (h : String.fromUTF8? bytes = some text) (hignored : Text.isIgnored text.toList = false)
    (hparse : SourceFile.parse text.toList = .error e) :
    ofBytes s p bytes = { path := p, failure := some e.message } := by
  simp [ofBytes, h, ofSource, hignored, hparse]

end FileReport

/-! ## Totals -/

/-- Reports that differ for one file have totals that differ by its findings. -/
theorem totals_differ {files files' : List FileReport} (milliseconds : Nat)
    (h : files.Forall₂ (fun r r' => r.path = r'.path ∧ (w.locate r.path ≠ .ok place → r = r'))
      files') :
    ∃ others, (Report.ofFiles files milliseconds).totalViolations =
        others + ownFindings w place files ∧
      (Report.ofFiles files' milliseconds).totalViolations =
        others + ownFindings w place files' := by
  simp only [Report.ofFiles]
  induction h with
  | nil => exact ⟨0, rfl, rfl⟩
  | @cons r r' files files' hr _ ih =>
    obtain ⟨others, hfiles, hfiles'⟩ := ih
    obtain ⟨hpath, hsame⟩ := hr
    simp only [List.flatMap_cons, List.length_append, hfiles, hfiles', ownFindings,
      List.filter_cons, ← hpath]
    -- a report counts as the file's own on both sides, or it is the same on both
    by_cases hown : w.locate r.path = .ok place
    · refine ⟨others, ?_, ?_⟩ <;> simp [hown] <;> omega
    · rw [← hsame hown]
      refine ⟨r.findings.length + others, ?_, ?_⟩ <;> simp [hown] <;> omega

/-! ## Runs -/

/-- What a Swift file holds does not decide who is selected. -/
theorem Workspace.AlteredAt.select_eq (h : AlteredAt place w w') (hw : w.tree.WellFormed)
    (hw' : w'.tree.WellFormed) (roots : List Path) (s : Settings) :
    Selection.select w roots s = Selection.select w' roots s :=
  Selection.select_congr hw hw' (fun root _ place => by rw [h.locate root]) fun dir n _ =>
    h.hasFile_iff (dir ++ [n])

/-- Nor what is loaded, unless settings are read from it. -/
theorem Workspace.AlteredAt.loadSettings_eq {dir : List Text} {n : Text} {l : CommandLine}
    (h : AlteredAt (dir ++ [n]) w w') (hn : Selection.isSource ⟨n⟩)
    (hnamed : ∀ file, l.settingsFile = some file → w.locate file ≠ .ok (dir ++ [n])) :
    l.loadSettings w = l.loadSettings w' := by
  refine l.loadSettings_congr h.agreeOutside (fun file hfile => h.read (hnamed file hfile)) ?_
  intro _ _ _ m hm heq
  obtain ⟨-, hnames⟩ := List.append_inj' heq rfl
  rw [List.cons.injEq] at hnames
  exact hm.not_isSource (hnames.1 ▸ hn)

/-- The reports are those of the same paths, and the same ones but for the file. -/
theorem Workspace.AlteredAt.reports_alike {l : CommandLine} {files files' : List FileReport}
    (h : AlteredAt place w w') (hw : w.tree.WellFormed) (hw' : w'.tree.WellFormed)
    (hloaded : l.loadSettings w = l.loadSettings w') (hfiles : (l.run w).found = .ok files)
    (hfiles' : (l.run w').found = .ok files') :
    files.Forall₂ (fun r r' => r.path = r'.path ∧ (w.locate r.path ≠ .ok place → r = r'))
      files' := by
  cases hstopped : (l.loadSettings w).stopped with
  | some e =>
    rw [(found_eq_error_iff l w e).2 hstopped] at hfiles
    cases hfiles
  | none =>
    rw [found_of_loaded hstopped, Except.ok.injEq] at hfiles
    rw [found_of_loaded (hloaded ▸ hstopped), ← hloaded, ← h.select_eq hw hw',
      Except.ok.injEq] at hfiles'
    subst hfiles hfiles'
    rw [List.forall₂_map_left_iff, List.forall₂_map_right_iff, List.forall₂_same]
    refine fun p _ => ⟨by simp, fun hp => h.ofFile ?_⟩
    rwa [FileReport.path_ofFile] at hp

/-- A directory with two Swift files, the second of which may name what to leave out. -/
def twoSources (first second : String) : Workspace :=
  ⟨.directory [("a.swift".toList, .file first.toUTF8), ("b.swift".toList, .file second.toUTF8)], []⟩

theorem wellFormed_twoSources (first second : String) :
    (twoSources first second).tree.WellFormed := by
  have hnames : ["a.swift".toList, "b.swift".toList].Nodup := by decide
  refine .directory ?_ hnames ?_
  · simp only [List.forall_mem_cons]
    exact ⟨by decide, by decide, by simp⟩
  · simp only [List.forall_mem_cons]
    exact ⟨.file _, .file _, by simp⟩

theorem alteredAt_twoSources (first second second' : String) :
    AlteredAt ["b.swift".toList] (twoSources first second) (twoSources first second') := by
  refine ⟨rfl, fun names hnames => ?_, ⟨_, rfl⟩, ⟨_, rfl⟩⟩
  cases names with
  | nil => rfl
  | cons n more =>
    simp only [twoSources, FileTree.kindAt?_directory_cons]
    split
    · rfl
    · split
      · next hn =>
        cases more with
        | nil => exact absurd (congrArg (· :: []) hn) hnames
        | cons => rw [FileTree.kindAt?_file_cons, FileTree.kindAt?_file_cons]
      · rfl

/-- The run for the first of two files, with the second named for settings. -/
def namedSource : CommandLine :=
  { paths := [⟨"a.swift".toList⟩], settingsFile := some ⟨"b.swift".toList⟩ }

end SwiftTuples
