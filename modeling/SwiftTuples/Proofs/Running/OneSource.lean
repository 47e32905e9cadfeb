import SwiftTuples.Proofs.Running.Runs
/-!
# One source of settings

The files of settings lie in the trees that a run walks, but they are no Swift files: beside where
the settings are read from, a run never looks at them, and what can be seen of it is the same
whatever they hold (`CommandLine.Overlooks`). A path to the settings that leads through such a file
does look at it.
-/

namespace SwiftTuples

open Workspace

variable {w w' : Workspace} {changed : List Text → Prop} {l : CommandLine} {p : Path}
  {roots : List Path} {s : Settings}

/-! ## What a run has to tell of its roots -/

/-- A root can be listed when something is there. -/
theorem Selection.isOk_candidates {root : Path} : (candidates w root).isOk ↔
    ∃ place, w.locate root = .ok place ∧ (w.tree.kindAt? place).isSome := by
  have hfind : (candidates w root).isOk ↔ ∃ t, w.find root = .ok t := by
    rw [candidates]
    cases w.find root with
    | error e => simp [Except.isOk, Except.toBool]
    | ok t => cases t <;> simp [Except.isOk, Except.toBool]
  simp only [hfind, find_eq_ok_iff, FileTree.kindAt?, Option.isSome_map, Option.isSome_iff_exists]
  constructor
  · rintro ⟨t, place, hroot, ht⟩
    exact ⟨place, hroot, t, ht⟩
  · rintro ⟨place, hroot, t, ht⟩
    exact ⟨t, place, hroot, ht⟩

/-! ## Rows of files -/

/-- A report shows texts of its own files alone. -/
theorem Report.fileRows_congr {files : List FileReport} {f g : Path → Option Text}
    (h : ∀ r ∈ files, f r.path = g r.path) (guided : Bool) :
    fileRows f guided files = fileRows g guided files := by
  induction files generalizing guided with
  | nil => rfl
  | cons r files ih =>
    obtain ⟨hr, hfiles⟩ := List.forall_mem_cons.1 h
    rw [fileRows, fileRows, hr, ih hfiles]

/-- A report is written alike where its files are read alike. -/
theorem CommandLine.write_congr {r : Report} (h : ∀ f ∈ r.files, w.read f.path = w'.read f.path)
    (l : CommandLine) (colour : Bool) : l.write w colour r = l.write w' colour r := by
  unfold write
  split
  · rw [Report.text, Report.text, Report.rows, Report.rows, Report.fileRows_congr]
    exact fun f hf => congrArg Except.toOption (h f hf)
  · rfl

namespace Workspace.AgreeOutside

variable (h : AgreeOutside changed w w')
include h

theorem isOk_candidates {root : Path}
    (hroot : ∀ place, w.locate root = .ok place ∨ w'.locate root = .ok place → ¬changed place) :
    (Selection.candidates w root).isOk = (Selection.candidates w' root).isOk := by
  rw [Bool.eq_iff_iff, Selection.isOk_candidates, Selection.isOk_candidates]
  refine exists_congr fun place => ⟨fun ⟨hplace, hsome⟩ => ?_, fun ⟨hplace, hsome⟩ => ?_⟩
  · have hplain := hroot place (.inl hplace)
    exact ⟨(h.locate hplain).1 hplace, h.kind place hplain ▸ hsome⟩
  · have hplain := hroot place (.inr hplace)
    exact ⟨(h.locate hplain).2 hplace, h.kind place hplain ▸ hsome⟩

variable (hroots : ∀ root ∈ roots, ∀ place,
  w.locate root = .ok place ∨ w'.locate root = .ok place → ¬changed place)
include hroots

theorem notices_eq (s : Settings) : Selection.notices w roots s = Selection.notices w' roots s := by
  unfold Selection.notices
  split
  · refine List.filterMap_congr fun root hmem => ?_
    have hok := h.isOk_candidates (hroots root hmem)
    cases hw : Selection.candidates w root <;> cases hw' : Selection.candidates w' root <;>
      simp_all [Except.isOk, Except.toBool]
  · rfl

variable (hnames : ∀ dir n, changed (dir ++ [n]) → Settings.IsOwnName n)
include hnames

theorem select_eq (hw : w.tree.WellFormed) (hw' : w'.tree.WellFormed) (s : Settings) :
    Selection.select w roots s = Selection.select w' roots s := by
  refine Selection.select_congr hw hw' (fun root hmem place => ?_) fun dir n hn =>
    h.hasFile fun hchanged => (hnames dir n hchanged).not_isSource hn
  exact ⟨fun hplace => (h.locate (hroots root hmem place (.inl hplace))).1 hplace,
    fun hplace => (h.locate (hroots root hmem place (.inr hplace))).2 hplace⟩

omit hroots in
/-- What is selected is read alike. -/
theorem read_of_mem_select (hw : w.tree.WellFormed) (hp : p ∈ Selection.select w roots s) :
    w.read p = w'.read p := by
  obtain ⟨⟨_, _, _, -, hcandidate, -⟩, hsource, -⟩ := (Selection.mem_select hw).1 hp
  obtain ⟨place, hplace, hfile⟩ := hcandidate.locate hw
  obtain ⟨dir, n, rfl, hn⟩ := Selection.isSource_of_hasFile hw hplace hfile
  have hplain : ¬changed (dir ++ [n]) := fun hchanged =>
    (hnames dir n hchanged).not_isSource (hn.symm.trans hsource)
  refine h.read (hplace.trans ((h.locate hplain).1 hplace).symm) fun there hthere => ?_
  exact Except.ok.inj (hplace.symm.trans hthere) ▸ hplain

end Workspace.AgreeOutside

/-! ## Outcomes -/

namespace CommandLine

variable (h : AgreeOutside changed w w') (hw : w.tree.WellFormed) (hw' : w'.tree.WellFormed)
  (hroots : ∀ root ∈ l.roots, ∀ place,
    w.locate root = .ok place ∨ w'.locate root = .ok place → ¬changed place)
  (hnames : ∀ dir n, changed (dir ++ [n]) → Settings.IsOwnName n)
  (hloaded : l.loadSettings w = l.loadSettings w')
include h hw hw' hroots hnames hloaded

theorem run_eq : l.run w = l.run w' := by
  cases hstopped : (l.loadSettings w).stopped with
  | some e => rw [run, run, ← hloaded, hstopped]
  | none =>
    have hfiles : (Selection.select w l.roots (l.settings (l.loadSettings w).settings)).map
          (FileReport.ofFile w (l.settings (l.loadSettings w).settings)) =
        (Selection.select w l.roots (l.settings (l.loadSettings w).settings)).map
          (FileReport.ofFile w' (l.settings (l.loadSettings w).settings)) :=
      List.map_congr_left fun p hp => by
        rw [FileReport.ofFile, FileReport.ofFile, h.read_of_mem_select hnames hw hp]
    rw [run, run, ← hloaded, hstopped]
    simp only [← h.select_eq hroots hnames hw hw', ← h.notices_eq hroots, hfiles]

/-- **The outcome is the same** where the settings are, and no root leads to a change. -/
theorem outcome_eq (colour : Bool) (milliseconds : Nat) :
    l.outcome w colour milliseconds = l.outcome w' colour milliseconds := by
  rw [outcome, outcome, ← run_eq h hw hw' hroots hnames hloaded, conclude, conclude]
  cases hstopped : (l.loadSettings w).stopped with
  | some e => rw [(found_eq_error_iff l w e).2 hstopped]
  | none =>
    rw [found_of_loaded hstopped]
    simp only [Outcome.mk.injEq, true_and, and_true]
    refine write_congr (fun r hr => ?_) l colour
    obtain ⟨p, hp, rfl⟩ := List.mem_map.1 hr
    rw [FileReport.path_ofFile]
    exact h.read_of_mem_select hnames hw hp

end CommandLine

/-! ## What a run overlooks -/

/-- A place that a run of the command line has no use for: no directory is there, its name is one
of the two that files of settings have in a directory, no root leads there, and the settings are
not read by a path that leads there or on from there, nor from the directory that holds it. -/
structure CommandLine.Overlooks (l : CommandLine) (w : Workspace) (names : List Text) : Prop where
  ownName : ∃ dir n, names = dir ++ [n] ∧ Settings.IsOwnName n
  noDirectory : w.tree.kindAt? names ≠ some .directory
  noRoot : ∀ root ∈ l.roots, w.locate root ≠ .ok names
  notNamed : ∀ file, l.settingsFile = some file → ¬w.Passes file names
  notOwn : l.settingsFile = none →
    ∀ dir n, names = dir ++ [n] → w.locate (l.settingsDirectory w) ≠ .ok dir

/-- The workspaces are the same but for places that a run overlooks in both. -/
def CommandLine.SameBut (l : CommandLine) (w w' : Workspace) : Prop :=
  w.here = w'.here ∧ ∀ names, w.tree.kindAt? names ≠ w'.tree.kindAt? names →
    l.Overlooks w names ∧ l.Overlooks w' names

/-- A Swift file beside a directory that holds what is given. -/
def besideDirectory (entries : List (Text × FileTree)) : Workspace :=
  ⟨.directory [("a.swift".toList, .file "".toUTF8), ("sub".toList, .directory entries)], []⟩

theorem wellFormed_besideDirectory {entries : List (Text × FileTree)}
    (h : (FileTree.directory entries).WellFormed) : (besideDirectory entries).tree.WellFormed := by
  have hnames : ["a.swift".toList, "sub".toList].Nodup := by decide
  refine .directory ?_ hnames ?_
  · simp only [List.forall_mem_cons]
    exact ⟨by decide, by decide, by simp⟩
  · simp only [List.forall_mem_cons]
    exact ⟨.file _, h, by simp⟩

/-- What the directory holds shows below it alone. -/
theorem exists_of_besideDirectory {entries entries' : List (Text × FileTree)} {names : List Text}
    (h : (besideDirectory entries).tree.kindAt? names ≠
      (besideDirectory entries').tree.kindAt? names) :
    ∃ more, names = "sub".toList :: more ∧
      (FileTree.directory entries).kindAt? more ≠ (FileTree.directory entries').kindAt? more := by
  cases names with
  | nil => exact absurd rfl h
  | cons n more =>
    simp only [besideDirectory, FileTree.kindAt?_directory_cons] at h
    split at h
    · exact absurd rfl h
    · split at h
      · next hn => exact ⟨more, hn ▸ rfl, h⟩
      · exact absurd rfl h

/-- A Swift file beside what is given. -/
def besideSource (entries : List (Text × FileTree)) : Workspace :=
  ⟨.directory (("a.swift".toList, .file "".toUTF8) :: entries), []⟩

/-- The run for a Swift file with settings that would be below a file. -/
def namedBelowFile : CommandLine :=
  { paths := [⟨"a.swift".toList⟩], settingsFile := some ⟨"tuplelint.toml/x".toList⟩ }

end SwiftTuples
