import SwiftTuples.Proofs.Files.Agreement
import SwiftTuples.Proofs.Selection.Candidates
import SwiftTuples.Proofs.Settings.Loading
import SwiftTuples.Run
/-!
# What a run reads

A run reads settings in one place: the file that the command line names, or else one directory
(`settingsDirectory`). Beside these it reads what it has selected, and no file of settings in a
directory has the name of a Swift file.
-/

namespace SwiftTuples

open Workspace

/-- A file of settings is no Swift file. -/
theorem Settings.IsOwnName.not_isSource {n : Text} (h : IsOwnName n) :
    ¬Selection.isSource ⟨n⟩ := by
  rcases h with rfl | rfl <;> decide +kernel

namespace CommandLine

variable {w w' : Workspace} {changed : List Text → Prop}

/-- The directory that settings are read from when no file is named: the first root that is one, or
where the run starts. -/
def settingsDirectory (l : CommandLine) (w : Workspace) : Path :=
  (l.roots.find? w.isDirectory).getD hereOnly

theorem text_settingsDirectory (l : CommandLine) (w : Workspace) :
    (l.settingsDirectory w).text ≠ [] := by
  rw [settingsDirectory]
  cases hfind : l.roots.find? w.isDirectory with
  | none => exact List.cons_ne_nil _ _
  | some root =>
    obtain ⟨place, hroot, -⟩ := isDirectory_iff.1 (List.find?_some hfind)
    exact text_ne_nil_of_locate hroot

/-- **A run loads the same settings** where the named file is read alike, or where the directory
that holds them holds the same ones. -/
theorem loadSettings_congr (l : CommandLine) (h : AgreeOutside changed w w')
    (hnamed : ∀ file, l.settingsFile = some file → w.read file = w'.read file)
    (hown : l.settingsFile = none → ∀ dir, w.locate (l.settingsDirectory w) = .ok dir →
      ∀ n, Settings.IsOwnName n → ¬changed (dir ++ [n])) :
    l.loadSettings w = l.loadSettings w' := by
  unfold loadSettings
  cases hfile : l.settingsFile with
  | some file => exact Settings.applyFile_congr (hnamed file hfile)
  | none =>
    have hbase : l.settingsDirectory w = l.settingsDirectory w' := by
      rw [settingsDirectory, settingsDirectory, funext h.isDirectory]
    have hstep : ({} : Settings).applyDirectory w (l.settingsDirectory w) =
        ({} : Settings).applyDirectory w' (l.settingsDirectory w) := by
      refine Settings.applyDirectory_congr fun n hn => ?_
      -- what its two files are led to by is directly inside it, in either workspace
      have hplain : ∀ place, w.locate ((l.settingsDirectory w).join n) = .ok place ∨
          w'.locate ((l.settingsDirectory w).join n) = .ok place → ¬changed place := by
        rintro place (hplace | hplace)
        · obtain ⟨dir, hdir, -, rfl⟩ :=
            locate_of_join (l.text_settingsDirectory w) hn.isName hplace
          exact hown hfile dir hdir n hn
        · obtain ⟨dir, hdir, hkind, rfl⟩ :=
            locate_of_join (l.text_settingsDirectory w) hn.isName hplace
          exact hown hfile dir ((h.locate (h.symm.directory hkind).1).2 hdir) n hn
      refine ⟨h.isFile hplain, fun hleads => ?_⟩
      obtain ⟨place, hplace, -⟩ := isFile_iff.1 hleads
      refine h.read (hplace.trans ((h.locate (hplain place (.inl hplace))).1 hplace).symm) ?_
      exact fun there hthere => hplain there (.inl hthere)
    exact hstep.trans (congrArg _ hbase)

end CommandLine

/-! ## What a run finds -/

variable {w : Workspace} {p : Path} {s : Settings}

/-- A run is stopped by its settings or not at all. -/
theorem found_eq_error_iff (l : CommandLine) (w : Workspace) (e : SettingsError) :
    (l.run w).found = .error e ↔ (l.loadSettings w).stopped = some e := by
  rw [CommandLine.run]
  cases (l.loadSettings w).stopped <;> simp

theorem found_of_loaded {l : CommandLine} (h : (l.loadSettings w).stopped = none) :
    (l.run w).found = .ok ((Selection.select w l.roots
      (l.settings (l.loadSettings w).settings)).map
        (.ofFile w (l.settings (l.loadSettings w).settings))) := by
  rw [CommandLine.run, h]

/-- What is selected leads to a file. -/
theorem locate_of_mem_select {roots : List Path} (h : w.tree.WellFormed)
    (hp : p ∈ Selection.select w roots s) :
    ∃ place bytes, w.locate p = .ok place ∧ w.tree.kindAt? place = some (.file bytes) := by
  obtain ⟨⟨_, _, _, -, hp, -⟩, -⟩ := (Selection.mem_select h).1 hp
  obtain ⟨place, hplace, bytes, hbytes⟩ := hp.locate h
  exact ⟨place, bytes, hplace, hbytes⟩

end SwiftTuples
