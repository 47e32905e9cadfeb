import SwiftTuples.Proofs.Files.Following
import SwiftTuples.Settings.Load
/-!
# Loading from two workspaces

What is loaded depends on what is read, and how files are called shows in what is told alone: steps
that read the same leave the same settings and are stopped alike (`Step.Alike`). From a directory
nothing is read but its two files (`applyDirectory_congr`).
-/

namespace SwiftTuples

namespace Settings

variable {w w' : Workspace} {p q d d' : Path} {s : Settings}

/-- The names that files of settings have in a directory. -/
def IsOwnName (n : Text) : Prop := n = ignoreName ∨ n = fileName

theorem IsOwnName.isName {n : Text} (h : IsOwnName n) : Path.IsName n := by
  rcases h with rfl | rfl <;> decide

namespace Step

/-- The steps leave the same settings, and both are stopped or none. -/
structure Alike (a b : Step) : Prop where
  settings : a.settings = b.settings
  stopped : a.stopped.isSome = b.stopped.isSome

theorem Alike.refl (a : Step) : Alike a a := ⟨rfl, rfl⟩

theorem Alike.andThen {a b : Step} {f g : Settings → Step} (h : Alike a b)
    (hnext : ∀ s, Alike (f s) (g s)) : Alike (a.andThen f) (b.andThen g) := by
  obtain ⟨hsettings, hstopped⟩ := h
  unfold Step.andThen
  cases ha : a.stopped with
  | some e =>
    obtain ⟨e', hb⟩ := Option.isSome_iff_exists.1 (hstopped ▸ Option.isSome_of_eq_some ha)
    simp only [hb]
    exact ⟨hsettings, by rw [ha, hb]; rfl⟩
  | none =>
    have hb : b.stopped = none := by simpa [ha] using hstopped
    simp only [hb, ← hsettings]
    exact ⟨(hnext a.settings).settings, (hnext a.settings).stopped⟩

end Step

/-! ## The same texts under two names -/

theorem applyFile_alike (h : w.read p = w'.read q) (s : Settings) :
    (s.applyFile w p).Alike (s.applyFile w' q) := by
  unfold applyFile
  rw [← h]
  cases w.read p with
  | error cause => exact ⟨rfl, rfl⟩
  | ok source => exact (Step.Alike.refl _).andThen fun s => ⟨rfl, rfl⟩

theorem ignoreFile_alike (h : w.read p = w'.read q) (s : Settings) :
    (s.ignoreFile w p).Alike (s.ignoreFile w' q) := by
  unfold ignoreFile
  rw [← h]
  cases w.read p with
  | error cause => exact ⟨rfl, rfl⟩
  | ok source => exact .refl _

theorem ifFile_alike {f g : Settings → Step} (h : w.isFile p = w'.isFile q)
    (hstep : ∀ s, (f s).Alike (g s)) (s : Settings) :
    (ifFile w p f s).Alike (ifFile w' q g s) := by
  unfold ifFile
  rw [← h]
  split
  · exact hstep s
  · exact .refl _

/-- **Directories that hold the same two files** give the same settings, or stop alike. -/
theorem applyDirectory_alike (h : ∀ n, IsOwnName n →
      w.isFile (d.join n) = w'.isFile (d'.join n) ∧ w.read (d.join n) = w'.read (d'.join n))
    (s : Settings) : (s.applyDirectory w d).Alike (s.applyDirectory w' d') := by
  obtain ⟨hignored, hignoredText⟩ := h _ (.inl rfl)
  obtain ⟨hfile, hfileText⟩ := h _ (.inr rfl)
  exact (ifFile_alike hignored (ignoreFile_alike hignoredText) s).andThen
    (ifFile_alike hfile (applyFile_alike hfileText))

/-! ## The same names in two workspaces -/

theorem applyFile_congr (h : w.read p = w'.read p) : s.applyFile w p = s.applyFile w' p := by
  rw [applyFile, applyFile, h]

theorem ignoreFile_congr (h : w.read p = w'.read p) : s.ignoreFile w p = s.ignoreFile w' p := by
  rw [ignoreFile, ignoreFile, h]

theorem ifFile_congr {f g : Settings → Step} (h : w.isFile p = w'.isFile p)
    (hstep : w.isFile p → ∀ s, f s = g s) : ifFile w p f = ifFile w' p g := by
  funext s
  rw [ifFile, ifFile, ← h]
  split
  · next hfile => exact hstep hfile s
  · rfl

/-- **A directory gives the same settings** where its two files are the same. -/
theorem applyDirectory_congr (h : ∀ n, IsOwnName n →
      w.isFile (d.join n) = w'.isFile (d.join n) ∧
        (w.isFile (d.join n) → w.read (d.join n) = w'.read (d.join n))) :
    s.applyDirectory w d = s.applyDirectory w' d := by
  obtain ⟨hignored, hignoredText⟩ := h _ (.inl rfl)
  obtain ⟨hfile, hfileText⟩ := h _ (.inr rfl)
  rw [applyDirectory, applyDirectory,
    ifFile_congr hignored fun hleads _ => ignoreFile_congr (hignoredText hleads),
    ifFile_congr hfile fun hleads _ => applyFile_congr (hfileText hleads)]

end Settings

end SwiftTuples
