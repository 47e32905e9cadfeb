import SwiftTuples.Proofs.Files.Following
/-!
# Two workspaces

What a path leads to when only some places of a tree change. Following a path asks no more of the
places that it passes than whether a directory stands there, or something else, or nothing
(`locate_congr`). And where no directory is changed, a path that leads to an unchanged place leads
there still (`AgreeOutside.locate`), whatever was added to or taken from the directories around.
-/

namespace SwiftTuples

namespace FileTree

/-- Whether a directory stands at a place, or something else, or nothing. -/
def shapeAt? (t : FileTree) (names : List Text) : Option Bool :=
  (t.kindAt? names).map Kind.isDirectory

theorem shapeAt?_eq_some_true {t : FileTree} {names : List Text} :
    t.shapeAt? names = some true ↔ t.kindAt? names = some .directory := by
  simp [shapeAt?]

theorem isSome_kindAt?_of_shapeAt? {t t' : FileTree} {names : List Text}
    (h : t.shapeAt? names = t'.shapeAt? names) :
    (t.kindAt? names).isSome = (t'.kindAt? names).isSome := by
  simpa [shapeAt?] using congrArg Option.isSome h

end FileTree

namespace Workspace

variable {w w' : Workspace} {p : Path} {place goal pieces : List Text} {piece : Text}

/-- The path leads past a place, or to it. -/
def Passes (w : Workspace) (p : Path) (place : List Text) : Prop :=
  ∃ front rest, p.pieces = front ++ rest ∧ w.follow (w.start p) front = .ok place

theorem passes_of_locate (h : w.locate p = .ok place) : w.Passes p place :=
  ⟨p.pieces, [], (List.append_nil _).symm, locate_eq (text_ne_nil_of_locate h) ▸ h⟩

/-! ## The same shapes -/

theorem stepFrom_congr (hplace : w.tree.shapeAt? place = w'.tree.shapeAt? place)
    (hnext : ∀ next, w.stepFrom place piece = .ok next ∨ w'.stepFrom place piece = .ok next →
      w.tree.shapeAt? next = w'.tree.shapeAt? next) :
    w.stepFrom place piece = w'.stepFrom place piece := by
  have hname : ∀ n, w.tree.kindAt? place = some .directory →
      w'.tree.kindAt? place = some .directory → Path.Step.ofPiece? piece = some (.name n) →
      (w.tree.kindAt? (place ++ [n])).isSome = (w'.tree.kindAt? (place ++ [n])).isSome := by
    intro n hdirectory hdirectory' hpiece
    refine Bool.eq_iff_iff.2 ⟨fun hsome => ?_, fun hsome => ?_⟩
    · rwa [← FileTree.isSome_kindAt?_of_shapeAt? (hnext _ (.inl ?_))]
      simp [Workspace.stepFrom, hdirectory, hpiece, hsome]
    · rwa [FileTree.isSome_kindAt?_of_shapeAt? (hnext _ (.inr ?_))]
      simp [Workspace.stepFrom, hdirectory', hpiece, hsome]
  cases hkind : w.tree.kindAt? place with
  | none =>
    have hkind' : w'.tree.kindAt? place = none := by
      rw [FileTree.shapeAt?, hkind] at hplace
      exact Option.map_eq_none_iff.1 hplace.symm
    simp [Workspace.stepFrom, hkind, hkind']
  | some kind =>
    cases kind with
    | directory =>
      have hkind' : w'.tree.kindAt? place = some .directory :=
        FileTree.shapeAt?_eq_some_true.1 (hplace ▸ FileTree.shapeAt?_eq_some_true.2 hkind)
      unfold Workspace.stepFrom
      rw [hkind, hkind']
      cases hpiece : Path.Step.ofPiece? piece with
      | none => rfl
      | some step =>
        cases step with
        | root | here | up => rfl
        | name n => simp only [hname n hkind hkind' hpiece]
    | file bytes =>
      obtain ⟨bytes', hkind'⟩ : ∃ bytes', w'.tree.kindAt? place = some (.file bytes') := by
        simp only [FileTree.shapeAt?, hkind] at hplace
        rcases hkind' : w'.tree.kindAt? place with _ | bytes' | _
        · simp [hkind'] at hplace
        · exact ⟨bytes', rfl⟩
        · simp [hkind', FileTree.Kind.isDirectory] at hplace
      simp [Workspace.stepFrom, hkind, hkind']

/-- Following pieces is decided by the shapes of the places that they pass. -/
theorem follow_congr (h : ∀ front rest goal, pieces = front ++ rest →
      w.follow place front = .ok goal ∨ w'.follow place front = .ok goal →
      w.tree.shapeAt? goal = w'.tree.shapeAt? goal) :
    w.follow place pieces = w'.follow place pieces := by
  induction pieces generalizing place with
  | nil => rfl
  | cons piece rest ih =>
    -- the place itself is passed, by no piece at all
    have hplace := h [] (piece :: rest) place rfl (.inl rfl)
    have hstep : w.stepFrom place piece = w'.stepFrom place piece :=
      stepFrom_congr hplace fun next hnext =>
        h [piece] rest next rfl (by rwa [follow_singleton, follow_singleton])
    rw [follow_cons, follow_cons, ← hstep]
    cases hnext : w.stepFrom place piece with
    | error e => rfl
    | ok next =>
      refine ih fun front more goal hsplit hgoal =>
        h (piece :: front) more goal (by simp [hsplit]) ?_
      rw [follow_cons, follow_cons, ← hstep, hnext]
      exact hgoal

/-- **A path leads to the same place, or fails alike,** where the places that it passes have the
same shapes. -/
theorem locate_congr (hhere : w.here = w'.here) (h : ∀ place, w.Passes p place ∨ w'.Passes p place →
    w.tree.shapeAt? place = w'.tree.shapeAt? place) : w.locate p = w'.locate p := by
  by_cases htext : p.text = []
  · simp [locate, htext]
  · have hstart : w'.start p = w.start p := by rw [start, start, hhere]
    rw [locate_eq htext, locate_eq htext, hstart]
    refine follow_congr fun front rest goal hsplit hgoal => h goal ?_
    exact hgoal.imp (⟨front, rest, hsplit, ·⟩) (⟨front, rest, hsplit, hstart ▸ ·⟩)

/-! ## Changes that touch no directory -/

/-- The workspaces are the same but for places where no directory stands. -/
structure AgreeOutside (changed : List Text → Prop) (w w' : Workspace) : Prop where
  here : w.here = w'.here
  kind : ∀ names, ¬changed names → w.tree.kindAt? names = w'.tree.kindAt? names
  noDirectory : ∀ names, changed names →
    w.tree.kindAt? names ≠ some .directory ∧ w'.tree.kindAt? names ≠ some .directory

namespace AgreeOutside

variable {changed : List Text → Prop}

theorem symm (h : AgreeOutside changed w w') : AgreeOutside changed w' w :=
  ⟨h.here.symm, fun names hn => (h.kind names hn).symm,
    fun names hn => (h.noDirectory names hn).symm⟩

theorem directory (h : AgreeOutside changed w w')
    (hplace : w.tree.kindAt? place = some .directory) :
    ¬changed place ∧ w'.tree.kindAt? place = some .directory := by
  have hplain : ¬changed place := fun hchanged => (h.noDirectory place hchanged).1 hplace
  exact ⟨hplain, h.kind place hplain ▸ hplace⟩

/-- A step into an unchanged place can still be taken. -/
theorem stepFrom (h : AgreeOutside changed w w') (hgoal : ¬changed goal)
    (hstep : w.stepFrom place piece = .ok goal) : w'.stepFrom place piece = .ok goal := by
  have hplace := (stepFrom_eq_ok hstep).1
  have hplace' := (h.directory hplace).2
  unfold Workspace.stepFrom at hstep ⊢
  rw [hplace] at hstep
  rw [hplace']
  cases hpiece : Path.Step.ofPiece? piece with
  | none => simpa [hpiece] using hstep
  | some step =>
    cases step with
    | root | here | up => simpa [hpiece] using hstep
    | name n =>
      simp only [hpiece] at hstep ⊢
      split at hstep
      · next hsome =>
        cases hstep
        rw [if_pos (h.kind _ hgoal ▸ hsome)]
      · cases hstep

theorem follow (h : AgreeOutside changed w w') (hgoal : ¬changed goal)
    (hfollow : w.follow place pieces = .ok goal) : w'.follow place pieces = .ok goal := by
  induction pieces generalizing place with
  | nil => exact hfollow
  | cons piece rest ih =>
    rw [follow_cons] at hfollow ⊢
    cases hstep : w.stepFrom place piece with
    | error e => rw [hstep] at hfollow; cases hfollow
    | ok next =>
      rw [hstep] at hfollow
      have hnext : ¬changed next := by
        -- the path ends there, or a directory stands there
        cases rest with
        | nil => exact Except.ok.inj hfollow ▸ hgoal
        | cons piece rest =>
          have hfollow : w.follow next (piece :: rest) = .ok goal := hfollow
          rw [follow_cons] at hfollow
          cases hstep : w.stepFrom next piece with
          | error e => rw [hstep] at hfollow; cases hfollow
          | ok _ => exact (h.directory (stepFrom_eq_ok hstep).1).1
      rw [h.stepFrom hnext hstep]
      exact ih hfollow

/-- **A path leads to an unchanged place in both workspaces or in neither.** -/
theorem locate (h : AgreeOutside changed w w') (hplace : ¬changed place) :
    w.locate p = .ok place ↔ w'.locate p = .ok place := by
  have hstart : w'.start p = w.start p := by rw [start, start, h.here]
  constructor
  · intro hp
    have htext := text_ne_nil_of_locate hp
    rw [locate_eq htext] at hp ⊢
    exact h.follow hplace (hstart ▸ hp)
  · intro hp
    have htext := text_ne_nil_of_locate hp
    rw [locate_eq htext] at hp ⊢
    exact h.symm.follow hplace (hstart ▸ hp)

theorem isDirectory (h : AgreeOutside changed w w') (p : Path) :
    w.isDirectory p = w'.isDirectory p := by
  rw [Bool.eq_iff_iff, isDirectory_iff, isDirectory_iff]
  refine exists_congr fun place => ⟨fun ⟨hp, hplace⟩ => ?_, fun ⟨hp, hplace⟩ => ?_⟩
  · obtain ⟨hplain, hplace'⟩ := h.directory hplace
    exact ⟨(h.locate hplain).1 hp, hplace'⟩
  · obtain ⟨hplain, hplace'⟩ := h.symm.directory hplace
    exact ⟨(h.locate hplain).2 hp, hplace'⟩

theorem hasFile (h : AgreeOutside changed w w') (hplace : ¬changed place) :
    w.tree.HasFile place ↔ w'.tree.HasFile place := by
  rw [FileTree.HasFile, FileTree.HasFile, h.kind place hplace]

/-- A path that leads to no change leads to a file in both workspaces or in neither. -/
theorem isFile (h : AgreeOutside changed w w')
    (hp : ∀ place, w.locate p = .ok place ∨ w'.locate p = .ok place → ¬changed place) :
    w.isFile p = w'.isFile p := by
  rw [Bool.eq_iff_iff, isFile_iff, isFile_iff]
  refine exists_congr fun place => ⟨fun ⟨hplace, hfile⟩ => ?_, fun ⟨hplace, hfile⟩ => ?_⟩
  · have hplain := hp place (.inl hplace)
    exact ⟨(h.locate hplain).1 hplace, (h.hasFile hplain).1 hfile⟩
  · have hplain := hp place (.inr hplace)
    exact ⟨(h.locate hplain).2 hplace, (h.hasFile hplain).2 hfile⟩

/-- **A path that leads to an unchanged place is read alike.** -/
theorem read (h : AgreeOutside changed w w') (hlocate : w.locate p = w'.locate p)
    (hp : ∀ place, w.locate p = .ok place → ¬changed place) : w.read p = w'.read p := by
  rw [read_eq, read_eq, ← hlocate]
  cases hplace : w.locate p with
  | error e => rfl
  | ok place => simp [bind, Except.bind, h.kind place (hp place hplace)]

end AgreeOutside

end Workspace

end SwiftTuples
