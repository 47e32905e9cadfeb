import SwiftTuples.Proofs.Files.Trees
/-!
# Following paths

A path is followed piece by piece, and each piece asks what stands at a place and no more
(`Workspace.stepFrom`). From that come the places that joined names lead to, and the name of a file
as its path says it.
-/

namespace SwiftTuples

namespace Workspace

open FileTree (Kind)

/-- Where a piece of a path leads from a place. -/
def stepFrom (w : Workspace) (place : List Text) (piece : Text) : Except FileError (List Text) :=
  match w.tree.kindAt? place with
  | some .directory =>
    match Path.Step.ofPiece? piece with
    | some .up => .ok place.dropLast
    | some (.name n) =>
      if (w.tree.kindAt? (place ++ [n])).isSome then .ok (place ++ [n]) else .error .missing
    | _ => .ok place
  | some (.file _) => .error .throughFile
  | none => .error .missing

/-- Where following a path starts. -/
def start (w : Workspace) (p : Path) : List Text := if p.isAbsolute then [] else w.here

variable {w : Workspace} {p d : Path} {place goal front rest names : List (Text)} {n piece : Text}

theorem start_of_lead (h : p.lead = []) : w.start p = w.here := by
  unfold Path.lead at h
  rw [start]
  split at h
  · cases h
  · next habsolute => rw [if_neg habsolute]

/-- A path is followed step by step. -/
theorem follow_cons :
    w.follow place (piece :: rest) = w.stepFrom place piece >>= (w.follow · rest) := by
  rw [follow, stepFrom, FileTree.kindAt?]
  cases hget : w.tree.get? place with
  | none => rfl
  | some t =>
    cases t with
    | file bytes => rfl
    | directory entries =>
      simp only [Option.map_some, FileTree.kind]
      cases Path.Step.ofPiece? piece with
      | none => rfl
      | some step =>
        cases step with
        | root | here | up => rfl
        | name n =>
          simp only [FileTree.isSome_lookup hget]
          split <;> rfl

theorem follow_singleton : w.follow place [piece] = w.stepFrom place piece := by
  rw [follow_cons]
  cases w.stepFrom place piece <;> rfl

theorem follow_append :
    w.follow place (front ++ rest) = w.follow place front >>= (w.follow · rest) := by
  induction front generalizing place with
  | nil => rfl
  | cons piece front ih =>
    rw [List.cons_append, follow_cons, follow_cons]
    cases w.stepFrom place piece with
    | error e => rfl
    | ok next => exact ih

/-- Following that succeeds passes a place between any two pieces. -/
theorem follow_append_eq_ok (h : w.follow place (front ++ rest) = .ok goal) :
    ∃ mid, w.follow place front = .ok mid ∧ w.follow mid rest = .ok goal := by
  rw [follow_append] at h
  cases hfront : w.follow place front with
  | error e => rw [hfront] at h; cases h
  | ok mid => exact ⟨mid, rfl, by rwa [hfront] at h⟩

theorem follow_append_of_ok {mid : List Text} (h : w.follow place front = .ok mid) :
    w.follow place (front ++ rest) = w.follow mid rest := by rw [follow_append, h]; rfl

theorem locate_eq (h : p.text ≠ []) : w.locate p = w.follow (w.start p) p.pieces := by
  rw [locate, if_neg (by simpa using h), start]

theorem text_ne_nil_of_locate (h : w.locate p = .ok place) : p.text ≠ [] := fun htext => by
  rw [locate, if_pos (by simp [htext])] at h
  cases h

/-- Where a directory stands, the directory that holds it does too. -/
theorem kindAt?_dropLast (h : w.tree.kindAt? place = some .directory) :
    w.tree.kindAt? place.dropLast = some .directory := by
  rcases List.eq_nil_or_concat place with rfl | ⟨front, n, rfl⟩
  · exact h
  · rw [List.concat_eq_append] at h ⊢
    rw [List.dropLast_concat]
    exact FileTree.kindAt?_of_append (Option.isSome_of_eq_some h)

/-- A step starts at a directory, and it leads to one unless it is into what a name says. -/
theorem stepFrom_eq_ok (h : w.stepFrom place piece = .ok goal) :
    w.tree.kindAt? place = some .directory ∧
      (w.tree.kindAt? goal = some .directory ∨
        ∃ n, Path.Step.ofPiece? piece = some (.name n) ∧ goal = place ++ [n]) := by
  unfold stepFrom at h
  split at h
  · next hplace =>
    refine ⟨hplace, ?_⟩
    split at h
    · exact .inl (Except.ok.inj h ▸ kindAt?_dropLast hplace)
    · next n hpiece =>
      split at h
      · exact .inr ⟨n, hpiece, (Except.ok.inj h).symm⟩
      · cases h
    · exact .inl (Except.ok.inj h ▸ hplace)
  · cases h
  · cases h

/-- A piece that says nothing stays in a directory. -/
theorem stepFrom_of_none (hplace : w.tree.kindAt? place = some .directory)
    (hpiece : Path.Step.ofPiece? piece = none) : w.stepFrom place piece = .ok place := by
  simp [stepFrom, hplace, hpiece]

/-- A name leads to what has it in a directory. -/
theorem stepFrom_name (hplace : w.tree.kindAt? place = some .directory) (hn : Path.IsName n) :
    w.stepFrom place n =
      if (w.tree.kindAt? (place ++ [n])).isSome then .ok (place ++ [n]) else .error .missing := by
  simp [stepFrom, hplace, hn.ofPiece?]

/-! ## What joined names lead to -/

/-- **A name joined to a directory leads to what has it there.** -/
theorem locate_join (hd : w.locate d = .ok place) (hplace : w.tree.kindAt? place = some .directory)
    (hn : Path.IsName n) : w.locate (d.join n) =
      if (w.tree.kindAt? (place ++ [n])).isSome then .ok (place ++ [n]) else .error .missing := by
  have htext := text_ne_nil_of_locate hd
  obtain ⟨front, -, hjoin, hpieces⟩ := Path.pieces_join htext hn.2.1
  have hfront : w.follow (w.start d) front = .ok place := by
    rw [locate_eq htext] at hd
    rcases hpieces with hpieces | hpieces
    · -- a slash at the end asks for a directory and stays there
      rw [hpieces] at hd
      obtain ⟨mid, hmid, hstay⟩ := follow_append_eq_ok hd
      rw [follow_singleton] at hstay
      have hkind := (stepFrom_eq_ok hstay).1
      rw [stepFrom_of_none hkind rfl] at hstay
      rw [hmid, hstay]
    · rwa [hpieces] at hd
  rw [locate_eq (Path.text_join_ne_nil hn.1), hjoin, start, Path.isAbsolute_join htext, ← start,
    follow_append_of_ok hfront, follow_singleton, stepFrom_name hplace hn]

/-- Names joined to a directory lead down to what stands below it. -/
theorem locate_joinAll (hd : w.locate d = .ok place) (hnames : ∀ n ∈ names, Path.IsName n)
    (hgoal : (w.tree.kindAt? (place ++ names)).isSome) :
    w.locate (d.joinAll names) = .ok (place ++ names) := by
  induction names generalizing d place with
  | nil => simpa [Path.joinAll] using hd
  | cons n names ih =>
    obtain ⟨hn, hnames⟩ := List.forall_mem_cons.1 hnames
    have hplace := FileTree.kindAt?_of_append hgoal
    have hsplit : place ++ n :: names = (place ++ [n]) ++ names := by simp
    rw [hsplit] at hgoal ⊢
    have hstep : (w.tree.kindAt? (place ++ [n])).isSome := by
      cases names with
      | nil => simpa using hgoal
      | cons m names => exact Option.isSome_of_eq_some (FileTree.kindAt?_of_append hgoal)
    exact ih (by rw [locate_join hd hplace hn, if_pos hstep]) hnames hgoal

/-- A text leads where it leads without the stays at its front. -/
theorem follow_dropStays {t : Text} (hplace : w.tree.kindAt? place = some .directory) :
    w.follow place (Path.split (Path.dropStays t)) = w.follow place (Path.split t) := by
  fun_induction Path.dropStays t with
  | case1 rest ih =>
    rw [ih, Path.split_slash, follow_cons, stepFrom_of_none hplace rfl]
    rfl
  | case2 rest ih =>
    rw [ih, Path.split_stay, follow_cons, stepFrom_of_none hplace rfl]
    rfl
  | case3 =>
    rw [Path.split_nil, Path.split_eq_singleton (by decide), follow_singleton, follow_singleton,
      stepFrom_of_none hplace rfl, stepFrom_of_none hplace rfl]
  | case4 => rfl

/-- **A path leads where it leads without the stay at its start,** if it says anything else. -/
theorem locate_withoutHere (h : w.locate p = .ok place) (hp : p.withoutHere.text ≠ []) :
    w.locate p.withoutHere = .ok place := by
  by_cases hhere : .here ∈ p.lead
  · rcases Path.lead_eq_here_iff.1 hhere with htext | ⟨rest, htext⟩
    · obtain rfl : p = ⟨['.']⟩ := congrArg Path.mk htext
      exact absurd rfl hp
    · obtain rfl : p = ⟨'.' :: '/' :: rest⟩ := congrArg Path.mk htext
      have hwithout : Path.withoutHere ⟨'.' :: '/' :: rest⟩ = ⟨Path.dropStays rest⟩ := rfl
      rw [hwithout] at hp ⊢
      rw [locate_eq (by simp), Path.pieces, Path.split_stay, follow_cons] at h
      cases hstep : w.stepFrom (w.start ⟨'.' :: '/' :: rest⟩) ['.'] with
      | error e => rw [hstep] at h; cases h
      | ok first =>
        have hkind := (stepFrom_eq_ok hstep).1
        rw [stepFrom_of_none hkind rfl] at h
        rw [locate_eq hp, start_of_lead (Path.lead_dropStays rest), Path.pieces]
        exact (follow_dropStays hkind).trans h
  · rwa [Path.withoutHere_of_lead hhere]

/-! ## The name of a file -/

/-- **A path to a file ends in the name of the file.** -/
theorem fileName?_of_hasFile (h : w.locate p = .ok place) (hfile : w.tree.HasFile place) :
    ∃ dir n, place = dir ++ [n] ∧ p.fileName? = some n := by
  obtain ⟨bytes, hbytes⟩ := hfile
  rw [locate_eq (text_ne_nil_of_locate h)] at h
  -- only a name leads into a file, and the last piece does
  rcases List.eq_nil_or_concat p.pieces with hpieces | ⟨front, last, hpieces⟩
  · exact absurd hpieces (Path.split_ne_nil _)
  rw [hpieces, List.concat_eq_append] at h
  obtain ⟨dir, -, hlast⟩ := follow_append_eq_ok h
  rw [follow_singleton] at hlast
  rcases (stepFrom_eq_ok hlast).2 with hdirectory | ⟨n, hn, rfl⟩
  · rw [hbytes] at hdirectory
    cases hdirectory
  · refine ⟨dir, n, rfl, ?_⟩
    rw [Path.fileName?, Path.steps_eq, hpieces, List.concat_eq_append, List.filterMap_append,
      List.filterMap_cons_some hn]
    simp

/-! ## What a path leads to -/

theorem find_eq_ok_iff {t : FileTree} : w.find p = .ok t ↔
    ∃ place, w.locate p = .ok place ∧ w.tree.get? place = some t := by
  rw [find]
  cases hp : w.locate p with
  | error e => simp [bind, Except.bind]
  | ok place =>
    simp only [bind, Except.bind]
    cases hget : w.tree.get? place <;> simp [hget]

theorem isDirectory_iff : w.isDirectory p = true ↔
    ∃ place, w.locate p = .ok place ∧ w.tree.kindAt? place = some .directory := by
  rw [isDirectory, find]
  cases hp : w.locate p with
  | error e => simp [bind, Except.bind]
  | ok place =>
    simp only [bind, Except.bind, FileTree.kindAt?]
    cases hget : w.tree.get? place with
    | none => simp [hget]
    | some t => cases t <;> simp [hget, FileTree.kind]

theorem isFile_iff : w.isFile p = true ↔
    ∃ place, w.locate p = .ok place ∧ w.tree.HasFile place := by
  rw [isFile, find]
  cases hp : w.locate p with
  | error e => simp [bind, Except.bind]
  | ok place =>
    simp only [bind, Except.bind, FileTree.HasFile, FileTree.kindAt?]
    cases hget : w.tree.get? place with
    | none => simp [hget]
    | some t => cases t <;> simp [hget, FileTree.kind]

/-- The text of what stands somewhere. -/
def textOf : Option Kind → Except FileError Text
  | some (.file bytes) =>
    match String.fromUTF8? bytes with
    | some text => .ok text.toList
    | none => .error .notText
  | some .directory => .error .isDirectory
  | none => .error .missing

theorem read_eq : w.read p = w.locate p >>= fun place => textOf (w.tree.kindAt? place) := by
  rw [read, find]
  cases hp : w.locate p with
  | error e => rfl
  | ok place =>
    simp only [bind, Except.bind, FileTree.kindAt?]
    cases hget : w.tree.get? place with
    | none => rfl
    | some t => cases t <;> rfl

/-! ## What is directly inside a directory -/

/-- A stay leads nowhere else. -/
theorem locate_here (h : w.tree.kindAt? w.here = some .directory) :
    w.locate ⟨['.']⟩ = .ok w.here := by
  have hfollow : w.locate ⟨['.']⟩ = w.follow w.here [['.']] := rfl
  rw [hfollow, follow_singleton, stepFrom_of_none h rfl]

/-- What a name joined to a path leads to is directly inside the directory the path leads to. -/
theorem locate_of_join (htext : d.text ≠ []) (hn : Path.IsName n)
    (h : w.locate (d.join n) = .ok goal) :
    ∃ place, w.locate d = .ok place ∧ w.tree.kindAt? place = some .directory ∧
      goal = place ++ [n] := by
  obtain ⟨front, -, hjoin, hpieces⟩ := Path.pieces_join htext hn.2.1
  rw [locate_eq (Path.text_join_ne_nil hn.1), hjoin, start, Path.isAbsolute_join htext,
    ← start] at h
  obtain ⟨place, hfront, hlast⟩ := follow_append_eq_ok h
  rw [follow_singleton] at hlast
  have hplace := (stepFrom_eq_ok hlast).1
  refine ⟨place, ?_, hplace, ?_⟩
  · rw [locate_eq htext]
    rcases hpieces with hpieces | hpieces
    · rw [hpieces, follow_append_of_ok hfront, follow_singleton, stepFrom_of_none hplace rfl]
    · rwa [hpieces]
  · rw [stepFrom_name hplace hn] at hlast
    split at hlast
    · exact (Except.ok.inj hlast).symm
    · cases hlast

theorem isFile_join (hd : w.locate d = .ok place)
    (hplace : w.tree.kindAt? place = some .directory) (hn : Path.IsName n) :
    w.isFile (d.join n) ↔ w.tree.HasFile (place ++ [n]) := by
  rw [isFile_iff, locate_join hd hplace hn]
  constructor
  · rintro ⟨there, hthere, hfile⟩
    split at hthere
    · exact Except.ok.inj hthere ▸ hfile
    · cases hthere
  · rintro ⟨bytes, hbytes⟩
    exact ⟨place ++ [n], if_pos (Option.isSome_of_eq_some hbytes), bytes, hbytes⟩

/-- **What is read by a name in a directory is what has that name there.** -/
theorem read_join (hd : w.locate d = .ok place)
    (hplace : w.tree.kindAt? place = some .directory) (hn : Path.IsName n) :
    w.read (d.join n) = textOf (w.tree.kindAt? (place ++ [n])) := by
  rw [read_eq, locate_join hd hplace hn]
  cases hkind : w.tree.kindAt? (place ++ [n]) with
  | none => rfl
  | some kind => simp [bind, Except.bind, hkind]

end Workspace

end SwiftTuples
