import SwiftTuples.Proofs.Files.Following
import SwiftTuples.Proofs.Selection.Arrange
/-!
# What roots lead to

The candidates of a root, said without a walk: the root itself if it is a file, and else each file
that names lead to below it, none of them pruned. A root has no two candidates of the same steps
(`Candidate.eq_of_steps`), so who is selected is a matter of which root comes first
(`mem_select`), and of the candidates alone (`select_congr`).
-/

namespace SwiftTuples

namespace Selection

/-- A root leads to a path. -/
inductive Candidate (w : Workspace) (root : Path) : Path → Prop
  /-- A file counts as it is written, whatever its directories are called. -/
  | asWritten (h : w.isFile root) : Candidate w root root
  /-- Below anything else no name may be pruned, that of the file included. -/
  | below {place names : List Text} (hroot : w.locate root = .ok place) (hne : names ≠ [])
      (hfile : w.tree.HasFile (place ++ names)) (hpruned : ∀ n ∈ names, isPruned n = false) :
      Candidate w root (root.joinAll names).withoutHere

/-- The first of the roots that lead to a path of these steps has it spelled so. -/
def Spelled (w : Workspace) (roots : List Path) (p : Path) : Prop :=
  ∃ before root after, roots = before ++ root :: after ∧ Candidate w root p ∧
    ∀ r ∈ before, ∀ q, Candidate w r q → q.steps ≠ p.steps

variable {w w' : Workspace} {root p q : Path} {roots : List Path} {s : Settings}
  {place names : List Text}

/-! ## The candidates of a root -/

/-- What is below a root is below a directory. -/
theorem kindAt?_of_hasFile (hne : names ≠ []) (hfile : w.tree.HasFile (place ++ names)) :
    w.tree.kindAt? place = some .directory := by
  obtain ⟨n, more, rfl⟩ := List.exists_cons_of_ne_nil hne
  obtain ⟨bytes, hbytes⟩ := hfile
  exact FileTree.kindAt?_of_append (Option.isSome_of_eq_some hbytes)

/-- What stands below a place is led to by names. -/
theorem isName_of_below (h : w.tree.WellFormed) (hfile : w.tree.HasFile (place ++ names)) :
    ∀ n ∈ names, Path.IsName n := by
  obtain ⟨bytes, hbytes⟩ := hfile
  exact fun n hn => h.isName (Option.isSome_of_eq_some hbytes) n (List.mem_append_right _ hn)

/-- A candidate is somewhere: its root leads to a file or a directory. -/
theorem Candidate.of_locate (hp : Candidate w root p) (hroot : w.locate root = .ok place) :
    (w.tree.HasFile place ∧ p = root) ∨
      ∃ names, names ≠ [] ∧ w.tree.HasFile (place ++ names) ∧
        (∀ n ∈ names, isPruned n = false) ∧ p = (root.joinAll names).withoutHere := by
  cases hp with
  | asWritten hfile =>
    obtain ⟨there, hthere, hfile⟩ := Workspace.isFile_iff.1 hfile
    obtain rfl := Except.ok.inj (hroot.symm.trans hthere)
    exact .inl ⟨hfile, rfl⟩
  | below hthere hne hfile hpruned =>
    obtain rfl := Except.ok.inj (hroot.symm.trans hthere)
    exact .inr ⟨_, hne, hfile, hpruned, rfl⟩

theorem Candidate.exists_locate (hp : Candidate w root p) : ∃ place, w.locate root = .ok place := by
  cases hp with
  | asWritten hfile => exact (Workspace.isFile_iff.1 hfile).imp fun _ h => h.1
  | below hroot => exact ⟨_, hroot⟩

theorem hasFile_append {t : FileTree} (h : w.tree.get? place = some t) :
    w.tree.HasFile (place ++ names) ↔ t.HasFile names := by
  rw [FileTree.HasFile, FileTree.HasFile, FileTree.kindAt?, FileTree.kindAt?, FileTree.get?_append,
    h, Option.bind_some]

/-- The root of a candidate leads somewhere. -/
theorem Candidate.exists_find (hp : Candidate w root p) : ∃ t, w.find root = .ok t := by
  obtain ⟨place, hroot⟩ := hp.exists_locate
  have hsome : (w.tree.kindAt? place).isSome := by
    rcases hp.of_locate hroot with ⟨⟨bytes, hbytes⟩, -⟩ | ⟨names, hne, hfile, -⟩
    · exact Option.isSome_of_eq_some hbytes
    · exact Option.isSome_of_eq_some (kindAt?_of_hasFile hne hfile)
  rw [FileTree.kindAt?, Option.isSome_map] at hsome
  obtain ⟨t, ht⟩ := Option.isSome_iff_exists.1 hsome
  exact ⟨t, Workspace.find_eq_ok_iff.2 ⟨place, hroot, ht⟩⟩

/-- **The walk finds the candidates of a root.** -/
theorem mem_candidates (h : w.tree.WellFormed) :
    p ∈ (candidates w root).toOption.getD [] ↔ Candidate w root p := by
  cases hfind : w.find root with
  | error e =>
    simp only [candidates, hfind]
    refine iff_of_false (by simp [Except.toOption]) fun hp => ?_
    obtain ⟨t, ht⟩ := hp.exists_find
    cases hfind.symm.trans ht
  | ok t =>
    obtain ⟨place, hroot, hget⟩ := Workspace.find_eq_ok_iff.1 hfind
    cases t with
    | file bytes =>
      have hfile : w.tree.HasFile place := ⟨bytes, by simp [FileTree.kindAt?, hget, FileTree.kind]⟩
      simp only [candidates, hfind, Except.toOption, Option.getD_some, List.mem_singleton]
      constructor
      · rintro rfl
        exact .asWritten (Workspace.isFile_iff.2 ⟨place, hroot, hfile⟩)
      · intro hp
        rcases hp.of_locate hroot with ⟨-, rfl⟩ | ⟨names, hne, hbelow, -⟩
        · rfl
        · have hdirectory := kindAt?_of_hasFile hne hbelow
          simp [FileTree.kindAt?, hget, FileTree.kind] at hdirectory
    | directory entries =>
      have hfiles : ∀ names, names ∈ FileTree.filesAmong entries ↔
          w.tree.HasFile (place ++ names) ∧ ∀ n ∈ names, isPruned n = false := by
        intro names
        rw [hasFile_append hget, ← FileTree.mem_files (h.get? hget).1, FileTree.files]
      have hplace : ¬w.tree.HasFile place := by
        rintro ⟨bytes, hbytes⟩
        simp [FileTree.kindAt?, hget, FileTree.kind] at hbytes
      simp only [candidates, hfind, Except.toOption, Option.getD_some, List.mem_map]
      constructor
      · rintro ⟨names, hmem, rfl⟩
        obtain ⟨hfile, hpruned⟩ := (hfiles names).1 hmem
        exact .below hroot (fun hnil => hplace (by simpa [hnil] using hfile)) hfile hpruned
      · intro hp
        rcases hp.of_locate hroot with ⟨hfile, -⟩ | ⟨names, -, hfile, hpruned, rfl⟩
        · exact absurd hfile hplace
        · exact ⟨names, (hfiles names).2 ⟨hfile, hpruned⟩, rfl⟩

/-- The steps of a candidate are those of the root, with no stay, and then names. -/
theorem Candidate.steps_eq (h : w.tree.WellFormed) (hroot : w.locate root = .ok place)
    (hfile : w.tree.HasFile (place ++ names)) :
    (root.joinAll names).withoutHere.steps =
      root.steps.filter (· != .here) ++ names.map .name := by
  rw [Path.steps_withoutHere, Path.steps_joinAll (Workspace.text_ne_nil_of_locate hroot)
    (isName_of_below h hfile), List.filter_append]
  congr 1
  exact List.filter_eq_self.2 (by simp)

/-- **A root leads to a path by one spelling.** -/
theorem Candidate.eq_of_steps (hp : Candidate w root p) (hq : Candidate w root q)
    (h : w.tree.WellFormed) (hsteps : p.steps = q.steps) : p = q := by
  obtain ⟨place, hroot⟩ := hp.exists_locate
  rcases hp.of_locate hroot with ⟨hfile, rfl⟩ | ⟨names, hne, hfile, -, rfl⟩
  · rcases hq.of_locate hroot with ⟨-, rfl⟩ | ⟨names, hne, hbelow, -⟩
    · rfl
    · obtain ⟨bytes, hbytes⟩ := hfile
      rw [kindAt?_of_hasFile hne hbelow] at hbytes
      cases hbytes
  · rcases hq.of_locate hroot with ⟨⟨bytes, hbytes⟩, -⟩ | ⟨names', -, hfile', -, rfl⟩
    · rw [kindAt?_of_hasFile hne hfile] at hbytes
      cases hbytes
    · rw [Candidate.steps_eq h hroot hfile, Candidate.steps_eq h hroot hfile',
        List.append_cancel_left_eq, List.map_inj_right (by simp)] at hsteps
      rw [hsteps]

/-- The path of what names lead to below a root leads there. -/
theorem locate_below (h : w.tree.WellFormed) (hroot : w.locate root = .ok place) (hne : names ≠ [])
    (hfile : w.tree.HasFile (place ++ names)) :
    w.locate (root.joinAll names).withoutHere = .ok (place ++ names) := by
  have hsteps := Candidate.steps_eq h hroot hfile
  have hnames := isName_of_below h hfile
  obtain ⟨bytes, hbytes⟩ := hfile
  have hsome := Option.isSome_of_eq_some hbytes
  refine Workspace.locate_withoutHere (Workspace.locate_joinAll hroot hnames hsome) fun htext => ?_
  -- a path without text takes no step
  have hempty : (root.joinAll names).withoutHere = ⟨[]⟩ := congrArg Path.mk htext
  have hnone : Path.steps ⟨[]⟩ = [] := rfl
  rw [hempty, hnone, List.nil_eq, List.append_eq_nil_iff, List.map_eq_nil_iff] at hsteps
  exact hne hsteps.2

/-- **A candidate leads to a file.** -/
theorem Candidate.locate (hp : Candidate w root p) (h : w.tree.WellFormed) :
    ∃ place, w.locate p = .ok place ∧ w.tree.HasFile place := by
  cases hp with
  | asWritten hfile => exact Workspace.isFile_iff.1 hfile
  | below hroot hne hfile => exact ⟨_, locate_below h hroot hne hfile, hfile⟩

/-- A path is one of a Swift file by its steps. -/
theorem isSource_congr (hsteps : p.steps = q.steps) : isSource p = isSource q := by
  rw [isSource, isSource, Path.fileName?, Path.fileName?, hsteps]

/-- A path to a file is one of a Swift file by the name of the file. -/
theorem isSource_of_hasFile (h : w.tree.WellFormed) (hp : w.locate p = .ok place)
    (hfile : w.tree.HasFile place) :
    ∃ dir n, place = dir ++ [n] ∧ isSource p = isSource ⟨n⟩ := by
  obtain ⟨dir, n, rfl, hname⟩ := Workspace.fileName?_of_hasFile hp hfile
  have hn := isName_of_below h hfile n (List.mem_singleton.2 rfl)
  have hself : Path.fileName? ⟨n⟩ = some n := by
    have hsteps : Path.steps ⟨n⟩ = [.name n] := by
      have hnames : ∀ m ∈ [n], Path.IsName m := List.forall_mem_singleton.2 hn
      simpa [Path.ofNames] using Path.steps_ofNames hnames
    rw [Path.fileName?, hsteps]
    rfl
  exact ⟨dir, n, rfl, by rw [isSource, isSource, hname, hself]⟩

/-- A candidate that is a Swift file stays one where its root leads to the same place and the Swift
files are still there. -/
theorem Candidate.imp (hp : Candidate w root p) (h : w.tree.WellFormed) (hsource : isSource p)
    (hroot : ∀ place, w.locate root = .ok place → w'.locate root = .ok place)
    (hfile : ∀ dir n, isSource ⟨n⟩ → w.tree.HasFile (dir ++ [n]) → w'.tree.HasFile (dir ++ [n])) :
    Candidate w' root p := by
  cases hp with
  | asWritten hleads =>
    obtain ⟨place, hplace, hthere⟩ := Workspace.isFile_iff.1 hleads
    obtain ⟨dir, n, rfl, hn⟩ := isSource_of_hasFile h hplace hthere
    exact .asWritten
      (Workspace.isFile_iff.2 ⟨_, hroot _ hplace, hfile dir n (hn.symm.trans hsource) hthere⟩)
  | @below place names hplace hne hthere hpruned =>
    obtain ⟨dir, n, heq, hn⟩ := isSource_of_hasFile h (locate_below h hplace hne hthere) hthere
    rw [heq] at hthere
    exact .below (hroot _ hplace) hne (heq ▸ hfile dir n (hn.symm.trans hsource) hthere) hpruned

/-! ## Who is selected -/

theorem find?_candidates (h : w.tree.WellFormed) :
    ((candidates w root).toOption.getD []).find? (·.same p) = some p ↔ Candidate w root p := by
  rw [← mem_candidates h]
  refine ⟨List.mem_of_find?_eq_some, fun hmem => ?_⟩
  have hsome : (((candidates w root).toOption.getD []).find? (·.same p)).isSome :=
    List.find?_isSome.2 ⟨p, hmem, Path.same_self p⟩
  obtain ⟨q, hq⟩ := Option.isSome_iff_exists.1 hsome
  have hsame := List.find?_some hq
  rw [hq, ((mem_candidates h).1 (List.mem_of_find?_eq_some hq)).eq_of_steps
    ((mem_candidates h).1 hmem) h (Path.same_iff.1 hsame)]

theorem find?_candidates_eq_none (h : w.tree.WellFormed) :
    ((candidates w root).toOption.getD []).find? (·.same p) = none ↔
      ∀ q, Candidate w root q → q.steps ≠ p.steps := by
  simp only [List.find?_eq_none, Path.same_iff, mem_candidates h]

theorem find?_flatMap_candidates (h : w.tree.WellFormed) :
    (roots.flatMap fun root => (candidates w root).toOption.getD []).find? (·.same p) = some p ↔
      Spelled w roots p := by
  simp only [List.find?_flatMap, List.findSome?_eq_some_iff, find?_candidates h,
    find?_candidates_eq_none h, Spelled]

/-- **Who is selected:** the first spelling of each path that is one of a Swift file and that the
settings admit. -/
theorem mem_select (h : w.tree.WellFormed) : p ∈ select w roots s ↔
    Spelled w roots p ∧ isSource p ∧ s.admits (String.ofList p.slashed) := by
  -- among the paths of the steps of `p` all are those of Swift files, or none
  have hpred : (fun q : Path => decide (isSource q = true ∧ q.same p = true)) =
      fun q => isSource p && q.same p := by
    funext q
    by_cases hq : q.same p
    · simp [hq, isSource_congr (Path.same_iff.1 hq)]
    · simp [hq]
  rw [select, List.mem_filter, mem_arrange, List.find?_filter, hpred,
    ← find?_flatMap_candidates h, ← and_assoc]
  refine and_congr_left' ?_
  cases isSource p with
  | true => simp
  | false =>
    refine iff_of_false (fun hfind => ?_) (by simp)
    simpa using List.find?_some hfind

theorem pairwise_select (w : Workspace) (roots : List Path) (s : Settings) :
    (select w roots s).Pairwise Path.Before :=
  (pairwise_arrange _).filter _

/-- Of one Swift file that is found the settings are asked. -/
theorem select_of_found (hfound : (roots.flatMap fun root =>
      (candidates w root).toOption.getD []).filter isSource = [p]) :
    select w roots s = [p].filter fun p => s.admits (String.ofList p.slashed) := by
  rw [select, hfound, arrange_singleton]

/-- **The same paths are selected** where roots lead to the same places and the same Swift files
stand there, whatever is in them. -/
theorem select_congr (h : w.tree.WellFormed) (h' : w'.tree.WellFormed)
    (hroot : ∀ root ∈ roots, ∀ place, w.locate root = .ok place ↔ w'.locate root = .ok place)
    (hfile : ∀ dir n, isSource ⟨n⟩ →
      (w.tree.HasFile (dir ++ [n]) ↔ w'.tree.HasFile (dir ++ [n]))) :
    select w roots s = select w' roots s := by
  have hcandidate : ∀ root ∈ roots, ∀ p, isSource p → (Candidate w root p ↔ Candidate w' root p) :=
    fun root hmem p hsource =>
      ⟨fun hp => hp.imp h hsource (fun place => (hroot root hmem place).1)
          fun dir n hn => (hfile dir n hn).1,
        fun hp => hp.imp h' hsource (fun place => (hroot root hmem place).2)
          fun dir n hn => (hfile dir n hn).2⟩
  refine (pairwise_select w roots s).eq_of_mem_iff (pairwise_select w' roots s) fun {p} => ?_
  rw [mem_select h, mem_select h']
  refine and_congr_left fun ⟨hsource, _⟩ => ?_
  refine exists_congr fun before => exists_congr fun root => exists_congr fun after => ?_
  refine and_congr_right fun hroots => ?_
  have hbefore : ∀ r ∈ before, r ∈ roots := fun r hr => hroots ▸ List.mem_append_left _ hr
  refine and_congr (hcandidate root (by simp [hroots]) p hsource) ?_
  refine forall₂_congr fun r hr => forall_congr' fun q => ?_
  by_cases hsteps : q.steps = p.steps
  · rw [hcandidate r (hbefore r hr) q ((isSource_congr hsteps).trans hsource)]
  · simp [hsteps]

end Selection

end SwiftTuples
