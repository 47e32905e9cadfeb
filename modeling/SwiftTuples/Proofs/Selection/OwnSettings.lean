import SwiftTuples.Proofs.Settings.Loading
import SwiftTuples.Proofs.Selection.Candidates
import SwiftTuples.Run
/-!
# Selecting from outside and from inside

A directory can be named as a root, or a run can start in it. Both load the same settings, and both
lead to the same files. But patterns are asked about paths as they are told, so from outside the
path of the directory is in front of what is matched, and a pattern that is anchored at the start
tells the two apart.
-/

namespace SwiftTuples

/-- The workspace from another place. -/
def Workspace.inside (w : Workspace) (place : List Text) : Workspace := { w with here := place }

/-- The settings with no pattern. -/
def Settings.withoutPatterns (s : Settings) : Settings := { s with includes := [], excludes := [] }

namespace Selection

variable {w : Workspace} {root p q : Path} {s : Settings} {place names : List Text}

/-! ## One root -/

/-- One root spells every path that it leads to. -/
theorem spelled_singleton : Spelled w [root] p ↔ Candidate w root p := by
  constructor
  · rintro ⟨before, r, after, hroots, hp, -⟩
    have hr : r ∈ [root] := by simp [hroots]
    rwa [List.mem_singleton.1 hr] at hp
  · exact fun hp => ⟨[], root, [], rfl, hp, by simp⟩

/-- The candidates of a directory are the files below it. -/
theorem candidate_iff (hroot : w.locate root = .ok place)
    (hdir : w.tree.kindAt? place = some .directory) : Candidate w root p ↔
      ∃ names, names ≠ [] ∧ w.tree.HasFile (place ++ names) ∧
        (∀ n ∈ names, isPruned n = false) ∧ p = (root.joinAll names).withoutHere := by
  constructor
  · intro hp
    rcases hp.of_locate hroot with ⟨⟨bytes, hbytes⟩, -⟩ | hbelow
    · rw [hdir] at hbytes
      cases hbytes
    · exact hbelow
  · rintro ⟨names, hne, hfile, hpruned, rfl⟩
    exact .below hroot hne hfile hpruned

/-- Patterns are asked last. -/
theorem select_eq_filter (w : Workspace) (roots : List Path) (s : Settings) :
    select w roots s =
      (select w roots s.withoutPatterns).filter fun p => s.admits (String.ofList p.slashed) := by
  have hnone : ∀ text, s.withoutPatterns.admits text := fun text => rfl
  simp only [select, hnone, List.filter_true]

/-! ## Outside and inside -/

/-- Steps in front of a path leave the name that it ends in. -/
theorem isSource_of_steps_append {front : List Path.Step} (hne : p.steps ≠ [])
    (hq : q.steps = front ++ p.steps) : isSource q = isSource p := by
  rw [isSource, isSource, Path.fileName?, Path.fileName?, hq, List.getLast?_append_of_ne_nil _ hne]

/-- The path of what names lead to below a root that starts with no stay. -/
theorem withoutHere_joinAll (htext : root.text ≠ []) (hplain : .here ∉ root.steps)
    (hne : names ≠ []) (hnames : ∀ n ∈ names, Path.IsName n) :
    (root.joinAll names).withoutHere = root.join (Path.ofNames names).text ∧
      (root.join (Path.ofNames names).text).steps = root.steps ++ (Path.ofNames names).steps := by
  have hsteps := Path.steps_joinAll htext hnames
  rw [← Path.joinAll_eq hne hnames, hsteps, Path.steps_ofNames hnames]
  refine ⟨Path.withoutHere_of_lead fun hlead => ?_, rfl⟩
  rw [Path.steps_eq] at hsteps
  have hmem := hsteps ▸ List.mem_append_left _ hlead
  rcases List.mem_append.1 hmem with hmem | hmem
  · exact hplain hmem
  · simp at hmem

/-- The directory loads the same settings from outside and from inside. -/
theorem applyDirectory_inside (hroot : w.locate root = .ok place)
    (hdir : w.tree.kindAt? place = some .directory) (s : Settings) :
    (s.applyDirectory w root).Alike
      (s.applyDirectory (w.inside place) CommandLine.hereOnly) := by
  have hinside : (w.inside place).locate CommandLine.hereOnly = .ok place :=
    Workspace.locate_here hdir
  refine Settings.applyDirectory_alike (fun n hn => ⟨?_, ?_⟩) s
  · rw [Bool.eq_iff_iff, Workspace.isFile_join hroot hdir hn.isName,
      Workspace.isFile_join hinside hdir hn.isName]
    rfl
  · rw [Workspace.read_join hroot hdir hn.isName, Workspace.read_join hinside hdir hn.isName]
    rfl

/-- Filters keep the same of a list when they say the same of all that is in it. -/
theorem filter_eq_filter_iff {ps : List Path} {f g : Path → Bool} :
    ps.filter f = ps.filter g ↔ ∀ p ∈ ps, f p = g p := by
  refine ⟨fun heq p hp => ?_, List.filter_congr⟩
  have hmem : p ∈ ps.filter f ↔ p ∈ ps.filter g := by rw [heq]
  rw [List.mem_filter, List.mem_filter, and_iff_right hp, and_iff_right hp] at hmem
  exact Bool.eq_iff_iff.2 hmem

section

variable (h : w.tree.WellFormed) (hroot : w.locate root = .ok place)
  (hdir : w.tree.kindAt? place = some .directory) (hplain : .here ∉ root.steps)
include h hdir

/-- From inside the candidates are the paths of names. -/
theorem candidate_inside_iff : Candidate (w.inside place) CommandLine.hereOnly p ↔
    ∃ names, names ≠ [] ∧ w.tree.HasFile (place ++ names) ∧ (∀ n ∈ names, isPruned n = false) ∧
      p = Path.ofNames names := by
  have hinside : (w.inside place).locate CommandLine.hereOnly = .ok place :=
    Workspace.locate_here hdir
  rw [candidate_iff hinside hdir]
  refine exists_congr fun names => and_congr_right fun hne => and_congr_right fun hfile =>
    and_congr_right fun _ => ?_
  have hpath := Path.withoutHere_joinAll_here hne (isName_of_below h hfile)
  rw [← hpath]
  rfl

include hroot hplain

/-- From outside they are the same with the root in front. -/
theorem candidate_outside_iff : Candidate w root q ↔
    ∃ p, Candidate (w.inside place) CommandLine.hereOnly p ∧ q = root.join p.text := by
  have htext := Workspace.text_ne_nil_of_locate hroot
  simp only [candidate_iff hroot hdir, candidate_inside_iff h hdir]
  constructor
  · rintro ⟨names, hne, hfile, hpruned, rfl⟩
    exact ⟨_, ⟨names, hne, hfile, hpruned, rfl⟩,
      (withoutHere_joinAll htext hplain hne (isName_of_below h hfile)).1⟩
  · rintro ⟨_, ⟨names, hne, hfile, hpruned, rfl⟩, rfl⟩
    exact ⟨names, hne, hfile, hpruned,
      (withoutHere_joinAll htext hplain hne (isName_of_below h hfile)).1.symm⟩

theorem steps_outside (hp : Candidate (w.inside place) CommandLine.hereOnly p) :
    p.steps ≠ [] ∧ (root.join p.text).steps = root.steps ++ p.steps := by
  obtain ⟨names, hne, hfile, -, rfl⟩ := (candidate_inside_iff h hdir).1 hp
  have hnames := isName_of_below h hfile
  refine ⟨?_, (withoutHere_joinAll (Workspace.text_ne_nil_of_locate hroot) hplain hne hnames).2⟩
  rw [Path.steps_ofNames hnames]
  simpa using hne

/-- **Without patterns the same files are selected,** in the same order. -/
theorem select_withoutPatterns (s : Settings) : select w [root] s.withoutPatterns =
    (select (w.inside place) [CommandLine.hereOnly] s.withoutPatterns).map (root.join ·.text) := by
  have hinside : ∀ {p}, p ∈ select (w.inside place) [CommandLine.hereOnly] s.withoutPatterns ↔
      Candidate (w.inside place) CommandLine.hereOnly p ∧ isSource p := by
    intro p
    rw [mem_select (w := w.inside place) h, spelled_singleton]
    exact and_congr_right fun _ => and_iff_left rfl
  have hordered : ((select (w.inside place) [CommandLine.hereOnly] s.withoutPatterns).map
      (root.join ·.text)).Pairwise Path.Before := by
    rw [List.pairwise_map]
    refine (pairwise_select _ _ _).imp_of_mem fun {p q} hp hq hbefore => ?_
    exact hbefore.of_steps_append (steps_outside h hroot hdir hplain (hinside.1 hp).1).2
      (steps_outside h hroot hdir hplain (hinside.1 hq).1).2
  -- both are strictly in order, so it is enough that the same paths are in them
  refine (pairwise_select w [root] s.withoutPatterns).eq_of_mem_iff hordered fun {q} => ?_
  rw [mem_select h, spelled_singleton, candidate_outside_iff h hroot hdir hplain, List.mem_map]
  constructor
  · rintro ⟨⟨p, hp, rfl⟩, hsource, -⟩
    obtain ⟨hne, hsteps⟩ := steps_outside h hroot hdir hplain hp
    exact ⟨p, hinside.2 ⟨hp, isSource_of_steps_append hne hsteps ▸ hsource⟩, rfl⟩
  · rintro ⟨p, hp, rfl⟩
    obtain ⟨hp, hsource⟩ := hinside.1 hp
    obtain ⟨hne, hsteps⟩ := steps_outside h hroot hdir hplain hp
    exact ⟨⟨p, hp, rfl⟩, (isSource_of_steps_append hne hsteps).trans hsource, rfl⟩

end

/-- **A directory selects alike from outside and from inside, as far as patterns do not look at its
own path.** Both ways its two files give the same settings, or loading is stopped. From outside
those are selected, with the path of the directory in front, that the patterns admit with that path
in front. So the two agree exactly when patterns admit each file below with it as without it. -/
theorem select_from_inside (h : w.tree.WellFormed) (hroot : w.locate root = .ok place)
    (hdir : w.tree.kindAt? place = some .directory) (hplain : .here ∉ root.steps) :
    (({} : Settings).applyDirectory w root).Alike
      (({} : Settings).applyDirectory (w.inside place) CommandLine.hereOnly) ∧
    ∀ s : Settings,
      select w [root] s =
        ((select (w.inside place) [CommandLine.hereOnly] s.withoutPatterns).map
          (root.join ·.text)).filter (fun p => s.admits (String.ofList p.slashed)) ∧
      (select w [root] s =
          (select (w.inside place) [CommandLine.hereOnly] s).map (root.join ·.text) ↔
        ∀ p ∈ select (w.inside place) [CommandLine.hereOnly] s.withoutPatterns,
          s.admits (String.ofList (root.join p.text).slashed) =
            s.admits (String.ofList p.slashed)) := by
  have houtside : ∀ s, select w [root] s =
      ((select (w.inside place) [CommandLine.hereOnly] s.withoutPatterns).map
        (root.join ·.text)).filter (fun p => s.admits (String.ofList p.slashed)) := fun s => by
    rw [select_eq_filter, select_withoutPatterns h hroot hdir hplain]
  refine ⟨applyDirectory_inside hroot hdir {}, fun s => ⟨houtside s, ?_⟩⟩
  have hinjective : Function.Injective fun p : Path => root.join p.text := fun ⟨_⟩ ⟨_⟩ hpq =>
    congrArg Path.mk (root.join_injective hpq)
  rw [houtside, select_eq_filter (w.inside place) _ s, List.filter_map, hinjective.list_map.eq_iff]
  exact filter_eq_filter_iff

/-- A directory with a Swift file and settings that include what starts with an `A`. -/
def anchored : Workspace :=
  ⟨.directory [("proj".toList, .directory [("A.swift".toList, .file "".toUTF8),
    (Settings.ignoreName, .file "".toUTF8),
    (Settings.fileName, .file "[scan]\ninclude = [\"^A\"]\n".toUTF8)])], []⟩

/-- Without patterns the directory selects alike. -/
theorem plain_directory_selects_alike : anchored.tree.WellFormed ∧
    select anchored [⟨"proj".toList⟩] {} =
      (select (anchored.inside ["proj".toList]) [CommandLine.hereOnly] {}).map
        (Path.join ⟨"proj".toList⟩ ·.text) := by
  have hwell : anchored.tree.WellFormed := by
    refine .directory (by decide) (by decide) (List.forall_mem_singleton.2 ?_)
    refine .directory (by decide) (by decide) ?_
    simp only [List.forall_mem_cons]
    exact ⟨.file _, .file _, .file _, by simp⟩
  have hroot : anchored.locate ⟨"proj".toList⟩ = .ok ["proj".toList] := rfl
  exact ⟨hwell, ((select_from_inside hwell hroot rfl (by decide)).2 {}).2.2 fun p _ => rfl⟩

/-- **An anchored pattern sees the path of the directory.** Its settings are loaded both ways, and
from inside they select the file, from outside nothing. -/
theorem anchored_pattern_sees_directory :
    (({} : Settings).applyDirectory anchored ⟨"proj".toList⟩).stopped = none ∧
    (({} : Settings).applyDirectory (anchored.inside ["proj".toList])
      CommandLine.hereOnly).stopped = none ∧
    select anchored [⟨"proj".toList⟩]
      (({} : Settings).applyDirectory anchored ⟨"proj".toList⟩).settings = [] ∧
    select (anchored.inside ["proj".toList]) [CommandLine.hereOnly]
      (({} : Settings).applyDirectory (anchored.inside ["proj".toList])
        CommandLine.hereOnly).settings = [⟨"A.swift".toList⟩] := by
  refine ⟨by decide +kernel, by decide +kernel, ?_, ?_⟩
  · rw [select_of_found (p := ⟨"proj/A.swift".toList⟩) (by decide +kernel)]
    exact List.filter_eq_nil_iff.2 (List.forall_mem_singleton.2 (by decide +kernel))
  · rw [select_of_found (p := ⟨"A.swift".toList⟩) (by decide +kernel)]
    exact List.filter_eq_self.2 (List.forall_mem_singleton.2 (by decide +kernel))

end Selection

end SwiftTuples
