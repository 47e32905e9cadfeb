import SwiftTuples.Proofs.Files.Agreement
import SwiftTuples.Proofs.Selection.Candidates
/-!
# What selecting gives

Selecting is a function of what stands where and of the candidates of the roots. The order in which
directories list what they hold is no matter, and the order of the roots is none either unless it
decides how a path is spelled.
-/

namespace SwiftTuples

namespace Selection

variable {w : Workspace} {p : Path} {roots : List Path} {s : Settings}

/-- Patterns admit what matches one of those to match, if there are any, and none of the others. -/
theorem admits_iff {text : String} : s.admits text ↔
    (s.includes = [] ∨ ∃ pattern ∈ s.includes, pattern.occursIn text) ∧
      ∀ pattern ∈ s.excludes, ¬pattern.occursIn text := by
  simp [Settings.admits]

/-- Where roots agree on how paths are spelled, any of them may lead to a path. -/
theorem spelled_iff (h : w.tree.WellFormed) (hagree : ∀ r ∈ roots, ∀ r' ∈ roots, ∀ p q,
      Candidate w r p → Candidate w r' q → p.steps = q.steps → p = q) :
    Spelled w roots p ↔ ∃ root ∈ roots, Candidate w root p := by
  constructor
  · rintro ⟨before, root, after, rfl, hp, -⟩
    exact ⟨root, by simp, hp⟩
  · rintro ⟨root, hroot, hp⟩
    rw [← find?_flatMap_candidates h]
    have hsome : ((roots.flatMap fun root => (candidates w root).toOption.getD []).find?
        (·.same p)).isSome :=
      List.find?_isSome.2 ⟨p, List.mem_flatMap.2 ⟨root, hroot, (mem_candidates h).2 hp⟩,
        Path.same_self p⟩
    obtain ⟨q, hq⟩ := Option.isSome_iff_exists.1 hsome
    obtain ⟨r, hr, hmem⟩ := List.mem_flatMap.1 (List.mem_of_find?_eq_some hq)
    have hsame := List.find?_some hq
    rw [hq, hagree r hr root hroot q p ((mem_candidates h).1 hmem) hp (Path.same_iff.1 hsame)]

/-- **What selecting gives.** The paths are strictly in order. They are the Swift files that roots
lead to, each as the first such root has it spelled, that match a pattern to match if there are any
and none of those not to match. So neither the order in which directories list their entries is a
matter, nor how often and in which order roots are given that spell the same paths alike. -/
theorem select_exact (h : w.tree.WellFormed) (roots : List Path) (s : Settings) :
    (select w roots s).Pairwise Path.Before ∧
    (∀ p, p ∈ select w roots s ↔ Spelled w roots p ∧ isSource p ∧
      (s.includes = [] ∨ ∃ pattern ∈ s.includes, pattern.occursIn (String.ofList p.slashed)) ∧
      ∀ pattern ∈ s.excludes, ¬pattern.occursIn (String.ofList p.slashed)) ∧
    (∀ t : FileTree, t.WellFormed → (∀ names, t.kindAt? names = w.tree.kindAt? names) →
      select ⟨t, w.here⟩ roots s = select w roots s) ∧
    (∀ roots' : List Path, (∀ root, root ∈ roots' ↔ root ∈ roots) →
      (∀ r ∈ roots, ∀ r' ∈ roots, ∀ p q,
        Candidate w r p → Candidate w r' q → p.steps = q.steps → p = q) →
      select w roots' s = select w roots s) := by
  refine ⟨pairwise_select w roots s, fun p => ?_, fun t ht hkind => ?_,
    fun roots' hroots hagree => ?_⟩
  · rw [mem_select h, admits_iff]
  · refine select_congr ht h (fun root _ place => ?_) fun dir n _ => ?_
    · have hlocate : Workspace.locate ⟨t, w.here⟩ root = w.locate root :=
        Workspace.locate_congr rfl fun place _ => by simp only [FileTree.shapeAt?, hkind]
      rw [hlocate]
    · rw [FileTree.HasFile, FileTree.HasFile, hkind]
  · refine (pairwise_select w roots' s).eq_of_mem_iff (pairwise_select w roots s) fun {p} => ?_
    rw [mem_select h, mem_select h, spelled_iff h hagree, spelled_iff h fun r hr r' hr' =>
      hagree r ((hroots r).1 hr) r' ((hroots r').1 hr')]
    simp only [hroots]

/-- A directory `a` with a Swift file in it. -/
def oneSource : Workspace :=
  ⟨.directory [("a".toList, .directory [("b.swift".toList, .file "".toUTF8)])], []⟩

/-- Of two roots that lead to one file the first says how it is spelled. -/
theorem first_root_spells : oneSource.tree.WellFormed ∧
    ⟨"a/b.swift".toList⟩ ∈ select oneSource [⟨"./a".toList⟩, ⟨"a//b.swift".toList⟩] {} ∧
    ⟨"a//b.swift".toList⟩ ∉ select oneSource [⟨"./a".toList⟩, ⟨"a//b.swift".toList⟩] {} := by
  have hwell : oneSource.tree.WellFormed :=
    .directory (by decide) (by decide) (List.forall_mem_singleton.2
      (.directory (by decide) (by decide) (List.forall_mem_singleton.2 (.file _))))
  have hmem := (select_exact hwell [⟨"./a".toList⟩, ⟨"a//b.swift".toList⟩] {}).2.1
  have hfirst : Candidate oneSource ⟨"./a".toList⟩ ⟨"a/b.swift".toList⟩ :=
    @Candidate.below _ _ ["a".toList] ["b.swift".toList] rfl (by decide) ⟨_, rfl⟩ (by decide)
  refine ⟨hwell, (hmem _).2 ⟨⟨[], _, _, rfl, hfirst, by simp⟩, by decide +kernel, .inl rfl,
    by simp⟩, fun hsecond => ?_⟩
  obtain ⟨⟨before, root, after, hroots, hcandidate, hbefore⟩, -⟩ := (hmem _).1 hsecond
  rcases before with _ | ⟨r, before⟩
  · -- the first root has no second spelling
    obtain ⟨rfl, -⟩ := List.cons.inj hroots
    exact absurd (hfirst.eq_of_steps hcandidate hwell (by decide)) (by decide)
  · obtain ⟨rfl, -⟩ := List.cons.inj hroots
    exact hbefore _ List.mem_cons_self _ hfirst (by decide)

end Selection

end SwiftTuples
