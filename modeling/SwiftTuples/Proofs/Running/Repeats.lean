import Mathlib.Data.List.Pairwise
import SwiftTuples.Proofs.Running.Isolation
/-!
# Files that are selected twice

Where roots are relative and never go up, the path of a file is the names that lead to it, with a
stay at its start or without. The walk writes no stay, so a path that begins with one is a root, as
it is written. Such a root is told apart from the same path without the stay, which a walk or
another root may find, and both are then selected (`selected_once_iff`). That is the one way in
which a file is reported on twice.
-/

namespace SwiftTuples

namespace Path

/-- The name that a step says. -/
def Step.name? : Step → Option Text
  | .root | .here | .up => none
  | .name n => some n

/-- The names that a path says. -/
def names (p : Path) : List Text := p.steps.filterMap Step.name?

/-- A relative path that never goes up. -/
def Descends (p : Path) : Prop := .root ∉ p.steps ∧ .up ∉ p.steps

instance : DecidablePred Descends := fun p =>
  inferInstanceAs (Decidable (.root ∉ p.steps ∧ .up ∉ p.steps))

variable {p q : Path}

/-- Steps that are all stays and names are told by their names, but for the stays. -/
theorem filter_steps_of_names {steps : List Step} (hroot : .root ∉ steps) (hup : .up ∉ steps) :
    steps.filter (· != .here) = (steps.filterMap Step.name?).map .name := by
  induction steps with
  | nil => rfl
  | cons step steps ih =>
    rw [List.mem_cons, not_or] at hroot hup
    have hrest := ih hroot.2 hup.2
    cases step with
    | root => exact absurd rfl hroot.1
    | up => exact absurd rfl hup.1
    | here => exact hrest
    | name n =>
      rw [List.filter_cons_of_pos (by simp), hrest]
      rfl

theorem Descends.filter_steps (h : p.Descends) :
    p.steps.filter (· != .here) = p.names.map .name := filter_steps_of_names h.1 h.2

theorem Descends.isAbsolute (h : p.Descends) : p.isAbsolute = false := by
  refine Bool.eq_false_iff.2 fun habsolute => h.1 ?_
  rw [steps_eq, lead, if_pos habsolute]
  exact List.mem_cons_self

/-- Only the first step is a stay. -/
theorem steps_of_here_mem (h : .here ∈ p.steps) :
    p.steps = .here :: p.steps.filter (· != .here) := by
  rw [steps_eq] at h ⊢
  have hlead : p.lead = [.here] :=
    (List.mem_append.1 h).elim lead_of_here_mem fun honward => absurd honward here_not_mem_onward
  rw [hlead, List.filter_append, filter_stays here_not_mem_onward]
  rfl

/-- Paths of the same steps but for stays are the same, or one of them is the other after a
stay. -/
theorem steps_cases (h : p.steps.filter (· != .here) = q.steps.filter (· != .here)) :
    p.steps = q.steps ∨ p.steps = .here :: q.steps ∨ q.steps = .here :: p.steps := by
  by_cases hp : .here ∈ p.steps
  · by_cases hq : .here ∈ q.steps
    · rw [steps_of_here_mem hp, steps_of_here_mem hq, h]
      exact .inl rfl
    · rw [steps_of_here_mem hp, h, filter_stays hq]
      exact .inr (.inl rfl)
  · by_cases hq : .here ∈ q.steps
    · rw [steps_of_here_mem hq, ← h, filter_stays hp]
      exact .inr (.inr rfl)
    · rw [← filter_stays hp, ← filter_stays hq, h]
      exact .inl rfl

end Path

namespace Workspace

variable {w : Workspace} {p : Path} {place goal pieces : List Text} {piece : Text}

theorem stepFrom_eq_append (h : w.stepFrom place piece = .ok goal)
    (hup : Path.Step.ofPiece? piece ≠ some .up) :
    goal = place ++ ((Path.Step.ofPiece? piece).bind Path.Step.name?).toList := by
  unfold stepFrom at h
  split at h
  · split at h
    · next hpiece => exact absurd hpiece hup
    · next n hpiece =>
      split at h
      · rw [hpiece]
        exact (Except.ok.inj h).symm
      · cases h
    · next _ hname =>
      obtain rfl := Except.ok.inj h
      cases hpiece : Path.Step.ofPiece? piece with
      | none => simp
      | some step =>
        cases step with
        | name n => exact absurd hpiece (hname n)
        | root | here | up => simp [Path.Step.name?]
  · cases h
  · cases h

/-- Without a step up following leads down the names that are said. -/
theorem follow_eq_append (h : w.follow place pieces = .ok goal)
    (hup : .up ∉ pieces.filterMap Path.Step.ofPiece?) :
    goal = place ++ (pieces.filterMap Path.Step.ofPiece?).filterMap Path.Step.name? := by
  induction pieces generalizing place with
  | nil => simpa [follow] using h.symm
  | cons piece pieces ih =>
    rw [follow_cons] at h
    cases hstep : w.stepFrom place piece with
    | error e =>
      rw [hstep] at h
      cases h
    | ok next =>
      rw [hstep] at h
      have hpiece : Path.Step.ofPiece? piece ≠ some .up := fun heq =>
        hup (by rw [List.filterMap_cons_some heq]; exact List.mem_cons_self)
      have hrest := ih h fun hmem => hup (List.mem_filterMap.2
        ((List.mem_filterMap.1 hmem).imp fun _ h => ⟨List.mem_cons_of_mem _ h.1, h.2⟩))
      rw [hrest, stepFrom_eq_append hstep hpiece, List.append_assoc]
      cases hname : Path.Step.ofPiece? piece with
      | none => simp [hname]
      | some step => cases step <;> simp [hname, List.filterMap_cons, Path.Step.name?]

/-- **A relative path that never goes up leads to the place of its names.** -/
theorem locate_eq_append (h : w.locate p = .ok place) (hp : p.Descends) :
    place = w.here ++ p.names := by
  have hup : .up ∉ p.pieces.filterMap Path.Step.ofPiece? := fun hmem =>
    hp.2 (by rw [Path.steps_eq]; exact List.mem_append_right _ hmem)
  rw [locate_eq (text_ne_nil_of_locate h), start, hp.isAbsolute] at h
  have hlead : p.lead.filterMap Path.Step.name? = [] := by
    unfold Path.lead
    split
    · rfl
    · split <;> rfl
  rw [follow_eq_append h hup, Path.names, Path.steps_eq, List.filterMap_append, hlead]
  rfl

end Workspace

namespace Selection

variable {w : Workspace} {root p q : Path} {roots : List Path} {s : Settings} {place : List Text}

/-- A candidate that begins with a stay is a root. -/
theorem Candidate.of_here_mem (hp : Candidate w root p) (h : w.tree.WellFormed)
    (hhere : .here ∈ p.steps) : p = root ∧ w.isFile root := by
  cases hp with
  | asWritten hfile => exact ⟨rfl, hfile⟩
  | below hroot hne hfile =>
    rw [Candidate.steps_eq h hroot hfile] at hhere
    simp at hhere

theorem Candidate.descends (hp : Candidate w root p) (h : w.tree.WellFormed)
    (hroot : root.Descends) : p.Descends := by
  cases hp with
  | asWritten => exact hroot
  | below hplace hne hfile =>
    rw [Path.Descends, Candidate.steps_eq h hplace hfile]
    refine ⟨fun hmem => hroot.1 ?_, fun hmem => hroot.2 ?_⟩ <;> simpa using hmem

section

variable (h : w.tree.WellFormed) (hroots : ∀ root ∈ roots, root.Descends)
include h

/-- A selected path is a candidate of a root. -/
theorem exists_root (hp : p ∈ select w roots s) : ∃ root ∈ roots, Candidate w root p := by
  obtain ⟨⟨_, root, _, rfl, hp, -⟩, -⟩ := (mem_select h).1 hp
  exact ⟨root, by simp, hp⟩

/-- Selected paths are told apart by their steps. -/
theorem eq_of_mem_select (hp : p ∈ select w roots s) (hq : q ∈ select w roots s)
    (hsteps : p.steps = q.steps) : p = q := by
  have hp := (find?_flatMap_candidates h).2 ((mem_select h).1 hp).1
  have hq := (find?_flatMap_candidates h).2 ((mem_select h).1 hq).1
  have hsame : (fun r : Path => r.same p) = fun r => r.same q := by
    funext r
    rw [Bool.eq_iff_iff, Path.same_iff, Path.same_iff, hsteps]
  rw [hsame, hq] at hp
  exact (Option.some.inj hp).symm

include hroots

theorem descends_of_mem_select (hp : p ∈ select w roots s) : p.Descends := by
  obtain ⟨root, hmem, hp⟩ := exists_root h hp
  exact hp.descends h (hroots root hmem)

/-- **Two selected paths of one file differ by a stay.** -/
theorem steps_of_locate_eq (hp : p ∈ select w roots s) (hq : q ∈ select w roots s)
    (hlocate : w.locate p = w.locate q) :
    p = q ∨ p.steps = .here :: q.steps ∨ q.steps = .here :: p.steps := by
  obtain ⟨place, _, hplace, -⟩ := locate_of_mem_select h hp
  have hdown := descends_of_mem_select h hroots hp
  have hdown' := descends_of_mem_select h hroots hq
  have hnames : p.names = q.names := List.append_cancel_left
    ((Workspace.locate_eq_append hplace hdown).symm.trans
      (Workspace.locate_eq_append (hlocate.symm.trans hplace) hdown'))
  have hfilter : p.steps.filter (· != .here) = q.steps.filter (· != .here) := by
    rw [hdown.filter_steps, hdown'.filter_steps, hnames]
  exact (Path.steps_cases hfilter).imp_left (eq_of_mem_select h hp hq)

/-- Two selected paths that differ by a stay are of one file. -/
theorem locate_eq_of_steps (hp : p ∈ select w roots s) (hq : q ∈ select w roots s)
    (hsteps : p.steps = .here :: q.steps) : w.locate p = w.locate q := by
  obtain ⟨place, _, hplace, -⟩ := locate_of_mem_select h hp
  obtain ⟨place', _, hplace', -⟩ := locate_of_mem_select h hq
  have hnames : p.names = q.names := by
    rw [Path.names, hsteps]
    rfl
  rw [hplace, hplace', Workspace.locate_eq_append hplace (descends_of_mem_select h hroots hp),
    Workspace.locate_eq_append hplace' (descends_of_mem_select h hroots hq), hnames]

/-- Every file is selected once if no root after a stay is selected without it as well. -/
theorem pairwise_locate_iff : (select w roots s).Pairwise (w.locate · ≠ w.locate ·) ↔
    ∀ root ∈ roots, w.isFile root → root ∈ select w roots s →
      ∀ q ∈ select w roots s, root.steps ≠ .here :: q.steps := by
  constructor
  · intro hpairwise root _ _ hroot q hq hsteps
    have hne : root ≠ q := fun heq => by simp [heq] at hsteps
    have : Std.Symm fun p q => w.locate p ≠ w.locate q := ⟨fun _ _ => Ne.symm⟩
    exact hpairwise.forall hroot hq hne (locate_eq_of_steps h hroots hroot hq hsteps)
  · intro honce
    -- a path that is another one after a stay is a root that is a file
    have hstay : ∀ p q, p ∈ select w roots s → q ∈ select w roots s →
        p.steps ≠ .here :: q.steps := by
      intro p q hp hq hsteps
      obtain ⟨root, hmem, hcandidate⟩ := exists_root h hp
      obtain ⟨rfl, hfile⟩ := hcandidate.of_here_mem h (by simp [hsteps])
      exact honce p hmem hfile hp q hq hsteps
    refine (pairwise_select w roots s).imp_of_mem fun {p q} hp hq hbefore hlocate => ?_
    rcases steps_of_locate_eq h hroots hp hq hlocate with rfl | hsteps | hsteps
    · exact irrefl_of Path.Before p hbefore
    · exact hstay p q hp hq hsteps
    · exact hstay q p hq hp hsteps

end

/-- The findings of a file that is selected once are counted once. -/
theorem ownFindings_of_pairwise
    (honce : (select w roots s).Pairwise (w.locate · ≠ w.locate ·))
    (hp : p ∈ select w roots s) (hplace : w.locate p = .ok place) :
    ownFindings w place ((select w roots s).map (.ofFile w s)) =
      (FileReport.ofFile w s p).findings.length := by
  obtain ⟨before, after, heq⟩ := List.append_of_mem hp
  rw [heq] at honce ⊢
  obtain ⟨-, hcons, hbefore⟩ := List.pairwise_append.1 honce
  have hnone : ∀ ps : List Path, (∀ q ∈ ps, w.locate q ≠ w.locate p) →
      (ps.map (FileReport.ofFile w s)).filter (fun r => w.locate r.path = .ok place) = [] := by
    intro ps hps
    simp only [List.filter_eq_nil_iff, List.forall_mem_map, FileReport.path_ofFile,
      decide_eq_true_eq, ← hplace]
    exact hps
  have hbelow := hnone before fun q hq => hbefore q hq p List.mem_cons_self
  have habove := hnone after fun q hq => ((List.pairwise_cons.1 hcons).1 q hq).symm
  rw [ownFindings, List.map_append, List.map_cons, List.filter_append, hbelow, List.nil_append,
    List.filter_cons_of_pos (by simp [hplace]), habove]
  simp

/-- **A file is selected once, but for a root after a stay.** Where roots are relative and never go
up, two selected paths of one file are alike but for a stay at the start of one of them. So all
files are selected once exactly if no root is a file that begins with a stay and is selected without
it as well, and then the findings of each file are counted once. -/
theorem selected_once_iff (h : w.tree.WellFormed) (hroots : ∀ root ∈ roots, root.Descends)
    (s : Settings) :
    (∀ p ∈ select w roots s, ∀ q ∈ select w roots s, w.locate p = w.locate q →
      p = q ∨ p.steps = .here :: q.steps ∨ q.steps = .here :: p.steps) ∧
    ((select w roots s).Pairwise (w.locate · ≠ w.locate ·) ↔
      ∀ root ∈ roots, w.isFile root → root ∈ select w roots s →
        ∀ q ∈ select w roots s, root.steps ≠ .here :: q.steps) ∧
    ((select w roots s).Pairwise (w.locate · ≠ w.locate ·) →
      ∀ p ∈ select w roots s, ∀ place, w.locate p = .ok place →
        ownFindings w place ((select w roots s).map (.ofFile w s)) =
          (FileReport.ofFile w s p).findings.length) :=
  ⟨fun _ hp _ hq => steps_of_locate_eq h hroots hp hq, pairwise_locate_iff h hroots,
    fun honce _ hp _ => ownFindings_of_pairwise honce hp⟩

/-- Swift files that are found in order are selected in this order. -/
theorem select_of_sorted (ps : List Path) (hfound : (roots.flatMap fun root =>
      (candidates w root).toOption.getD []).filter isSource = ps)
    (hps : ps.Pairwise (Path.comesBy · ·)) :
    select w roots s = (dropRepeats ps).filter fun p => s.admits (String.ofList p.slashed) := by
  rw [select, hfound, arrange, List.mergeSort_of_pairwise hps]

/-- A Swift file with a large tuple in it. -/
def oneTuple : Workspace :=
  ⟨.directory [("a.swift".toList, .file "let a: (Int, Int, Int)".toUTF8)], []⟩

theorem wellFormed_oneTuple : oneTuple.tree.WellFormed :=
  .directory (by decide) (by decide) (List.forall_mem_singleton.2 (.file _))

/-- A file that a walk finds and that is named as well is reported on once. -/
theorem named_file_selected_once :
    let roots : List Path := [⟨".".toList⟩, ⟨"a.swift".toList⟩]
    oneTuple.tree.WellFormed ∧ (∀ root ∈ roots, root.Descends) ∧
      (select oneTuple roots {}).Pairwise (oneTuple.locate · ≠ oneTuple.locate ·) ∧
      ownFindings oneTuple ["a.swift".toList]
        ((select oneTuple roots {}).map (.ofFile oneTuple {})) = 1 := by
  intro roots
  have hroots : ∀ root ∈ roots, root.Descends := by decide
  obtain ⟨-, hiff, hcount⟩ := selected_once_iff wellFormed_oneTuple hroots {}
  have honce : (select oneTuple roots {}).Pairwise (oneTuple.locate · ≠ oneTuple.locate ·) := by
    refine hiff.2 fun root hroot hfile _ q _ hsteps => ?_
    rcases List.mem_cons.1 hroot with rfl | hroot
    · exact absurd hfile (by decide +kernel)
    · obtain rfl := List.mem_singleton.1 hroot
      have hfirst := congrArg List.head? hsteps
      rw [List.head?_cons] at hfirst
      exact absurd hfirst (by decide +kernel)
  have hmem : ⟨"a.swift".toList⟩ ∈ select oneTuple roots {} := by
    rw [select_of_sorted [⟨"a.swift".toList⟩, ⟨"a.swift".toList⟩] (by decide +kernel)
      (by decide +kernel)]
    decide +kernel
  exact ⟨wellFormed_oneTuple, hroots, honce, (hcount honce _ hmem _ rfl).trans (by decide +kernel)⟩

/-- **A root after a stay is selected beside the walked file.** Both are the same file, and its
finding is counted twice. -/
theorem stay_selected_twice :
    let roots : List Path := [⟨"./a.swift".toList⟩, ⟨".".toList⟩]
    oneTuple.tree.WellFormed ∧ (∀ root ∈ roots, root.Descends) ∧
      select oneTuple roots {} = [⟨"./a.swift".toList⟩, ⟨"a.swift".toList⟩] ∧
      oneTuple.locate ⟨"./a.swift".toList⟩ = oneTuple.locate ⟨"a.swift".toList⟩ ∧
      ownFindings oneTuple ["a.swift".toList]
        ((select oneTuple roots {}).map (.ofFile oneTuple {})) = 2 ∧
      (FileReport.ofFile oneTuple {} ⟨"a.swift".toList⟩).findings.length = 1 := by
  intro roots
  have hselect : select oneTuple roots {} = [⟨"./a.swift".toList⟩, ⟨"a.swift".toList⟩] := by
    rw [select_of_sorted [⟨"./a.swift".toList⟩, ⟨"a.swift".toList⟩] (by decide +kernel)
      (by decide +kernel)]
    decide +kernel
  refine ⟨wellFormed_oneTuple, by decide, hselect, by decide +kernel, ?_, by decide +kernel⟩
  rw [hselect]
  decide +kernel

end Selection

end SwiftTuples
