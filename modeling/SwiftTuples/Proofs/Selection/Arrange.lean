import Mathlib.Data.List.Sort
import SwiftTuples.Proofs.Files.Steps
import SwiftTuples.Selection
/-!
# Paths in order, each once

Sorting is stable, so among the spellings of one path the earliest comes first, and it is the one
that stays (`mem_arrange`). What stays is strictly in order (`pairwise_arrange`), so two
arrangements are the same when the same paths are in them.
-/

namespace SwiftTuples

namespace Selection

variable {p q : Path} {ps qs : List Path}

/-! ## Repeats among sorted paths -/

theorem dropRepeats_sublist (ps : List Path) : (dropRepeats ps).Sublist ps := by
  induction ps with
  | nil => exact .slnil
  | cons p ps ih => exact (((List.dropWhile_sublist _).trans ih).cons_cons p)

/-- In front of paths in order, those with the steps of `p` are all of them. -/
theorem dropWhile_same (hp : ∀ q ∈ ps, p.comesBy q) (h : ps.Pairwise (Path.comesBy · ·)) :
    ps.dropWhile (·.same p) = ps.filter (!·.same p) := by
  induction ps with
  | nil => rfl
  | cons q ps ih =>
    obtain ⟨hq, hps⟩ := List.pairwise_cons.1 h
    by_cases hsame : q.same p
    · rw [List.dropWhile_cons, if_pos hsame, List.filter_cons_of_neg (by simpa using hsame)]
      exact ih (fun r hr => hp r (List.mem_cons_of_mem _ hr)) hps
    · -- what follows comes later still
      have hlater : ∀ r ∈ q :: ps, !r.same p := by
        intro r hr
        have hbefore : p.Before q :=
          Path.before_of_comesBy (hp q List.mem_cons_self) (Path.same_comm ▸ hsame)
        rcases List.mem_cons.1 hr with rfl | hr
        · simpa using hsame
        · have hkey := (Path.key_lt_iff.2 hbefore).trans_le (Path.comesBy_iff.1 (hq r hr))
          simp only [Bool.not_eq_true', Path.same, beq_eq_false_iff_ne]
          exact hkey.ne'
      rw [List.dropWhile_cons, if_neg hsame, List.filter_eq_self.2 hlater]

theorem dropRepeats_cons (h : (p :: ps).Pairwise (Path.comesBy · ·)) :
    dropRepeats (p :: ps) = p :: (dropRepeats ps).filter (!·.same p) := by
  obtain ⟨hp, hps⟩ := List.pairwise_cons.1 h
  have hsub := dropRepeats_sublist ps
  rw [dropRepeats, dropWhile_same (fun q hq => hp q (hsub.subset hq)) (hps.sublist hsub)]

/-- Of sorted paths those stay that are the first of their steps. -/
theorem mem_dropRepeats (h : ps.Pairwise (Path.comesBy · ·)) :
    p ∈ dropRepeats ps ↔ ps.find? (·.same p) = some p := by
  induction ps with
  | nil => simp [dropRepeats]
  | cons q ps ih =>
    rw [dropRepeats_cons h, List.mem_cons, List.mem_filter, ih (List.pairwise_cons.1 h).2,
      Path.same_comm (p := p) (q := q)]
    by_cases hsame : q.same p
    · simp [hsame, eq_comm]
    · have hne : p ≠ q := fun heq => hsame (heq ▸ Path.same_self p)
      simp [hsame, hne]

theorem pairwise_dropRepeats (h : ps.Pairwise (Path.comesBy · ·)) :
    (dropRepeats ps).Pairwise Path.Before := by
  induction ps with
  | nil => exact .nil
  | cons p ps ih =>
    obtain ⟨hp, hps⟩ := List.pairwise_cons.1 h
    rw [dropRepeats_cons h, List.pairwise_cons]
    refine ⟨fun q hq => ?_, (ih hps).filter _⟩
    obtain ⟨hq, hsame⟩ := List.mem_filter.1 hq
    exact Path.before_of_comesBy (hp q ((dropRepeats_sublist ps).subset hq))
      (Path.same_comm ▸ by simpa using hsame)

/-! ## Arranging -/

/-- Sorting keeps the first path of given steps the first. -/
theorem find?_mergeSort (ps : List Path) (p : Path) :
    (ps.mergeSort Path.comesBy).find? (·.same p) = ps.find? (·.same p) := by
  -- paths of the same steps are in order as they stand, so sorting does not part them
  have hclass : (ps.filter (·.same p)).Pairwise (Path.comesBy · ·) := by
    refine List.pairwise_of_forall_mem_list fun q hq r hr => ?_
    have hq := Path.key_eq_iff.2 (Path.same_iff.1 (List.mem_filter.1 hq).2)
    have hr := Path.key_eq_iff.2 (Path.same_iff.1 (List.mem_filter.1 hr).2)
    exact Path.comesBy_iff.2 (hq.trans hr.symm).le
  have hsub : (ps.filter (·.same p)).Sublist (ps.mergeSort Path.comesBy) :=
    List.sublist_mergeSort Path.comesBy_trans Path.comesBy_total hclass List.filter_sublist
  have hfilter : ps.filter (·.same p) = (ps.mergeSort Path.comesBy).filter (·.same p) := by
    have hkept := hsub.filter (·.same p)
    rw [List.filter_filter] at hkept
    simp only [Bool.and_self] at hkept
    exact hkept.eq_of_length ((List.mergeSort_perm ps _).symm.filter _).length_eq
  rw [← List.head?_filter, ← hfilter, List.head?_filter]

/-- **Of several spellings of a path the first stays.** -/
theorem mem_arrange : p ∈ arrange ps ↔ ps.find? (·.same p) = some p := by
  rw [arrange, mem_dropRepeats (List.pairwise_mergeSort Path.comesBy_trans Path.comesBy_total ps),
    find?_mergeSort]

/-- **Arranged paths are strictly in order.** -/
theorem pairwise_arrange (ps : List Path) : (arrange ps).Pairwise Path.Before :=
  pairwise_dropRepeats (List.pairwise_mergeSort Path.comesBy_trans Path.comesBy_total ps)

@[simp] theorem arrange_singleton (p : Path) : arrange [p] = [p] := by
  simp [arrange, dropRepeats]

end Selection

end SwiftTuples
