import Mathlib.Data.List.Sort
import SwiftTuples.Tuple
/-!
# Observations in order

Observations are sorted by their offsets, and those at one offset keep the order in which they were
made. Both together leave no choice (`eq_of_ordered`): a rearrangement that keeps the order at each
offset is sorted into the same list, and so is a selection before it is sorted or after.
-/

namespace SwiftTuples

namespace Observation

/-- The offsets do not decrease. -/
def Ordered (os : List Observation) : Prop := os.Pairwise fun a b => a.position ≤ b.position

/-- The first list holds the observations of the second; those at one offset have kept their
order. -/
structure Rearranges (as os : List Observation) : Prop where
  perm : as.Perm os
  kept : ∀ p, (as.filter fun o => o.position = p) = os.filter fun o => o.position = p

/-- The observations as a rule takes them. -/
def inOrder (os : List Observation) : List Observation :=
  os.mergeSort fun a b => decide (a.position ≤ b.position)

section Comparison

variable (a b c : Observation)

theorem position_le_trans : decide (a.position ≤ b.position) → decide (b.position ≤ c.position) →
    decide (a.position ≤ c.position) := by
  simpa using Nat.le_trans

theorem position_le_total :
    decide (a.position ≤ b.position) || decide (b.position ≤ a.position) := by
  simpa using Nat.le_total a.position b.position

end Comparison

variable {as bs os : List Observation} {a b : Observation}

namespace Rearranges

theorem symm (h : Rearranges as os) : Rearranges os as :=
  ⟨h.perm.symm, fun p => (h.kept p).symm⟩

theorem trans (h : Rearranges as bs) (h' : Rearranges bs os) : Rearranges as os :=
  ⟨h.perm.trans h'.perm, fun p => (h.kept p).trans (h'.kept p)⟩

/-- A selection of rearranged observations is rearranged likewise. -/
theorem filter (h : Rearranges as os) (q : Observation → Bool) :
    Rearranges (as.filter q) (os.filter q) := by
  refine ⟨h.perm.filter q, fun p => ?_⟩
  rw [List.filter_comm, h.kept p, List.filter_comm]

theorem tail (h : Rearranges (a :: as) (a :: bs)) : Rearranges as bs := by
  refine ⟨h.perm.cons_inv, fun p => ?_⟩
  have hkept := h.kept p
  by_cases hp : a.position = p
  · simpa [hp] using hkept
  · simpa [hp] using hkept

end Rearranges

/-- **There is one list in order.** At the least offset both begin with the same observation, since
what they hold there they hold in the same order. -/
theorem eq_of_ordered (h : Rearranges as bs) (ha : Ordered as) (hb : Ordered bs) : as = bs := by
  induction as generalizing bs with
  | nil => exact h.perm.nil_eq
  | cons a as ih =>
    cases bs with
    | nil => exact h.perm.eq_nil
    | cons b bs =>
      obtain ⟨hleast, has⟩ := List.pairwise_cons.1 ha
      obtain ⟨hleast', hbs⟩ := List.pairwise_cons.1 hb
      have hposition : a.position = b.position := by
        have hle : a.position ≤ b.position := by
          rcases List.mem_cons.1 (h.perm.mem_iff.2 List.mem_cons_self) with heq | hmem
          · rw [heq]
          · exact hleast b hmem
        have hge : b.position ≤ a.position := by
          rcases List.mem_cons.1 (h.perm.mem_iff.1 List.mem_cons_self) with heq | hmem
          · rw [heq]
          · exact hleast' a hmem
        omega
      have hkept := h.kept b.position
      rw [List.filter_cons_of_pos (by simpa using hposition),
        List.filter_cons_of_pos (by simp)] at hkept
      obtain rfl : a = b := (List.cons.inj hkept).1
      rw [ih h.tail has hbs]

theorem ordered_inOrder (os : List Observation) : Ordered (inOrder os) :=
  (List.pairwise_mergeSort position_le_trans position_le_total os).imp of_decide_eq_true

/-- Sorting is stable. -/
theorem rearranges_inOrder (os : List Observation) : Rearranges (inOrder os) os := by
  refine ⟨List.mergeSort_perm os _, fun p => ?_⟩
  -- what is at one offset is in order as it stands, so sorting leaves it so
  have hclass : (os.filter fun o => o.position = p).Pairwise
      fun a b => decide (a.position ≤ b.position) := by
    refine List.pairwise_of_forall_mem_list fun a ha b hb => ?_
    have hpa : a.position = p := by simpa using (List.mem_filter.1 ha).2
    have hpb : b.position = p := by simpa using (List.mem_filter.1 hb).2
    simp [hpa, hpb]
  have hsub : (os.filter fun o => o.position = p).Sublist (inOrder os) :=
    List.sublist_mergeSort position_le_trans position_le_total hclass List.filter_sublist
  have hkept := hsub.filter fun o => o.position = p
  rw [List.filter_filter] at hkept
  simp only [Bool.and_self] at hkept
  exact (hkept.eq_of_length ((List.mergeSort_perm os _).symm.filter _).length_eq).symm

/-- Rearranged observations are sorted into the same list. -/
theorem inOrder_eq_of_rearranges (h : Rearranges as os) : inOrder as = inOrder os :=
  eq_of_ordered (((rearranges_inOrder as).trans h).trans (rearranges_inOrder os).symm)
    (ordered_inOrder as) (ordered_inOrder os)

/-- Selecting before sorting and after it is the same. -/
theorem inOrder_filter (q : Observation → Bool) (os : List Observation) :
    inOrder (os.filter q) = (inOrder os).filter q :=
  eq_of_ordered ((rearranges_inOrder _).trans ((rearranges_inOrder os).filter q).symm)
    (ordered_inOrder _) ((ordered_inOrder os).filter q)

end Observation

end SwiftTuples
