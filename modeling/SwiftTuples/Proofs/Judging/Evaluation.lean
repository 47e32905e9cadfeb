import SwiftTuples.Proofs.Judging.Order
import SwiftTuples.Rule
/-!
# What a rule says of observations

A rule says one thing of each observation that triggers one of its tiers and nothing of any other
(`Rule.evaluate_exact`). The tiers may stand in any order, be repeated or contradict each other;
the first that an observation triggers decides. What is said comes by offset, and observations at
one offset are taken in the order in which they were made, so nothing else of their order matters.
-/

namespace SwiftTuples

open Observation

namespace Rule

variable {r : Rule} {o : Observation} {v : Violation}

/-! ## One observation -/

/-- The observation has more members than the limit of the tier and is not exempt from it. -/
def Triggers (r : Rule) (o : Observation) (t : Tier) : Prop :=
  t.limit < o.members ∧
    match r.exemption with
    | .allTiers => o.labelled ≠ o.members
    | .exactLimit => ¬ (o.labelled = o.members ∧ o.members = t.limit)

/-- The violation is what the rule says of the observation: it stands where the observation does,
bears the message of the rule, and is as severe as the first tier that the observation triggers. -/
structure Reports (r : Rule) (o : Observation) (v : Violation) : Prop where
  position : v.position = o.position
  message : v.message = r.message
  severity : ∃ before t after, r.tiers = before ++ t :: after ∧ r.Triggers o t ∧
    (∀ u ∈ before, ¬ r.Triggers o u) ∧ v.severity = t.severity

theorem exceeds_iff {t : Tier} : r.exceeds o t.limit ↔ r.Triggers o t := by
  unfold exceeds Triggers Observation.fullyLabelled
  cases r.exemption with
  | allTiers => simp
  | exactLimit => simp [imp_iff_not_or]

instance (r : Rule) (o : Observation) (t : Tier) : Decidable (r.Triggers o t) :=
  decidable_of_iff _ exceeds_iff

/-- The observation triggers some tier. -/
def TriggersSome (r : Rule) (o : Observation) : Prop := ∃ t ∈ r.tiers, r.Triggers o t

instance (r : Rule) (o : Observation) : Decidable (r.TriggersSome o) :=
  inferInstanceAs (Decidable (∃ t ∈ r.tiers, r.Triggers o t))

theorem judge_eq_some (h : r.judge o = some v) : r.Reports o v := by
  obtain ⟨t, hfind, rfl⟩ := Option.map_eq_some_iff.1 h
  obtain ⟨htriggers, before, after, htiers, hbefore⟩ := List.find?_eq_some_iff_append.1 hfind
  refine ⟨rfl, rfl, before, t, after, htiers, exceeds_iff.1 htriggers, fun u hu hu' => ?_, rfl⟩
  simpa [exceeds_iff.2 hu'] using hbefore u hu

theorem isSome_judge_iff : (r.judge o).isSome ↔ r.TriggersSome o := by
  rw [judge, Option.isSome_map, List.find?_isSome]
  exact exists_congr fun t => and_congr_right fun _ => exceeds_iff

/-! ## All of them -/

theorem evaluate_eq (r : Rule) (os : List Observation) :
    r.evaluate os = (inOrder os).filterMap r.judge := rfl

/-- Judging a list says one thing of each observation that triggers a tier, in their order. -/
theorem forall₂_filterMap_judge (r : Rule) (os : List Observation) :
    List.Forall₂ r.Reports (os.filter r.TriggersSome) (os.filterMap r.judge) := by
  induction os with
  | nil => exact .nil
  | cons o os ih =>
    cases hjudge : r.judge o with
    | none =>
      have hnone : ¬ r.TriggersSome o := by simp [← isSome_judge_iff, hjudge]
      rw [List.filterMap_cons_none hjudge, List.filter_cons_of_neg (by simpa using hnone)]
      exact ih
    | some v =>
      have hsome : r.TriggersSome o := by simp [← isSome_judge_iff, hjudge]
      rw [List.filterMap_cons_some hjudge, List.filter_cons_of_pos (by simpa using hsome)]
      exact .cons (judge_eq_some hjudge) ih

/-- What is said of observations in order comes by offset. -/
theorem ordered_filterMap_judge (r : Rule) {os : List Observation} (h : Ordered os) :
    (os.filterMap r.judge).Pairwise fun v w => v.position ≤ w.position := by
  refine h.filterMap r.judge fun a b hle v hv w hw => ?_
  rw [(judge_eq_some hv).position, (judge_eq_some hw).position]
  exact hle

/-- **Each observation that triggers a tier is reported once, and no other is.** The violations
come by offset, those at one offset in the order of their observations; and any rearrangement of the
observations that keeps their order at each offset gives the same violations. -/
theorem evaluate_exact (r : Rule) (os : List Observation) :
    (∃ arranged, Rearranges arranged os ∧ Ordered arranged ∧
      List.Forall₂ r.Reports (arranged.filter r.TriggersSome) (r.evaluate os)) ∧
    ((r.evaluate os).Pairwise fun v w => v.position ≤ w.position) ∧
    ∀ as, Rearranges as os → r.evaluate as = r.evaluate os := by
  -- the arrangement is the sorted list, which is the same for all rearrangements
  refine ⟨⟨inOrder os, rearranges_inOrder os, ordered_inOrder os, ?_⟩, ?_, fun as h => ?_⟩
  · exact forall₂_filterMap_judge r (inOrder os)
  · exact ordered_filterMap_judge r (ordered_inOrder os)
  · rw [evaluate_eq, evaluate_eq, inOrder_eq_of_rearranges h]

/-- Tiers that are repeated and out of order, and two observations at one offset, of which the
later one stands in front of an earlier place. -/
theorem rearranged_pair_evaluates_alike :
    let r : Rule := ⟨[⟨.warning, 3⟩, ⟨.error, 2⟩, ⟨.warning, 3⟩], .allTiers⟩
    Rearranges [⟨4, 3, 1⟩, ⟨9, 4, 0⟩, ⟨9, 3, 2⟩] [⟨9, 4, 0⟩, ⟨9, 3, 2⟩, ⟨4, 3, 1⟩] ∧
      r.evaluate [⟨4, 3, 1⟩, ⟨9, 4, 0⟩, ⟨9, 3, 2⟩] =
        r.evaluate [⟨9, 4, 0⟩, ⟨9, 3, 2⟩, ⟨4, 3, 1⟩] := by
  intro r
  have h : Rearranges [⟨4, 3, 1⟩, ⟨9, 4, 0⟩, ⟨9, 3, 2⟩] [⟨9, 4, 0⟩, ⟨9, 3, 2⟩, ⟨4, 3, 1⟩] := by
    refine ⟨by decide, fun p => ?_⟩
    by_cases hp : p = 9
    · subst hp
      decide
    · simp [List.filter_cons, show ¬ 9 = p from fun h => hp h.symm]
  exact ⟨h, (evaluate_exact r _).2.2 _ h⟩

end Rule

end SwiftTuples
