import SwiftTuples.Proofs.Judging.Evaluation
/-!
# How far the exemption of labelled tuples reaches

Exempting labelled tuples from every tier is leaving them out beforehand. Exempting them only where
their size is the limit of a tier exempts none: a tuple exceeds a limit by having more members than
it. So the labels that an observation counts say nothing under that policy
(`Rule.exemptions_related`).
-/

namespace SwiftTuples

open Observation

namespace Observation

/-- The observation of a tuple of the same size without labels. -/
def unlabelled (o : Observation) : Observation := { o with labelled := 0 }

/-- Sorting looks at offsets alone. -/
theorem inOrder_map_unlabelled (os : List Observation) :
    inOrder (os.map unlabelled) = (inOrder os).map unlabelled := by
  rw [inOrder, inOrder]
  symm
  apply List.map_mergeSort
  intro a _ b _
  rfl

end Observation

namespace Rule

variable {tiers : List Tier} {o : Observation}

/-- No tuple of exactly as many members as a limit exceeds it. -/
theorem exceeds_exactLimit (limit : Nat) :
    exceeds ⟨tiers, .exactLimit⟩ o limit = decide (limit < o.members) := by
  by_cases hlt : limit < o.members
  · have hne : o.members ≠ limit := by omega
    simp [exceeds, hlt, hne]
  · simp [exceeds, hlt]

theorem exceeds_allTiers (limit : Nat) :
    exceeds ⟨tiers, .allTiers⟩ o limit =
      (!o.fullyLabelled && exceeds ⟨tiers, .exactLimit⟩ o limit) := by
  rw [exceeds_exactLimit, Bool.and_comm]
  rfl

/-- Of a fully labelled tuple nothing is said where it is exempt from every tier. -/
theorem judge_allTiers (tiers : List Tier) (o : Observation) :
    judge ⟨tiers, .allTiers⟩ o =
      if o.fullyLabelled then none else judge ⟨tiers, .exactLimit⟩ o := by
  have hmessage : message ⟨tiers, .allTiers⟩ = message ⟨tiers, .exactLimit⟩ := rfl
  by_cases hlabelled : o.fullyLabelled
  · simp [judge, exceeds_allTiers, hlabelled]
  · simp [judge, exceeds_allTiers, hlabelled, hmessage]

theorem judge_unlabelled (tiers : List Tier) (o : Observation) :
    judge ⟨tiers, .exactLimit⟩ o.unlabelled = judge ⟨tiers, .exactLimit⟩ o := by
  simp only [judge, exceeds_exactLimit]
  rfl

theorem evaluate_unlabelled (tiers : List Tier) (os : List Observation) :
    evaluate ⟨tiers, .exactLimit⟩ (os.map unlabelled) = evaluate ⟨tiers, .exactLimit⟩ os := by
  rw [evaluate_eq, evaluate_eq, inOrder_map_unlabelled, List.filterMap_map]
  exact List.filterMap_congr fun o _ => judge_unlabelled tiers o

/-- **The two exemptions are related exactly.** To exempt labelled tuples from every tier is to
leave them out and exempt only where the size is the limit; and that exemption never takes effect,
whatever labels the observations count. -/
theorem exemptions_related (tiers : List Tier) (os : List Observation) :
    evaluate ⟨tiers, .allTiers⟩ os =
      evaluate ⟨tiers, .exactLimit⟩ (os.filter fun o => !o.fullyLabelled) ∧
    ∀ as : List Observation,
      (as.map fun o => (o.position, o.members)) = (os.map fun o => (o.position, o.members)) →
      evaluate ⟨tiers, .exactLimit⟩ as = evaluate ⟨tiers, .exactLimit⟩ os := by
  constructor
  · rw [evaluate_eq, evaluate_eq, inOrder_filter, List.filterMap_filter]
    refine List.filterMap_congr fun o _ => ?_
    rw [judge_allTiers]
    cases o.fullyLabelled <;> rfl
  · intro as h
    -- offset and size are all that is left of an observation without its labels
    have hview : ∀ os : List Observation, os.map unlabelled =
        (os.map fun o => (o.position, o.members)).map fun x => ⟨x.1, x.2, 0⟩ := by
      intro os
      rw [List.map_map]
      rfl
    rw [← evaluate_unlabelled tiers as, ← evaluate_unlabelled tiers os, hview as, hview os, h]

/-- A tuple of three labelled members and an empty one: with a limit of three and of none, labels
or not. -/
theorem labelled_triple_judged_alike :
    (([⟨7, 3, 3⟩, ⟨2, 0, 0⟩] : List Observation).map fun o => (o.position, o.members)) =
        (([⟨7, 3, 0⟩, ⟨2, 0, 5⟩] : List Observation).map fun o => (o.position, o.members)) ∧
      evaluate ⟨[⟨.error, 3⟩, ⟨.warning, 0⟩], .exactLimit⟩ [⟨7, 3, 3⟩, ⟨2, 0, 0⟩] =
        evaluate ⟨[⟨.error, 3⟩, ⟨.warning, 0⟩], .exactLimit⟩ [⟨7, 3, 0⟩, ⟨2, 0, 5⟩] :=
  ⟨rfl, (exemptions_related _ _).2 _ rfl⟩

end Rule

end SwiftTuples
