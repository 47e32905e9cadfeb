import Mathlib.Data.List.Forall2
import SwiftTuples.Proofs.Judging.Evaluation
import SwiftTuples.Settings.Basic
/-!
# How grave a tuple is judged

The first tier that an observation triggers decides, so which one does changes with the size of the
tuple and with every limit. Where the tiers of errors stand before those of warnings the first one
is the gravest (`Rule.le_gravity_iff`), and then larger tuples are judged no more mildly, and higher
limits judge no tuple more harshly. Whether anything is said at all is up to the least limit alone,
in whatever order the tiers stand.
-/

namespace SwiftTuples

namespace Severity

/-- Graver severities have the larger number; 0 is left for nothing being said. -/
def grade : Severity → Nat
  | warning => 1
  | error => 2

theorem grade_pos (s : Severity) : 0 < s.grade := by
  cases s <;> decide

theorem grade_le_of_warning {s u : Severity} (h : s = warning → u = warning) :
    u.grade ≤ s.grade := by
  cases s with
  | warning => rw [h rfl]
  | error => cases u <;> decide

end Severity

namespace Rule

variable {r : Rule} {tiers raised : List Tier} {e : Exemption} {o o' : Observation} {t : Tier}

/-- How grave what the rule says of an observation is: nothing, a warning, an error. -/
def gravity (r : Rule) (o : Observation) : Nat :=
  ((r.judge o).map (·.severity.grade)).getD 0

/-- No tier of warnings stands before one of errors. -/
def ErrorsFirst (tiers : List Tier) : Prop :=
  tiers.Pairwise fun t u => t.severity = .warning → u.severity = .warning

instance (tiers : List Tier) : Decidable (ErrorsFirst tiers) :=
  inferInstanceAs (Decidable (tiers.Pairwise _))

/-- The second tiers are the first with some limits raised. -/
def Raised (tiers raised : List Tier) : Prop :=
  List.Forall₂ (fun t u => u.severity = t.severity ∧ t.limit ≤ u.limit) tiers raised

/-- The limits that the settings name without listing tiers are asked errors first. -/
theorem errorsFirst_thresholds {s : TupleSettings} (h : s.tiers = none) :
    ErrorsFirst s.thresholds := by
  rw [TupleSettings.thresholds, h]
  cases s.error with
  | none => exact List.pairwise_singleton _ _
  | some limit => exact List.pairwise_pair.2 fun _ => rfl

/-! ## What an observation triggers -/

/-- A tuple of exactly as many members as a limit does not exceed it, so only the exemption from
every tier takes effect. -/
theorem triggers_iff : Triggers ⟨tiers, e⟩ o t ↔
    t.limit < o.members ∧ (e = .allTiers → ¬ o.fullyLabelled) := by
  cases e with
  | allTiers => simp [Triggers, Observation.fullyLabelled]
  | exactLimit =>
    rw [Triggers]
    refine and_congr_right fun hlt => iff_of_true (fun h => ?_) nofun
    exact absurd h.2 (Nat.ne_of_gt hlt)

/-- More members trigger what fewer do. -/
theorem Triggers.of_le (h : Triggers ⟨tiers, e⟩ o t) (hlabels : o.fullyLabelled = o'.fullyLabelled)
    (hle : o.members ≤ o'.members) : Triggers ⟨tiers, e⟩ o' t := by
  rw [triggers_iff] at h ⊢
  rw [← hlabels]
  exact ⟨lt_of_lt_of_le h.1 hle, h.2⟩

/-- What triggers a tier triggers it at a lower limit. -/
theorem Triggers.of_raised {u : Tier} (h : Triggers ⟨raised, e⟩ o u) (hle : t.limit ≤ u.limit) :
    Triggers ⟨tiers, e⟩ o t := by
  rw [triggers_iff] at h ⊢
  exact ⟨lt_of_le_of_lt hle h.1, h.2⟩

/-! ## The first tier that is triggered -/

theorem gravity_cons : gravity ⟨t :: tiers, e⟩ o =
    if Triggers ⟨tiers, e⟩ o t then t.severity.grade else gravity ⟨tiers, e⟩ o := by
  have hexceeds : exceeds ⟨t :: tiers, e⟩ o t.limit ↔ Triggers ⟨tiers, e⟩ o t := exceeds_iff
  by_cases ht : Triggers ⟨tiers, e⟩ o t
  · simp [gravity, judge, hexceeds.2 ht, ht]
  · have hnot : exceeds ⟨t :: tiers, e⟩ o t.limit = false := by simpa using mt hexceeds.1 ht
    simp only [gravity, judge, List.find?_cons, hnot, Option.map_map, if_neg ht]
    rfl

/-- **Errors first, the first tier is the gravest.** An observation is judged at least as gravely as
a severity exactly when it triggers some tier that is as grave. -/
theorem le_gravity_iff (h : ErrorsFirst tiers) (s : Severity) : s.grade ≤ gravity ⟨tiers, e⟩ o ↔
    ∃ t ∈ tiers, s.grade ≤ t.severity.grade ∧ Triggers ⟨tiers, e⟩ o t := by
  induction tiers with
  | nil => exact iff_of_false (Nat.not_le.2 s.grade_pos) fun ⟨t, ht, _⟩ => nomatch ht
  | cons t tiers ih =>
    obtain ⟨hfirst, hothers⟩ := List.pairwise_cons.1 h
    rw [gravity_cons]
    split
    · next ht =>
      constructor
      · intro hle
        exact ⟨t, List.mem_cons_self, hle, ht⟩
      · rintro ⟨u, hu, hle, -⟩
        -- a later tier is no graver than the first
        rcases List.mem_cons.1 hu with rfl | hu
        · exact hle
        · exact hle.trans (Severity.grade_le_of_warning (hfirst u hu))
    · next ht =>
      rw [ih hothers]
      constructor
      · rintro ⟨u, hu, hle, htriggers⟩
        exact ⟨u, List.mem_cons_of_mem t hu, hle, htriggers⟩
      · rintro ⟨u, hu, hle, htriggers⟩
        rcases List.mem_cons.1 hu with rfl | hu
        · exact absurd htriggers ht
        · exact ⟨u, hu, hle, htriggers⟩

/-- One gravity is at most another if that one reaches every severity that the first reaches. -/
theorem gravity_le_of_reaches {r' : Rule}
    (h : ∀ s : Severity, s.grade ≤ r.gravity o → s.grade ≤ r'.gravity o') :
    r.gravity o ≤ r'.gravity o' := by
  cases hjudge : r.judge o with
  | none => simp [gravity, hjudge]
  | some v =>
    have hgravity : r.gravity o = v.severity.grade := by simp [gravity, hjudge]
    rw [hgravity]
    exact h v.severity hgravity.ge

/-- Larger tuples are judged no more mildly. -/
theorem gravity_le_of_members_le (h : ErrorsFirst tiers)
    (hlabels : o.fullyLabelled = o'.fullyLabelled) (hle : o.members ≤ o'.members) :
    gravity ⟨tiers, e⟩ o ≤ gravity ⟨tiers, e⟩ o' := by
  refine gravity_le_of_reaches fun s hs => ?_
  obtain ⟨t, ht, hgrade, htriggers⟩ := (le_gravity_iff h s).1 hs
  exact (le_gravity_iff h s).2 ⟨t, ht, hgrade, htriggers.of_le hlabels hle⟩

/-- A raised tier is one of the tiers with its limit raised. -/
theorem Raised.exists_of_mem {u : Tier} (h : Raised tiers raised) (hu : u ∈ raised) :
    ∃ t ∈ tiers, u.severity = t.severity ∧ t.limit ≤ u.limit := by
  induction h with
  | nil => cases hu
  | @cons t v tiers raised htier _ ih =>
    rcases List.mem_cons.1 hu with rfl | hu
    · exact ⟨t, List.mem_cons_self, htier⟩
    · obtain ⟨w, hw, hraised⟩ := ih hu
      exact ⟨w, List.mem_cons_of_mem t hw, hraised⟩

/-- Raising limits leaves the severities in their order. -/
theorem Raised.errorsFirst (hraised : Raised tiers raised) (h : ErrorsFirst tiers) :
    ErrorsFirst raised := by
  induction hraised with
  | nil => exact .nil
  | @cons t u tiers raised htier hrest ih =>
    obtain ⟨hfirst, hothers⟩ := List.pairwise_cons.1 h
    refine .cons (fun w hw => ?_) (ih hothers)
    obtain ⟨v, hv, hseverity, -⟩ := Raised.exists_of_mem hrest hw
    rw [htier.1, hseverity]
    exact hfirst v hv

/-- Higher limits judge no tuple more harshly. -/
theorem gravity_le_of_raised (h : ErrorsFirst tiers) (hraised : Raised tiers raised) :
    gravity ⟨raised, e⟩ o ≤ gravity ⟨tiers, e⟩ o := by
  refine gravity_le_of_reaches fun s hs => ?_
  obtain ⟨u, hu, hgrade, htriggers⟩ := (le_gravity_iff (hraised.errorsFirst h) s).1 hs
  obtain ⟨t, ht, hseverity, hle⟩ := hraised.exists_of_mem hu
  exact (le_gravity_iff h s).2 ⟨t, ht, hseverity ▸ hgrade, htriggers.of_raised hle⟩

/-! ## Whether anything is said -/

/-- The least limit decides whether a tuple is reported. -/
theorem isSome_judge_iff_least : (judge ⟨tiers, e⟩ o).isSome ↔
    (∃ least, (tiers.map (·.limit)).min? = some least ∧ least < o.members) ∧
      (e = .allTiers → ¬ o.fullyLabelled) := by
  simp only [isSome_judge_iff, TriggersSome, triggers_iff]
  constructor
  · rintro ⟨t, ht, hlt, hlabels⟩
    refine ⟨?_, hlabels⟩
    cases hleast : (tiers.map (·.limit)).min? with
    | none => simp [List.map_eq_nil_iff.1 (List.min?_eq_none_iff.1 hleast)] at ht
    | some least =>
      have hle : least ≤ t.limit :=
        (List.min?_eq_some_iff.1 hleast).2 _ (List.mem_map_of_mem ht)
      exact ⟨least, rfl, lt_of_le_of_lt hle hlt⟩
  · rintro ⟨⟨least, hleast, hlt⟩, hlabels⟩
    obtain ⟨t, ht, rfl⟩ := List.mem_map.1 (List.min?_eq_some_iff.1 hleast).1
    exact ⟨t, ht, hlt, hlabels⟩

/-- So the order of the tiers does not matter for it. -/
theorem isSome_judge_of_perm {others : List Tier} (h : tiers.Perm others) :
    (judge ⟨tiers, e⟩ o).isSome = (judge ⟨others, e⟩ o).isSome := by
  rw [Bool.eq_iff_iff, isSome_judge_iff, isSome_judge_iff]
  simp only [TriggersSome, triggers_iff, h.mem_iff]

/-- **Severity is monotone.** Where no tier of warnings stands before one of errors, as it is for
the limits that settings name without listing tiers, a tuple with more members is never judged more
mildly than one of fewer, both or neither fully labelled, and raising limits never judges a tuple
more harshly. And whatever the tiers and their order, a tuple is reported exactly when it has more
members than the least limit and is not exempt from every tier by its labels. -/
theorem gravity_monotone (e : Exemption) :
    (∀ s : TupleSettings, s.tiers = none → ErrorsFirst s.thresholds) ∧
    (∀ tiers, ErrorsFirst tiers →
      (∀ o o' : Observation, o.fullyLabelled = o'.fullyLabelled → o.members ≤ o'.members →
        gravity ⟨tiers, e⟩ o ≤ gravity ⟨tiers, e⟩ o') ∧
      ∀ raised, Raised tiers raised → ∀ o, gravity ⟨raised, e⟩ o ≤ gravity ⟨tiers, e⟩ o) ∧
    ∀ tiers o,
      ((judge ⟨tiers, e⟩ o).isSome ↔
        (∃ least, (tiers.map (·.limit)).min? = some least ∧ least < o.members) ∧
          (e = .allTiers → ¬ o.fullyLabelled)) ∧
      ∀ others, tiers.Perm others →
        (judge ⟨tiers, e⟩ o).isSome = (judge ⟨others, e⟩ o).isSome :=
  ⟨fun _ => errorsFirst_thresholds,
    fun _ h => ⟨fun _ _ => gravity_le_of_members_le h, fun _ hraised _ =>
      gravity_le_of_raised h hraised⟩,
    fun _ _ => ⟨isSome_judge_iff_least, fun _ => isSome_judge_of_perm⟩⟩

/-- Errors from four members on and from two on, warnings from one on. The second limit of errors is
raised, a tuple of three is judged next to one of four, and the tiers are turned around. -/
theorem repeated_errors_monotone :
    let tiers : List Tier := [⟨.error, 3⟩, ⟨.error, 1⟩, ⟨.warning, 0⟩]
    let raised : List Tier := [⟨.error, 3⟩, ⟨.error, 5⟩, ⟨.warning, 0⟩]
    ErrorsFirst ({ error := some 1 } : TupleSettings).thresholds ∧
      ErrorsFirst tiers ∧ Raised tiers raised ∧
      gravity ⟨raised, .allTiers⟩ ⟨7, 3, 1⟩ ≤ gravity ⟨raised, .allTiers⟩ ⟨9, 4, 0⟩ ∧
      gravity ⟨raised, .allTiers⟩ ⟨7, 3, 1⟩ ≤ gravity ⟨tiers, .allTiers⟩ ⟨7, 3, 1⟩ ∧
      tiers.Perm tiers.reverse ∧
      (judge ⟨tiers, .allTiers⟩ ⟨7, 3, 1⟩).isSome =
        (judge ⟨tiers.reverse, .allTiers⟩ ⟨7, 3, 1⟩).isSome := by
  intro tiers raised
  have hraised : Raised tiers raised :=
    .cons ⟨rfl, by decide⟩ (.cons ⟨rfl, by decide⟩ (.cons ⟨rfl, by decide⟩ .nil))
  have hperm : tiers.Perm tiers.reverse := by decide
  have hmonotone := gravity_monotone .allTiers
  refine ⟨hmonotone.1 _ rfl, by decide, hraised, ?_, ?_, hperm, ?_⟩
  · exact (hmonotone.2.1 raised (by decide)).1 _ _ (by decide) (by decide)
  · exact (hmonotone.2.1 tiers (by decide)).2 raised hraised _
  · exact (hmonotone.2.2 tiers _).2 _ hperm

end Rule

end SwiftTuples
