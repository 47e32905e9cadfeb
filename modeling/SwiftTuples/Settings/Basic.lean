import SwiftTuples.Rule
import SwiftTuples.Pattern
/-!
# Settings

What can be set: the tiers and the exemption of the rule, which paths are looked at, and whether
more is told than findings.
-/

namespace SwiftTuples

/-- The settings of the rule. -/
structure TupleSettings where
  /-- More members than this are a warning. -/
  warning : Nat := 2
  /-- More members than this are an error, unless there is no such limit. -/
  error : Option Nat := some 3
  /-- Tiers that stand in for both limits. -/
  tiers : Option (List Tier) := none
  exemption : Exemption := .allTiers
deriving DecidableEq, Repr

/-- All settings of a run. -/
structure Settings where
  tuples : TupleSettings := {}
  /-- A path has to match one of these, unless there are none. -/
  includes : List Pattern := []
  /-- A path must match none of these. -/
  excludes : List Pattern := []
  verbose : Bool := false

namespace TupleSettings

/-- The tiers in the order in which they are asked: the given ones, or the limit of errors before
that of warnings. -/
def thresholds (s : TupleSettings) : List Tier :=
  match s.tiers with
  | some tiers => tiers
  | none => (s.error.map (Tier.mk .error)).toList ++ [⟨.warning, s.warning⟩]

/-- The rule that the settings say. -/
def rule (s : TupleSettings) : Rule := ⟨s.thresholds, s.exemption⟩

end TupleSettings

/-- The patterns admit the path. -/
def Settings.admits (s : Settings) (path : String) : Bool :=
  (s.includes.isEmpty || s.includes.any (·.occursIn path)) &&
    !s.excludes.any (·.occursIn path)

end SwiftTuples
