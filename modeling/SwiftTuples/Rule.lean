import SwiftTuples.Tuple
/-!
# The rule about large tuples

A tier pairs a number of members with the severity of exceeding it. Tiers are asked in order and
the first that an observation exceeds decides. A tuple whose members all have labels is exempt,
from every tier or only where its size is the tier's limit.
-/

namespace SwiftTuples

/-- How grave a violation is. -/
inductive Severity where
  | warning
  | error
deriving DecidableEq, Repr

/-- The severity in words. -/
def Severity.text : Severity → String
  | warning => "warning"
  | error => "error"

/-- Tuples of more than `limit` members are reported with `severity`. -/
structure Tier where
  severity : Severity
  limit : Nat
deriving DecidableEq, Repr

/-- How far the exemption of labelled tuples reaches. -/
inductive Exemption where
  /-- A fully labelled tuple exceeds no tier. -/
  | allTiers
  /-- A fully labelled tuple is exempt from a tier whose limit it has exactly. -/
  | exactLimit
deriving DecidableEq, Repr

/-- A tuple that is too large. -/
structure Violation where
  position : Nat
  severity : Severity
  message : String
deriving DecidableEq, Repr

/-- The name of the rule in reports. -/
def ruleName : String := "large_tuple"

/-- Tiers in the order in which they are asked, and the exemption. -/
structure Rule where
  tiers : List Tier
  exemption : Exemption
deriving DecidableEq, Repr

namespace Rule

/-- The first of the tiers with the least limit. -/
def leastTier : List Tier → Option Tier
  | [] => none
  | t :: rest =>
    match leastTier rest with
    | some u => some (if u.limit < t.limit then u else t)
    | none => some t

/-- The limit that messages name: that of the first warning tier, else the least. -/
def quotedLimit (tiers : List Tier) : Nat :=
  (((tiers.find? (·.severity = .warning)).or (leastTier tiers)).map (·.limit)).getD 0

/-- The message of every violation. -/
def message (r : Rule) : String :=
  "Tuples should have at most " ++ toString (quotedLimit r.tiers) ++
    " members or have all members labelled"

/-- The observation exceeds a limit and is not exempt. -/
def exceeds (r : Rule) (o : Observation) (limit : Nat) : Bool :=
  match r.exemption with
  | .allTiers => limit < o.members && !o.fullyLabelled
  | .exactLimit => limit < o.members && !(o.fullyLabelled && o.members == limit)

/-- The violation that an observation is, if it exceeds a tier. -/
def judge (r : Rule) (o : Observation) : Option Violation :=
  (r.tiers.find? fun t => r.exceeds o t.limit).map fun t => ⟨o.position, t.severity, r.message⟩

/-- The violations among observations, by position; those at one position keep their order. -/
def evaluate (r : Rule) (observations : List Observation) : List Violation :=
  (observations.mergeSort fun a b => decide (a.position ≤ b.position)).filterMap r.judge

/-- The violations of a file, in source order. -/
def validate (r : Rule) (file : SourceFile) : List Violation := r.evaluate file.observations

end Rule

end SwiftTuples
