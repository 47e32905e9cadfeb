import SwiftTuples.Proofs.Parsing.TupleOrder
import SwiftTuples.Proofs.Reporting.Lines
/-!
# The report of a file

What the report of a text says, from the characters of the text to the findings. Tuples are at
parentheses of the text and come in source order, and the line index keeps the order; so findings
are in the order of their places, and each place has a parenthesis.
-/

namespace SwiftTuples

/-- The node is a tuple type. -/
def Node.isTuple : Node → Bool
  | .type (.tuple ..) => true
  | _ => false

namespace SourceFile

variable {source : Text} {file : SourceFile}

/-- An observation is made of every tuple type of a tree. -/
theorem length_observations (file : SourceFile) :
    file.observations.length = ((Node.file file).preorder 0).countP fun node => node.2.isTuple := by
  rw [observations, Node.observations, List.length_filterMap_eq_countP]
  congr 1
  funext node
  rcases node with ⟨_, _ | _ | t⟩
  · rfl
  · rfl
  · cases t <;> rfl

/-- The tuples of a text that has been read start with some of its parentheses, in their order. -/
theorem sublist_of_parse (h : SourceFile.parse source = .ok file) :
    ∃ tokens, tokenize source = .ok tokens ∧
      (file.observations.map (·.position)).Sublist ((tokens.filter (·.is '(')).map (·.start)) := by
  obtain ⟨tokens, htokens, -, hfile⟩ := SourceFile.parse_eq_ok.1 h
  exact ⟨tokens, htokens, sublist_of_ofTokens hfile⟩

/-- So they come by their offsets. -/
theorem positions_increase (h : SourceFile.parse source = .ok file) :
    (file.observations.map (·.position)).Pairwise (· < ·) := by
  obtain ⟨tokens, htokens, hsub⟩ := sublist_of_parse h
  exact .sublist hsub (List.pairwise_map.2 ((tiles_of_tokenize htokens).starts_increase.filter _))

/-- And each has a parenthesis where it starts. -/
theorem parenthesis_at (h : SourceFile.parse source = .ok file) {o : Observation}
    (ho : o ∈ file.observations) :
    ∃ before after, source = before ++ '(' :: after ∧ before.size = o.position := by
  obtain ⟨tokens, htokens, hsub⟩ := sublist_of_parse h
  obtain ⟨t, ht, hstart⟩ := List.mem_map.1 (hsub.subset (List.mem_map_of_mem ho))
  obtain ⟨hmem, hparen⟩ := List.mem_filter.1 ht
  obtain ⟨before, slice, after, rfl, hbefore, hspells⟩ :=
    (tiles_of_tokenize htokens).written t hmem
  rw [of_decide_eq_true hparen] at hspells
  cases hspells
  exact ⟨before, after, rfl, by rw [← hstart, hbefore, Nat.zero_add]⟩

end SourceFile

namespace Rule

variable (rule : Rule) {file : SourceFile}

/-- Violations are judgements of observations, in their order. -/
theorem validate_eq (h : (file.observations.map (·.position)).Pairwise (· < ·)) :
    rule.validate file = file.observations.filterMap rule.judge := by
  rw [validate, evaluate, List.mergeSort_of_pairwise]
  exact (List.pairwise_map.1 h).imp fun hlt => decide_eq_true hlt.le

/-- A violation is at the observation it is made of. -/
theorem position_of_judge {o : Observation} {v : Violation} (h : rule.judge o = some v) :
    v.position = o.position := by
  obtain ⟨t, -, rfl⟩ := Option.map_eq_some_iff.1 h
  rfl

/-- So violations are at some of the tuples of a file, in their order. -/
theorem sublist_validate (h : (file.observations.map (·.position)).Pairwise (· < ·)) :
    ((rule.validate file).map (·.position)).Sublist (file.observations.map (·.position)) := by
  rw [validate_eq rule h]
  clear h
  induction file.observations with
  | nil => exact .slnil
  | cons o os ih =>
    cases hjudge : rule.judge o with
    | none =>
      rw [List.filterMap_cons_none hjudge, List.map_cons]
      exact ih.cons _
    | some v =>
      rw [List.filterMap_cons_some hjudge, List.map_cons, List.map_cons,
        position_of_judge rule hjudge]
      exact ih.cons_cons _

end Rule

namespace FileReport

/-- What a report says of a text that has been read as the file: its tuples are counted, and the
violations of the rule are found in the order of their places, each at a parenthesis. -/
structure Covers (r : FileReport) (rule : Rule) (source : Text) (file : SourceFile) : Prop where
  failure : r.failure = none
  tupleCount : r.tupleCount = ((Node.file file).preorder 0).countP fun node => node.2.isTuple
  length_le : r.findings.length ≤ r.tupleCount
  ordered : (r.findings.map (·.location)).Pairwise Location.Before
  placed : ∀ f ∈ r.findings, source.Stands '(' f.violation.position f.location
  violations : r.findings.map (·.violation) = rule.validate file

/-- Findings keep their violations. -/
theorem violations_ofViolations (source : Text) (violations : List Violation) :
    (Finding.ofViolations source violations).map (·.violation) = violations := by
  rw [Finding.ofViolations, List.map_map]
  exact List.map_id' violations

/-- Violations by increasing offset are found by increasing places. -/
theorem ordered_ofViolations (source : Text) {violations : List Violation}
    (h : (violations.map (·.position)).Pairwise (· < ·)) :
    ((Finding.ofViolations source violations).map (·.location)).Pairwise Location.Before := by
  rw [Finding.ofViolations, List.map_map, List.pairwise_map]
  exact (List.pairwise_map.1 h).imp (LineIndex.locate_before (Nat.zero_le _))

/-- The report of a text that is read covers it. -/
theorem covers_of_parse (rule : Rule) (path : Path) {source : Text} {file : SourceFile}
    (h : SourceFile.parse source = .ok file) :
    Covers
      { path
        tupleCount := file.observations.length
        findings := Finding.ofViolations source (rule.validate file) } rule source file := by
  have hpositions := SourceFile.positions_increase h
  have hsub := rule.sublist_validate hpositions
  refine ⟨rfl, file.length_observations, ?length, ordered_ofViolations source (.sublist hsub
    hpositions), ?placed, violations_ofViolations source _⟩
  case length => simpa [Finding.ofViolations] using hsub.length_le
  case placed =>
    intro f hf
    obtain ⟨v, hv, rfl⟩ := List.mem_map.1 hf
    obtain ⟨o, ho, hposition⟩ := List.mem_map.1 (hsub.subset (List.mem_map_of_mem hv))
    obtain ⟨before, after, rfl, hbefore⟩ := SourceFile.parenthesis_at h ho
    rw [← hposition, ← hbefore]
    exact LineIndex.stands before '(' after

/-- **A text has one of three reports.** One that bears the directive has an empty report, be it
readable or not. Any other that cannot be read has a report that says why, and nothing else. And
any other that is read has a report that covers it. -/
theorem ofSource_cases (s : Settings) (path : Path) (source : Text) :
    source.BearsDirective ∧ ofSource s path source = { path } ∨
    ¬ source.BearsDirective ∧ (∃ e, SourceFile.parse source = .error e ∧
      ofSource s path source = { path, failure := some e.message }) ∨
    ¬ source.BearsDirective ∧ ∃ file, SourceFile.parse source = .ok file ∧
      (ofSource s path source).path = path ∧
      (ofSource s path source).Covers s.tuples.rule source file := by
  by_cases hbears : source.BearsDirective
  · exact .inl ⟨hbears, if_pos (Text.isIgnored_iff.2 hbears)⟩
  rw [ofSource, if_neg fun h => hbears (Text.isIgnored_iff.1 h)]
  cases hparse : SourceFile.parse source with
  | error e => exact .inr (.inl ⟨hbears, e, rfl, rfl⟩)
  | ok file => exact .inr (.inr ⟨hbears, file, rfl, rfl, covers_of_parse s.tuples.rule path hparse⟩)

end FileReport

end SwiftTuples
