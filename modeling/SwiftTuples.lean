import SwiftTuples.Main
import SwiftTuples.Proofs.Lexing.Tiling
import SwiftTuples.Proofs.Parsing.TupleOrder
import SwiftTuples.Proofs.Printing.RoundTrip
import SwiftTuples.Proofs.Parsing.Layout
import SwiftTuples.Proofs.Reporting.Lines
import SwiftTuples.Proofs.Reporting.FileReport
import SwiftTuples.Proofs.Lexing.Locality
import SwiftTuples.Proofs.Lexing.Front
import SwiftTuples.Proofs.Lexing.TrailingComment
import SwiftTuples.Proofs.Lexing.Comments
import SwiftTuples.Proofs.Selection.Selecting
import SwiftTuples.Proofs.Selection.OwnSettings
import SwiftTuples.Proofs.Running.Isolation
import SwiftTuples.Proofs.Running.OneSource
import SwiftTuples.Proofs.Settings.Growth
import SwiftTuples.Proofs.Reporting.Summary
import SwiftTuples.Proofs.Printing.Faithful
import SwiftTuples.Proofs.Parsing.Form
import SwiftTuples.Proofs.Parsing.SourceOrder
import SwiftTuples.Proofs.Scanning.Occurrences
import SwiftTuples.Proofs.Judging.Exemption
import SwiftTuples.Proofs.Judging.Gravity
import SwiftTuples.Proofs.Reporting.Places
import SwiftTuples.Proofs.Reporting.Snippets
import SwiftTuples.Proofs.Parsing.Defaults
import SwiftTuples.Proofs.Reading.Specifiers
import SwiftTuples.Proofs.Reading.Bindings
import SwiftTuples.Proofs.Reading.Operators
import SwiftTuples.Proofs.Reading.Casts
import SwiftTuples.Proofs.Lexing.RawStrings
import SwiftTuples.Proofs.Running.Repeats
import SwiftTuples.Proofs.Reading.Prefaces
import SwiftTuples.Proofs.Reporting.Guidance
import SwiftTuples.Proofs.Settings.UnknownKeys
import SwiftTuples.Proofs.Reporting.Carets
import SwiftTuples.Proofs.Parsing.Progress
import SwiftTuples.Proofs.Parsing.Brackets
