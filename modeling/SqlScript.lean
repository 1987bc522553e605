import SqlScript.Main
import SqlScript.Proofs.Engine.Induction
import SqlScript.Proofs.Engine.Statements
import SqlScript.Proofs.Engine.Isolation
import SqlScript.Proofs.Session.History
import SqlScript.Proofs.Condition.Lexing
import SqlScript.Proofs.Condition.Reading
import SqlScript.Proofs.Condition.Hygiene
import SqlScript.Proofs.Condition.Faults
import SqlScript.Proofs.Condition.Frames
import SqlScript.Proofs.Condition.Printing
import SqlScript.Proofs.Condition.Phrases
import SqlScript.Proofs.Condition.Soundness
import SqlScript.Proofs.Engine.Unwinding
import SqlScript.Proofs.Engine.Failures
import SqlScript.Proofs.Engine.Reports
import SqlScript.Proofs.Engine.Escapes
import SqlScript.Proofs.Template.Binding
import SqlScript.Proofs.Engine.Termination
import SqlScript.Proofs.Session.Selects
import SqlScript.Proofs.Condition.Continuation
import SqlScript.Proofs.Program.RoundTrip
import SqlScript.Proofs.Program.NormalForm
import SqlScript.Proofs.Text.Utf8
import SqlScript.Proofs.Program.Sources
import SqlScript.Proofs.Condition.Pieces
import SqlScript.Proofs.Condition.Shapes
import SqlScript.Proofs.Condition.Blanks
import SqlScript.Proofs.Condition.Vocabulary
import SqlScript.Proofs.Template.Markers
import SqlScript.Proofs.Engine.BindStyles
import SqlScript.Proofs.Engine.Intact
import SqlScript.Proofs.Engine.Skipping
import SqlScript.Proofs.Session.Addressed
import SqlScript.Proofs.Engine.IncludeLimit
import SqlScript.Proofs.Engine.Stored
import SqlScript.Proofs.Session.Captures
import SqlScript.Proofs.Template.Scanning
import SqlScript.Proofs.Session.Refusals
import SqlScript.Proofs.Engine.Columns
import SqlScript.Proofs.CommandLine.Transaction
import SqlScript.Proofs.Template.Interpolation
import SqlScript.Proofs.Engine.Examining
import SqlScript.Proofs.Number.Underflow
import SqlScript.Proofs.Condition.Numerals
import SqlScript.Proofs.Condition.Spacing
import SqlScript.Proofs.Condition.Integers
import SqlScript.Proofs.Report.Alignment
import SqlScript.Proofs.CommandLine.GivenFile
import SqlScript.Proofs.Condition.Quoting
import SqlScript.Proofs.Files.Places
import SqlScript.Proofs.Condition.Lossless
import SqlScript.Proofs.Session.Nesting
