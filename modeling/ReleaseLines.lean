import ReleaseLines.Journal
import ReleaseLines.Main
import ReleaseLines.Json.Reader
import ReleaseLines.Proofs.Text.Pieces
import ReleaseLines.Proofs.Text.Trim
import ReleaseLines.Proofs.Text.Case
import ReleaseLines.Proofs.Text.Lines
import ReleaseLines.Proofs.Numeral.DigitRun
import ReleaseLines.Proofs.Version.Order
import ReleaseLines.Proofs.Version.Spelling
import ReleaseLines.Proofs.Constraint.Clause
import ReleaseLines.Proofs.Constraint.Recognition
import ReleaseLines.Proofs.Constraint.Form
import ReleaseLines.Proofs.Constraint.Residue
import ReleaseLines.Proofs.Except
import ReleaseLines.Proofs.Distinct
import ReleaseLines.Proofs.Constraint.Reading
import ReleaseLines.Proofs.Constraint.Language
import ReleaseLines.Proofs.Constraint.Selection
import ReleaseLines.Proofs.Act.Keeps
import ReleaseLines.Proofs.Feed.Attempts
import ReleaseLines.Proofs.Feed.Traffic
import ReleaseLines.Proofs.Feed.Rules
import ReleaseLines.Proofs.Feed.Accepted
import ReleaseLines.Proofs.Feed.Cache
import ReleaseLines.Proofs.Feed.Supported
import ReleaseLines.Proofs.Matrix.Build
import ReleaseLines.Proofs.Feed.Retries
import ReleaseLines.Proofs.Constraint.Settled
import ReleaseLines.Proofs.Matrix.Origin
import ReleaseLines.Proofs.Matrix.Ended
import ReleaseLines.Proofs.Matrix.Shape
import ReleaseLines.Proofs.Constraint.Plain
import ReleaseLines.Proofs.Constraint.Primitive
import ReleaseLines.Proofs.Constraint.Answer
import ReleaseLines.Proofs.Constraint.Agreement
import ReleaseLines.Proofs.CommandLine.Refusal
import ReleaseLines.Proofs.Json.RoundTrip
import ReleaseLines.Proofs.Output.Publication
import ReleaseLines.Proofs.Output.Entries
import ReleaseLines.Proofs.Matrix.Containment
import ReleaseLines.Proofs.Output.Screen
import ReleaseLines.Proofs.Output.StandardOutput
import ReleaseLines.Proofs.Output.TextReport
import ReleaseLines.Proofs.CommandLine.Tools
import ReleaseLines.Proofs.Constraint.Canonical
import ReleaseLines.Proofs.Matrix.Conjunction
import ReleaseLines.Proofs.Calendar.Order
import ReleaseLines.Proofs.Feed.Shrinking
import ReleaseLines.Proofs.Matrix.Reordering
import ReleaseLines.Proofs.Configuration.Checks
import ReleaseLines.Proofs.Configuration.Ready
import ReleaseLines.Proofs.Configuration.Readable
import ReleaseLines.Proofs.CommandLine.Start
import ReleaseLines.Proofs.CommandLine.Misconfiguration
import ReleaseLines.Proofs.Act.FailsWith
import ReleaseLines.Proofs.Constraint.Flaw
import ReleaseLines.Proofs.Output.Failure
import ReleaseLines.Proofs.CommandLine.Announcement
import ReleaseLines.Proofs.Output.Frame
import ReleaseLines.Proofs.Text.Longest
import ReleaseLines.Proofs.Text.Classes
import ReleaseLines.Proofs.Interpreter.Release
import ReleaseLines.Proofs.Interpreter.Mention
import ReleaseLines.Proofs.Interpreter.Reading
import ReleaseLines.Proofs.Interpreter.Detection
import ReleaseLines.Proofs.Calendar.Characters
import ReleaseLines.Proofs.Console.Escape
import ReleaseLines.Proofs.Console.Cells
import ReleaseLines.Proofs.Configuration.Warning
import ReleaseLines.Proofs.Numeral.Width
import ReleaseLines.Proofs.Calendar.Reading
import ReleaseLines.Proofs.Version.Comparison
import ReleaseLines.Proofs.Output.Places
import ReleaseLines.Proofs.Output.Directories
