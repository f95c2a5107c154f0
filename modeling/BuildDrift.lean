import BuildDrift.Code.Builder
import BuildDrift.Code.Document
import BuildDrift.Comparison.Body
import BuildDrift.Comparison.Run
import BuildDrift.Comparison.Unit
import BuildDrift.File
import BuildDrift.Instrumentation.Basic
import BuildDrift.Model.Unit
import BuildDrift.Pattern.NamePattern
import BuildDrift.Proofs.Code.Packed
import BuildDrift.Selection.IgnoreRules
import BuildDrift.Trace.Log
import BuildDrift.Proofs.Instrumentation.Tiling
import BuildDrift.Proofs.Instrumentation.Pass
import BuildDrift.Proofs.Instrumentation.Placement
import BuildDrift.Proofs.Instrumentation.Outcome
import BuildDrift.Proofs.Instrumentation.Sites
import BuildDrift.Proofs.Instrumentation.Insertion
import BuildDrift.Proofs.Instrumentation.Growth
import BuildDrift.Proofs.Instrumentation.Ranges
import BuildDrift.Proofs.Comparison.Body
import BuildDrift.Proofs.Instrumentation.Relayout
import BuildDrift.Proofs.Execution.Machine
import BuildDrift.Proofs.Execution.Simulation
import BuildDrift.Proofs.Instrumentation.Behaviour
import BuildDrift.Proofs.Execution.Flow
import BuildDrift.Proofs.Instrumentation.Bracketing
import BuildDrift.Proofs.Execution.Lockstep
import BuildDrift.Proofs.Comparison.Counterpart
import BuildDrift.Proofs.Comparison.Unit
import BuildDrift.Proofs.Comparison.Itself
import BuildDrift.Proofs.Comparison.Matched
import BuildDrift.Proofs.Comparison.Additions
import BuildDrift.Proofs.Comparison.Relocation
import BuildDrift.Proofs.Comparison.Rearrangement
import BuildDrift.Proofs.Comparison.LeftOut
import BuildDrift.Proofs.Instrumentation.Fates
import BuildDrift.Proofs.Comparison.MoreExclusions
import BuildDrift.Proofs.Instrumentation.Reports
import BuildDrift.Proofs.Execution.StackDepth
import BuildDrift.Proofs.Instrumentation.Headroom
import BuildDrift.Proofs.Comparison.SingleTest
import BuildDrift.Proofs.Execution.Symbolic
import BuildDrift.Proofs.Instrumentation.Protected
import BuildDrift.Proofs.Instrumentation.TestBody
import BuildDrift.Proofs.Comparison.LayoutBlind
import BuildDrift.Proofs.Comparison.Pairing
import BuildDrift.Proofs.Comparison.Accounting
import BuildDrift.Proofs.Comparison.Mirror
import BuildDrift.Proofs.Number.Digits
import BuildDrift.Proofs.Text.Hex
import BuildDrift.Proofs.Pattern.Extent
import BuildDrift.Proofs.Text.Blank
import BuildDrift.Proofs.Json.Numerals
import BuildDrift.Proofs.Json.Scanning
import BuildDrift.Proofs.Json.Tree
import BuildDrift.Proofs.Json.Reading
import BuildDrift.Proofs.Model.Modifiers
import BuildDrift.Proofs.Model.RoundTrip
import BuildDrift.Proofs.Code.Labels
import BuildDrift.Proofs.Code.Saturation
import BuildDrift.Proofs.Instrumentation.Validity
import BuildDrift.Proofs.Instrumentation.Tally
import BuildDrift.Proofs.Code.Lookup
import BuildDrift.Proofs.Trace.Tests
import BuildDrift.Proofs.Json.Compact
import BuildDrift.Proofs.Text.Lines
import BuildDrift.Proofs.Trace.Lines
import BuildDrift.Proofs.Pattern.Marks
import BuildDrift.Proofs.Pattern.WrittenOut
import BuildDrift.Proofs.Pattern.Translation
import BuildDrift.Proofs.Pattern.Wildcard
import BuildDrift.Proofs.Instrumentation.FreshNames
import BuildDrift.Proofs.Selection.RoundTrip
import BuildDrift.Proofs.Instrumentation.Groups
import BuildDrift.Proofs.Number.Rounding
import BuildDrift.Proofs.Number.Shortest
import BuildDrift.Proofs.Json.FloatNumerals
import BuildDrift.Proofs.Model.FloatConstants
