import TouchScript.CommandLine
import TouchScript.CommandLine.Arguments
import TouchScript.Main
import TouchScript.Recorder.Listing
import TouchScript.Session
import TouchScript.Proofs.Machine.Course
import TouchScript.Proofs.Labels.Aligned
import TouchScript.Proofs.Labels.Containment
import TouchScript.Proofs.Machine.Nesting
import TouchScript.Proofs.Labels.Lexical
import TouchScript.Proofs.Machine.Ledger
import TouchScript.Proofs.Run.Unwind
import TouchScript.Proofs.Run.Cancellation
import TouchScript.Proofs.Text.Decimal
import TouchScript.Proofs.Script.Render
import TouchScript.Proofs.Script.Header
import TouchScript.Proofs.Script.RoundTrip
import TouchScript.Proofs.Script.Content
import TouchScript.Proofs.Script.Outline
import TouchScript.Proofs.Script.Descent
import TouchScript.Proofs.Script.Accounting
import TouchScript.Proofs.Labels.Balance
import TouchScript.Proofs.Run.Interference
import TouchScript.Proofs.Machine.Parts
import TouchScript.Proofs.Labels.Relabelled
import TouchScript.Proofs.Labels.Unique
import TouchScript.Proofs.Run.Termination
import TouchScript.Proofs.Interpreter.Serial
import TouchScript.Proofs.Run.JumpFree
import TouchScript.Proofs.Machine.Depth
import TouchScript.Proofs.Run.Limit
import TouchScript.Proofs.Run.Outcome
import TouchScript.Proofs.Run.Standstill
import TouchScript.Proofs.Run.Breakdown
import TouchScript.Proofs.Script.Concatenation
import TouchScript.Proofs.Script.Strictness
import TouchScript.Proofs.Script.Canonical
import TouchScript.Proofs.Recorder.Log
import TouchScript.Proofs.CommandLine.Output
import TouchScript.Proofs.Recorder.Results
import TouchScript.Proofs.Script.Recovery
import TouchScript.Proofs.Run.Refusal
import TouchScript.Proofs.Text.Cut
import TouchScript.Proofs.Value.Text
import TouchScript.Proofs.Value.Congruence
import TouchScript.Proofs.Value.Comparison
import TouchScript.Proofs.Run.Attribution
import TouchScript.Proofs.Labels.Recent
import TouchScript.Proofs.Script.Review
import TouchScript.Proofs.Value.Arithmetic
import TouchScript.Proofs.Run.Literal
import TouchScript.Proofs.Text.Gaps
import TouchScript.Proofs.Script.Alike
import TouchScript.Proofs.Script.Layout
import TouchScript.Proofs.Run.Messages
import TouchScript.Proofs.Json.Fields
import TouchScript.Proofs.Json.Indented
import TouchScript.Proofs.Action.Recast
import TouchScript.Proofs.Action.Exchange
import TouchScript.Proofs.Settings.File
import TouchScript.Proofs.Geometry.Fingers
import TouchScript.Proofs.Script.Position
import TouchScript.Proofs.Script.Arguments
