import Resumable.Json.Reader
import Resumable.Command.Effect
import Resumable.Telemetry.Wire
import Resumable.Hook.Log
import Resumable.Hook.Recording
import Resumable.Live.Run
import Resumable.Scenario.Answers
import Resumable.Scenario.Behaviour
import Resumable.Verify.Verdict
import Resumable.Proofs.Verify.Conformance
import Resumable.Proofs.Verify.Transcript
import Resumable.Proofs.Verify.LiveReplay
import Resumable.Proofs.Live.FanOut
import Resumable.Proofs.Live.Accounts
import Resumable.Proofs.Interleaving
import Resumable.Proofs.Loop
import Resumable.Proofs.Telemetry.RoundTrip
import Resumable.Proofs.Telemetry.Sink
import Resumable.Proofs.Verify.Deviation
import Resumable.Proofs.Batches
import Resumable.Proofs.Live.Tree
import Resumable.Proofs.Live.Settled
import Resumable.Proofs.Live.Completion
import Resumable.Proofs.Live.Lineage
import Resumable.Proofs.Guard
import Resumable.Proofs.Verify.Grammar
import Resumable.Proofs.Json.Likeness
import Resumable.Proofs.Command.Forms
import Resumable.Proofs.Live.Recasting
import Resumable.Proofs.Live.Observation
import Resumable.Proofs.Live.Containment
import Resumable.Proofs.Live.MissingHandler
import Resumable.Proofs.Telemetry.Relay
import Resumable.Proofs.StepCount
import Resumable.Proofs.Live.Propagation
import Resumable.Proofs.Live.Reconstruction
import Resumable.Proofs.Json.KeyOrder
import Resumable.Proofs.Json.FirstDifference
import Resumable.Proofs.Traversal
import Resumable.Proofs.Json.Exactness
import Resumable.Proofs.Command.Comparison
import Resumable.Proofs.Verify.Termination
import Resumable.Proofs.Text.Quoted
import Resumable.Proofs.Hook.HiddenValues
import Resumable.Proofs.Command.Vocabulary
import Resumable.Proofs.Live.Spans
import Resumable.Proofs.Live.Pace
import Resumable.Proofs.Live.Concurrency
import Resumable.Proofs.Verify.Cursor
