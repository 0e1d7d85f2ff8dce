import Pseudocode.Application
import Pseudocode.Binary64.Bits
import Pseudocode.Exchange
import Pseudocode.LineReader
import Pseudocode.Main
import Pseudocode.Worker.Batch
import Pseudocode.Proofs.Channel
import Pseudocode.Proofs.History
import Pseudocode.Proofs.Asking
import Pseudocode.Proofs.Runner.Agreement
import Pseudocode.Proofs.Runner.Delivery
import Pseudocode.Proofs.Runner.Release
import Pseudocode.Proofs.Frontend
import Pseudocode.Proofs.Patience
import Pseudocode.Proofs.Runner.Filtering
import Pseudocode.Proofs.Runner.Hushed
import Pseudocode.Proofs.Runner.Refinement
import Pseudocode.Proofs.Session
import Pseudocode.Proofs.Session.Progress
import Pseudocode.Proofs.Session.Transcript
import Pseudocode.Proofs.Session.Loop
import Pseudocode.Proofs.Grammar.Reading
import Pseudocode.Proofs.Cancellation
import Pseudocode.Proofs.Printing.Source
import Pseudocode.Proofs.Runner.Exclusion
import Pseudocode.Proofs.Outline.Earliest
import Pseudocode.Proofs.Runner.Lifecycle
import Pseudocode.Proofs.Runner.Waking
import Pseudocode.Proofs.Runner.Refusal
import Pseudocode.Proofs.Channel.Handover
import Pseudocode.Proofs.Pacing
import Pseudocode.Proofs.Limits.Program
import Pseudocode.Proofs.Desertion
import Pseudocode.Proofs.Requests
import Pseudocode.Proofs.Lexing.Source
import Pseudocode.Proofs.Renumbering.Source
import Pseudocode.Proofs.Division
import Pseudocode.Proofs.Assignments
import Pseudocode.Proofs.Expansion
import Pseudocode.Proofs.Placement.Program
import Pseudocode.Proofs.LineReader
import Pseudocode.Proofs.Channel.Region
import Pseudocode.Proofs.RequestNumbers
import Pseudocode.Proofs.WholeNumbers
