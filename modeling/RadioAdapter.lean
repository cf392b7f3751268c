import RadioAdapter.Adapter.Session
import RadioAdapter.Main
import RadioAdapter.Proofs.Session
import RadioAdapter.Proofs.Calls
import RadioAdapter.Proofs.Erasure
import RadioAdapter.Proofs.Isolation
import RadioAdapter.Proofs.Inert
import RadioAdapter.Proofs.Exchange
import RadioAdapter.Proofs.Payload
import RadioAdapter.Proofs.Completion.Balance
import RadioAdapter.Proofs.Completion.ExactlyOnce
import RadioAdapter.Proofs.DirectService
import RadioAdapter.Proofs.Registration.Race
import RadioAdapter.Proofs.Registration.Once
import RadioAdapter.Proofs.Registration.RuntimeFate
import RadioAdapter.Proofs.Registration.NoTrace
import RadioAdapter.Proofs.Registration.Parallel
import RadioAdapter.Proofs.Registration.Published
import RadioAdapter.Proofs.Record.RoundTrip
import RadioAdapter.Proofs.Record.Grammar
import RadioAdapter.Proofs.Record.Layout
import RadioAdapter.Proofs.Bridge.Docket
import RadioAdapter.Proofs.Bridge.Progress
import RadioAdapter.Proofs.Bridge.Outcome
import RadioAdapter.Proofs.Bridge.Shutdown
import RadioAdapter.Proofs.Bridge.Order
import RadioAdapter.Proofs.Forgetting
import RadioAdapter.Proofs.Clones
import RadioAdapter.Proofs.Config.Readers
import RadioAdapter.Proofs.Address
import RadioAdapter.Proofs.Hex
import RadioAdapter.Proofs.Bridge.Setup
import RadioAdapter.Proofs.Command.Report
import RadioAdapter.Proofs.Command.Spelling
import RadioAdapter.Proofs.Bounds
import RadioAdapter.Proofs.Config.Fields
