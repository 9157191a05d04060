import WorldClock.Hub.Router
import WorldClock.Main
import WorldClock.Proofs.Hub.Bearer
import WorldClock.Proofs.Hub.Credentials
import WorldClock.Proofs.Hub.Delivery
import WorldClock.Proofs.Hub.Lifecycle
import WorldClock.Proofs.Hub.Registered
import WorldClock.Proofs.Mcp.Correlation
import WorldClock.Proofs.Mcp.Handshake
import WorldClock.Proofs.Stdio.Transcript
import WorldClock.Proofs.Time.Conversion
import WorldClock.Proofs.Time.LocalTime
import WorldClock.Proofs.Metrics.Tally
import WorldClock.Proofs.Mcp.Accounting
import WorldClock.Proofs.Mcp.Answers
import WorldClock.Proofs.Stdio.Messages
import WorldClock.Proofs.Session.Outbox
import WorldClock.Proofs.Hub.HttpClient
import WorldClock.Proofs.Hub.StreamClient
import WorldClock.Proofs.Transports
import WorldClock.Proofs.Hub.Refusals
import WorldClock.Proofs.Mcp.Isolation
import WorldClock.Proofs.Conformance
import WorldClock.Proofs.MessageSize
import WorldClock.Proofs.Stdio.Overlong
import WorldClock.Proofs.Hub.Idle
import WorldClock.Proofs.Mcp.Faults
import WorldClock.Proofs.Mcp.Arguments
import WorldClock.Proofs.Schema.Verdict
import WorldClock.Proofs.Mcp.Greeting
import WorldClock.Proofs.Config.Address
import WorldClock.Proofs.Config.Usable
import WorldClock.Proofs.Config.Shielding
import WorldClock.Proofs.Time.Spelling
import WorldClock.Proofs.Metrics.Snapshot
import WorldClock.Proofs.Mcp.TellTime
