import HartTraps.Main
import HartTraps.Session.History
import HartTraps.Proofs.Trap.Outcome
import HartTraps.Proofs.Session.Log
import HartTraps.Proofs.Session.Phase
import HartTraps.Proofs.Session.Reload
import HartTraps.Proofs.Trap.Ending
import HartTraps.Proofs.Trap.Refusal
import HartTraps.Proofs.Session.Confinement
import HartTraps.Proofs.Session.Likeness
import HartTraps.Proofs.Session.Recording
import HartTraps.Proofs.Session.Frames
import HartTraps.Proofs.Trap.Footprint
import HartTraps.Proofs.Session.Status
import HartTraps.Proofs.Session.DefaultVector
import HartTraps.Proofs.Session.Handlers
import HartTraps.Proofs.Script.Parts
import HartTraps.Proofs.TestTable.Parts
import HartTraps.Proofs.TestTable.Calls
import HartTraps.Proofs.Binary.Canonical
import HartTraps.Proofs.Binary.Truncation
import HartTraps.Proofs.Snapshot.Canonical
import HartTraps.Proofs.Text.Numeral
import HartTraps.Proofs.Text.Words
import HartTraps.Proofs.Script.Lines
import HartTraps.Proofs.Script.Operands
import HartTraps.Proofs.Script.Written
import HartTraps.Proofs.Script.Reports
import HartTraps.Proofs.Cli.Replay
import HartTraps.Proofs.Cli.ExitStatus
import HartTraps.Proofs.Cli.Flags
import HartTraps.Proofs.Cli.LogDump
import HartTraps.Proofs.Trap.Relocation
import HartTraps.Proofs.Session.Request
import HartTraps.Proofs.Trap.Pages
import HartTraps.Proofs.Trap.RoundTrip
import HartTraps.Proofs.Trap.LogRegion
import HartTraps.Proofs.Csr.StatusFields
import HartTraps.Proofs.TestTable.Assignments
import HartTraps.Proofs.TestTable.PagingFields
import HartTraps.Proofs.TestTable.Entry
import HartTraps.Proofs.TestTable.Position
import HartTraps.Proofs.Snapshot.Restore
import HartTraps.Proofs.Trap.Return
import HartTraps.Proofs.TestTable.Bytes
import HartTraps.Proofs.Text.Signature
