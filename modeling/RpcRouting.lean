import RpcRouting.Text.Map
import RpcRouting.Text.Blank
import RpcRouting.Text.Alphanumeric
import RpcRouting.Text.Cut
import RpcRouting.Text.Unprinted
import RpcRouting.Text.Quoted
import RpcRouting.Decimal.Binary64
import RpcRouting.Decimal.Shortest
import RpcRouting.Decimal.Layout
import RpcRouting.Decimal.Scaled
import RpcRouting.Json.Basic
import RpcRouting.Json.Read
import RpcRouting.Json.Decode
import RpcRouting.Element.Basic
import RpcRouting.Element.Render
import RpcRouting.Element.Json
import RpcRouting.Document
import RpcRouting.RpcError.Basic
import RpcRouting.RpcError.Json
import RpcRouting.Priority
import RpcRouting.Failure
import RpcRouting.Session.Id
import RpcRouting.Session.Alignment
import RpcRouting.Session.Store
import RpcRouting.Operation.Basic
import RpcRouting.Operation.Chain
import RpcRouting.Operation.Candidates
import RpcRouting.Backend.Basic
import RpcRouting.Event
import RpcRouting.Operation.Catalogue
import RpcRouting.Log.Basic
import RpcRouting.Log.Json
import RpcRouting.Log.Filter
import RpcRouting.World
import RpcRouting.Backend.Release
import RpcRouting.Host
import RpcRouting.Operation.Probe
import RpcRouting.Operation.Builtin
import RpcRouting.Operation.Handle
import RpcRouting.Routing.Registry
import RpcRouting.Routing.Error
import RpcRouting.Routing.Router
import RpcRouting.Routing.Pipeline
import RpcRouting.Proofs.Run
import RpcRouting.Proofs.Release.Nesting
import RpcRouting.Proofs.Release.Protocol
import RpcRouting.Proofs.Steps
import RpcRouting.Proofs.Execution
import RpcRouting.Proofs.Routing.Containment
import RpcRouting.Proofs.Release.Consistency
import RpcRouting.Proofs.Release.Course
import RpcRouting.Proofs.Release.Truth
import RpcRouting.Proofs.Release.Exact
import RpcRouting.Proofs.Selection.Ranking
import RpcRouting.Proofs.Routing.Reference
import RpcRouting.Proofs.Lockstep
import RpcRouting.Proofs.Alike
import RpcRouting.Proofs.Selection.Claims
import RpcRouting.Proofs.Selection.Order
import RpcRouting.Proofs.Emits
import RpcRouting.Proofs.Routing.CallTree
import RpcRouting.Proofs.Routing.Calls
import RpcRouting.Proofs.Routing.Delegation
import RpcRouting.Proofs.Release.Attempts
import RpcRouting.Proofs.Release.Retry
import RpcRouting.Proofs.Builtin.Choice
import RpcRouting.Proofs.Builtin.Lifecycle
import RpcRouting.Proofs.Builtin.Simulation
import RpcRouting.Proofs.Rendering.Normal
import RpcRouting.Proofs.Rendering.Reading
import RpcRouting.Proofs.Logs
import RpcRouting.Proofs.Routing.Lockstep
import RpcRouting.Proofs.Routing.Pipeline
import RpcRouting.Proofs.Routing.Isolation
import RpcRouting.Proofs.Routing.Leftovers
import RpcRouting.Proofs.Release.Report
import RpcRouting.Proofs.Selection.Flattening
import RpcRouting.Proofs.Selection.Phases
import RpcRouting.Proofs.Routing.Unwinding
import RpcRouting.Proofs.Routing.Reporting
import RpcRouting.Proofs.Routing.Observer
import RpcRouting.Proofs.Filter
import RpcRouting.Proofs.Builtin.LastResort
import RpcRouting.Proofs.Rendering.Matching
import RpcRouting.Proofs.Rendering.Quoting
import RpcRouting.Proofs.Selection.Offers
import RpcRouting.Proofs.Selection.Raising
import RpcRouting.Proofs.Records.ByteOrder
import RpcRouting.Proofs.Records.Entries
import RpcRouting.Proofs.Records.Fields
import RpcRouting.Proofs.Records.RoundTrip
import RpcRouting.Proofs.Records.Canonical
import RpcRouting.Proofs.Decimal.Rounding
import RpcRouting.Proofs.Decimal.Shortest
import RpcRouting.Proofs.Records.Lexing
import RpcRouting.Proofs.Records.Compact
import RpcRouting.Proofs.Rendering.Truncation
import RpcRouting.Proofs.Builtin.Attendance
