import CmpIssuer.Effect.Program
import CmpIssuer.Effect.Monitor
import CmpIssuer.Effect.Outcome
import CmpIssuer.Effect.Progress
import CmpIssuer.Effect.World
import CmpIssuer.Effect.Report
import CmpIssuer.Base
import CmpIssuer.Library
import CmpIssuer.Api
import CmpIssuer.Protocol.Types
import CmpIssuer.Protocol.Certificate
import CmpIssuer.Protocol.Name
import CmpIssuer.Protocol.Response
import CmpIssuer.Protocol.Client
import CmpIssuer.Protocol.Verdict
import CmpIssuer.Protocol.Attributes
import CmpIssuer.Protocol.Authentication
import CmpIssuer.Session.Monitor
import CmpIssuer.Session.Client
import CmpIssuer.Controller.Configuration
import CmpIssuer.Controller.Workload
import CmpIssuer.Controller.TransactionStore
import CmpIssuer.Controller.Signer
import CmpIssuer.Controller.Loading
import CmpIssuer.Session.Signer
import CmpIssuer.Cluster.Server
import CmpIssuer.Cluster.Deployment
import CmpIssuer.Cluster.History
import CmpIssuer.Cluster.Signers
import CmpIssuer.Cluster.Sequence
import CmpIssuer.Cluster.Chronicle
import CmpIssuer.Cluster.Nonces
import CmpIssuer.Guarantee.Call
import CmpIssuer.Guarantee.Run
import CmpIssuer.Guarantee.Replica
import CmpIssuer.Guarantee.Failure
import CmpIssuer.Guarantee.Recovery
import CmpIssuer.Guarantee.Response
import CmpIssuer.Session.Invariant
import CmpIssuer.Session.Execution
import CmpIssuer.Controller.Secrets
import CmpIssuer.Controller.Authorization
import CmpIssuer.Session.Serving
import CmpIssuer.Guarantee.Workload
import CmpIssuer.Controller.Digest
import CmpIssuer.Guarantee.Digest
import CmpIssuer.Guarantee.Sender
import CmpIssuer.Session.Handover
import CmpIssuer.Session.Pending
import CmpIssuer.Guarantee.Uninterrupted
import CmpIssuer.Guarantee.Polling
import CmpIssuer.Guarantee.Waiting
import CmpIssuer.Text.Basic
import CmpIssuer.Text.Escape
import CmpIssuer.Text.DistinguishedName
import CmpIssuer.Protocol.Scan
import CmpIssuer.Guarantee.Naming
import CmpIssuer.Guarantee.Parsing
import CmpIssuer.Guarantee.Denotation
import CmpIssuer.Text.Json
import CmpIssuer.Guarantee.Identity
import CmpIssuer.Guarantee.Storage
import CmpIssuer.Guarantee.Delay
import CmpIssuer.Guarantee.Fallback
import CmpIssuer.Guarantee.Budget
import CmpIssuer.Guarantee.Refusal
import CmpIssuer.Guarantee.Overlap
import CmpIssuer.Guarantee.Readiness
import CmpIssuer.Guarantee.Resume
import CmpIssuer.Guarantee.Catalogue
import CmpIssuer.Guarantee.Retry
import CmpIssuer.Session.Policy
import CmpIssuer.Guarantee.Provenance
import CmpIssuer.Controller.Metrics
import CmpIssuer.Controller.Reporting
import CmpIssuer.Guarantee.Accounting
import CmpIssuer.Guarantee.Once
import CmpIssuer.Guarantee.Counters
import CmpIssuer.Session.Timing
import CmpIssuer.Guarantee.Content
import CmpIssuer.Guarantee.Check
import CmpIssuer.Guarantee.Lifetime
