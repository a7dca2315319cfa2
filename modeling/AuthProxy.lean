import AuthProxy.Text.Pieces
import AuthProxy.Text.Hex
import AuthProxy.SortedMap
import AuthProxy.Text.Unprintable
import AuthProxy.Text.Quoted
import AuthProxy.Text.Numeral
import AuthProxy.Text.Base64
import AuthProxy.Text.Utf8
import AuthProxy.Text.Place
import AuthProxy.Binary64
import AuthProxy.Json.ReadError
import AuthProxy.Json.Basic
import AuthProxy.Json.Layer
import AuthProxy.Json.Cursor
import AuthProxy.Json.Number
import AuthProxy.Json.Skip
import AuthProxy.Json.Parser
import AuthProxy.Json.Printer
import AuthProxy.Json.Read
import AuthProxy.Json.Record
import AuthProxy.Json.Write
import AuthProxy.Api.Target
import AuthProxy.Error
import AuthProxy.Object.Name
import AuthProxy.Object.Metadata
import AuthProxy.Object.LabelSelector
import AuthProxy.Object.Pod
import AuthProxy.Object.Deployment
import AuthProxy.Object.Data
import AuthProxy.Object.Authenticator
import AuthProxy.Wire.Metadata
import AuthProxy.Wire.Pod
import AuthProxy.Wire.Workload
import AuthProxy.Wire.Authenticator
import AuthProxy.Kind
import AuthProxy.Duration
import AuthProxy.Settings
import AuthProxy.Backoff
import AuthProxy.Selector
import AuthProxy.Selector.Query
import AuthProxy.Owners
import AuthProxy.Dependent
import AuthProxy.Credentials
import AuthProxy.Proxy.Conf
import AuthProxy.Proxy.Parts
import AuthProxy.Proxy.Dependents
import AuthProxy.Proxy.Outline
import AuthProxy.Proxy.Injection
import AuthProxy.Progress
import AuthProxy.Notice
import AuthProxy.Program
import AuthProxy.Replicas
import AuthProxy.Pass.Reference
import AuthProxy.Pass.Configuration
import AuthProxy.Pass.Standalone
import AuthProxy.Pass.Workloads
import AuthProxy.Pass.Report
import AuthProxy.Pass.Converge
import AuthProxy.Cluster.Defaults
import AuthProxy.Cluster.Basic
import AuthProxy.Cluster.Fault
import AuthProxy.Cluster.Bench
import AuthProxy.Cluster.Script
import AuthProxy.Api.Message
import AuthProxy.Wire.Error
import AuthProxy.Api.Answer
import AuthProxy.Api.Client
import AuthProxy.Api.Canned
import AuthProxy.Discovery.Version
import AuthProxy.Discovery.Group
import AuthProxy.Discovery.Check
import AuthProxy.Discovery.Wait
import AuthProxy.Discovery.Polls
import AuthProxy.Schedule
import AuthProxy.Cluster.Served
import AuthProxy.Cluster.Rehearsal
import AuthProxy.Json.Yaml
import AuthProxy.Definition
import AuthProxy.Startup
import AuthProxy.Main
import AuthProxy.Proofs.Cluster.Versions
import AuthProxy.Proofs.Cluster.Calls
import AuthProxy.Proofs.Program.Paths
import AuthProxy.Proofs.Pass.Law
import AuthProxy.Proofs.Traffic.Basic
import AuthProxy.Proofs.Traffic.Effects
import AuthProxy.Proofs.Traffic.LostUpdate
import AuthProxy.Proofs.Dependents
import AuthProxy.Proofs.Shapes
import AuthProxy.Proofs.Traffic.Credentials
import AuthProxy.Proofs.Program.Yields
import AuthProxy.Proofs.Cluster.Listing
import AuthProxy.Proofs.Deployments
import AuthProxy.Proofs.Pass.Settled
import AuthProxy.Proofs.Pass.Proxies
import AuthProxy.Proofs.Pass.Idempotence
import AuthProxy.Proofs.Serviceable
import AuthProxy.Proofs.Selector
import AuthProxy.Proofs.ProxyConf
import AuthProxy.Proofs.Pass.Reconfiguration
import AuthProxy.Proofs.Traffic.Serves
import AuthProxy.Proofs.Pass.Undisturbed
import AuthProxy.Proofs.Traffic.Convergence
import AuthProxy.Proofs.Program.Ensures
import AuthProxy.Proofs.Pass.InPlace
import AuthProxy.Proofs.Pass.Foreign
import AuthProxy.Proofs.Traffic.Done
import AuthProxy.Proofs.Traffic.Takeover
import AuthProxy.Proofs.Traffic.OneProxy
import AuthProxy.Proofs.Pass.Followers
import AuthProxy.Proofs.Pass.Rounds
import AuthProxy.Proofs.Traffic.Ownership
import AuthProxy.Proofs.Traffic.Reach
import AuthProxy.Proofs.Cluster.History
import AuthProxy.Proofs.Program.Twins
import AuthProxy.Proofs.Pass.Independent
import AuthProxy.Proofs.Pass.Readiness
import AuthProxy.Proofs.Program.Recorded
import AuthProxy.Proofs.Pass.Failures
import AuthProxy.Proofs.Api.Failures
import AuthProxy.Proofs.Pass.Order
import AuthProxy.Proofs.Schedule
import AuthProxy.Proofs.Injection
import AuthProxy.Proofs.Pass.Attempts
import AuthProxy.Proofs.Pass.Repair
import AuthProxy.Proofs.Pass.Adaptive
import AuthProxy.Proofs.Cluster.StatusApart
import AuthProxy.Proofs.Pass.Reselected
import AuthProxy.Proofs.Pass.Targets
import AuthProxy.Proofs.Given
import AuthProxy.Proofs.Numeral
import AuthProxy.Proofs.Settings
import AuthProxy.Proofs.Backoff
import AuthProxy.Proofs.Wire.Metadata
import AuthProxy.Proofs.Wire.Authenticator
import AuthProxy.Proofs.Owners
import AuthProxy.Proofs.Discovery.Versions
import AuthProxy.Proofs.Discovery.Wait
import AuthProxy.Proofs.Discovery.Directory
