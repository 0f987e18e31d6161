import ClusterKeeper.Cartridge.Admin
import ClusterKeeper.Cartridge.AdminError
import ClusterKeeper.Cartridge.EditTopology
import ClusterKeeper.Cartridge.Failover
import ClusterKeeper.Cartridge.LuaFault
import ClusterKeeper.Cartridge.RoleHierarchy
import ClusterKeeper.Cartridge.Script
import ClusterKeeper.Cartridge.Sections
import ClusterKeeper.ClusterService
import ClusterKeeper.CommandLine.Given
import ClusterKeeper.CommandLine.Item
import ClusterKeeper.CommandLine.Settings
import ClusterKeeper.CommandLine.Usage
import ClusterKeeper.Console.Chunk
import ClusterKeeper.Console.Transcript
import ClusterKeeper.Controller
import ClusterKeeper.Decimal.Double
import ClusterKeeper.Decimal.Shortest
import ClusterKeeper.Definition.Resources
import ClusterKeeper.Definition.Schema
import ClusterKeeper.Digest.Sha1
import ClusterKeeper.Digest.Sha256
import ClusterKeeper.Digest.Uuid
import ClusterKeeper.Digest.Words
import ClusterKeeper.Drift
import ClusterKeeper.Duration
import ClusterKeeper.Election
import ClusterKeeper.Event
import ClusterKeeper.Failover
import ClusterKeeper.Http.Console
import ClusterKeeper.Http.Events
import ClusterKeeper.Http.Exchange
import ClusterKeeper.Http.Live
import ClusterKeeper.Http.Store
import ClusterKeeper.Http.Target
import ClusterKeeper.Json.Basic
import ClusterKeeper.Json.Printer
import ClusterKeeper.Json.Reader
import ClusterKeeper.Json.Wire
import ClusterKeeper.Kubernetes.Labels
import ClusterKeeper.Kubernetes.Meta
import ClusterKeeper.Kubernetes.Owners
import ClusterKeeper.Kubernetes.Pod
import ClusterKeeper.Kubernetes.Service
import ClusterKeeper.Kubernetes.StatefulSet
import ClusterKeeper.Logging
import ClusterKeeper.Main
import ClusterKeeper.OperatorError
import ClusterKeeper.Pass.ClusterPass
import ClusterKeeper.Pass.ConfigPass
import ClusterKeeper.Pass.Engine
import ClusterKeeper.Pass.Resolve
import ClusterKeeper.Pass.RolePass
import ClusterKeeper.Pass.Step
import ClusterKeeper.Pass.Surroundings
import ClusterKeeper.Program
import ClusterKeeper.Proofs.Cartridge.Channel
import ClusterKeeper.Proofs.Cartridge.ConfigUpdate
import ClusterKeeper.Proofs.Cartridge.EditRequest
import ClusterKeeper.Proofs.Cartridge.FailoverReport
import ClusterKeeper.Proofs.Cartridge.FailoverUpdate
import ClusterKeeper.Proofs.Cartridge.RoleAgreement
import ClusterKeeper.Proofs.Cartridge.RoleClosure
import ClusterKeeper.Proofs.Cartridge.RoleReport
import ClusterKeeper.Proofs.Cartridge.RoleUpdate
import ClusterKeeper.Proofs.Cartridge.Settings
import ClusterKeeper.Proofs.Cluster.History
import ClusterKeeper.Proofs.Cluster.Phases
import ClusterKeeper.Proofs.Cluster.Safety
import ClusterKeeper.Proofs.Cluster.SoleWriter
import ClusterKeeper.Proofs.Cluster.Stock
import ClusterKeeper.Proofs.Console.Chunk
import ClusterKeeper.Proofs.Console.HexTranscript
import ClusterKeeper.Proofs.Console.Record
import ClusterKeeper.Proofs.Console.Transcript
import ClusterKeeper.Proofs.Decimal.Range
import ClusterKeeper.Proofs.Drift
import ClusterKeeper.Proofs.Election.Choice
import ClusterKeeper.Proofs.Election.Findings
import ClusterKeeper.Proofs.Election.Loss
import ClusterKeeper.Proofs.Election.Outcome
import ClusterKeeper.Proofs.Election.Search
import ClusterKeeper.Proofs.Failover
import ClusterKeeper.Proofs.Http.Listing
import ClusterKeeper.Proofs.Http.StatusReplacement
import ClusterKeeper.Proofs.Http.Wiring
import ClusterKeeper.Proofs.Json.Leaves
import ClusterKeeper.Proofs.Json.MemberRules
import ClusterKeeper.Proofs.Json.RoundTrip
import ClusterKeeper.Proofs.Json.Wire
import ClusterKeeper.Proofs.Kubernetes.Labels
import ClusterKeeper.Proofs.Kubernetes.Selectors
import ClusterKeeper.Proofs.Kubernetes.Wire
import ClusterKeeper.Proofs.Pass.Admission
import ClusterKeeper.Proofs.Pass.CandidCluster
import ClusterKeeper.Proofs.Pass.CandidMember
import ClusterKeeper.Proofs.Pass.Candour
import ClusterKeeper.Proofs.Pass.ClusterConduct
import ClusterKeeper.Proofs.Pass.ClusterSteps
import ClusterKeeper.Proofs.Pass.ClusterWalk
import ClusterKeeper.Proofs.Pass.Conclusion
import ClusterKeeper.Proofs.Pass.Conduct
import ClusterKeeper.Proofs.Pass.ConfigReading
import ClusterKeeper.Proofs.Pass.ConfigWalk
import ClusterKeeper.Proofs.Pass.Configuring
import ClusterKeeper.Proofs.Pass.ConfiguringFailover
import ClusterKeeper.Proofs.Pass.Conflicts
import ClusterKeeper.Proofs.Pass.Engine
import ClusterKeeper.Proofs.Pass.Gates
import ClusterKeeper.Proofs.Pass.Joining
import ClusterKeeper.Proofs.Pass.Leadership
import ClusterKeeper.Proofs.Pass.Member
import ClusterKeeper.Proofs.Pass.Probing
import ClusterKeeper.Proofs.Pass.Readiness
import ClusterKeeper.Proofs.Pass.Requests
import ClusterKeeper.Proofs.Pass.Rest
import ClusterKeeper.Proofs.Pass.RoleConduct
import ClusterKeeper.Proofs.Pass.RoleSteps
import ClusterKeeper.Proofs.Pass.RoleWalk
import ClusterKeeper.Proofs.Pass.Steps
import ClusterKeeper.Proofs.Pass.Turns
import ClusterKeeper.Proofs.Pass.Wakeup
import ClusterKeeper.Proofs.Pass.Walk
import ClusterKeeper.Proofs.Program.Course
import ClusterKeeper.Proofs.Program.Interleaving
import ClusterKeeper.Proofs.Program.Play
import ClusterKeeper.Proofs.Program.Playing
import ClusterKeeper.Proofs.Program.Rounds
import ClusterKeeper.Proofs.Program.Talk
import ClusterKeeper.Proofs.Quiescence.ClusterPass
import ClusterKeeper.Proofs.Quiescence.ClusterSteps
import ClusterKeeper.Proofs.Quiescence.ConfigPass
import ClusterKeeper.Proofs.Quiescence.Convergence
import ClusterKeeper.Proofs.Quiescence.Leader
import ClusterKeeper.Proofs.Quiescence.Member
import ClusterKeeper.Proofs.Quiescence.Replicasets
import ClusterKeeper.Proofs.Quiescence.RolePass
import ClusterKeeper.Proofs.Quiescence.RoleSteps
import ClusterKeeper.Proofs.Quiescence.ServiceSync
import ClusterKeeper.Proofs.Quiescence.Steps
import ClusterKeeper.Proofs.Quiescence.Walk
import ClusterKeeper.Proofs.Quiescence.Workload
import ClusterKeeper.Proofs.Replicaset.DriftReport
import ClusterKeeper.Proofs.Replicaset.Identity
import ClusterKeeper.Proofs.Replicaset.Materialisation
import ClusterKeeper.Proofs.Replicaset.Preservation
import ClusterKeeper.Proofs.Replicaset.Selection
import ClusterKeeper.Proofs.Resource.ClusterStatus
import ClusterKeeper.Proofs.Resource.Wire
import ClusterKeeper.Proofs.Simulation.Objects
import ClusterKeeper.Proofs.Simulation.Registry
import ClusterKeeper.Proofs.Simulation.Serving
import ClusterKeeper.Proofs.Simulation.Stage
import ClusterKeeper.Proofs.Simulation.World
import ClusterKeeper.Proofs.SortedMap
import ClusterKeeper.Proofs.Text.Base64
import ClusterKeeper.Proofs.Text.Characters
import ClusterKeeper.Proofs.Text.Hex
import ClusterKeeper.Proofs.Yaml.CoreSchema
import ClusterKeeper.Proofs.Yaml.Numerals
import ClusterKeeper.Proofs.Yaml.TwoLines
import ClusterKeeper.Proofs.Yaml.Words
import ClusterKeeper.Replicaset.Identity
import ClusterKeeper.Replicaset.Manage
import ClusterKeeper.Replicaset.Workload
import ClusterKeeper.Resource.CartridgeConfig
import ClusterKeeper.Resource.Cluster
import ClusterKeeper.Resource.Role
import ClusterKeeper.Simulation.Fault
import ClusterKeeper.Simulation.Objects
import ClusterKeeper.Simulation.Topology
import ClusterKeeper.Simulation.World
import ClusterKeeper.SortedMap
import ClusterKeeper.Store
import ClusterKeeper.Text.Base64
import ClusterKeeper.Text.Blank
import ClusterKeeper.Text.Hex
import ClusterKeeper.Text.Printable
import ClusterKeeper.Text.Quoted
import ClusterKeeper.Yaml.CoreSchema
import ClusterKeeper.Yaml.Cursor
import ClusterKeeper.Yaml.Document
import ClusterKeeper.Yaml.Node
import ClusterKeeper.Yaml.ScalarText
import ClusterKeeper.Yaml.Token
