import Gatehouse.Config.Report
import Gatehouse.Json.Reader
import Gatehouse.Json.Writer
import Gatehouse.Main
import Gatehouse.Proofs.Gateway.Replay
import Gatehouse.Proofs.Job.Life
import Gatehouse.Proofs.Policy.Guarded
import Gatehouse.Proofs.Policy.Unlocking
import Gatehouse.Proofs.Write.Key
import Gatehouse.Simulation.FileTree
import Gatehouse.Simulation.Relabel
import Gatehouse.Simulation.Run
import Gatehouse.Proofs.Agent.Admission
import Gatehouse.Proofs.Agent.Books
import Gatehouse.Proofs.Agent.Deployment
import Gatehouse.Proofs.Agent.Failures
import Gatehouse.Proofs.Agent.Heartbeats
import Gatehouse.Proofs.Agent.Routing
import Gatehouse.Proofs.Agent.Slots
import Gatehouse.Proofs.Agent.Fitness
import Gatehouse.Proofs.Orchestrator.Handling
import Gatehouse.Proofs.Orchestrator.Shift
import Gatehouse.Proofs.Orchestrator.Records
import Gatehouse.Proofs.Orchestrator.Drive
import Gatehouse.Proofs.Orchestrator.Fate
import Gatehouse.Proofs.Orchestrator.Endurance
import Gatehouse.Proofs.Job.Index
import Gatehouse.Proofs.Policy.Steering
import Gatehouse.Proofs.Orchestrator.Unswayed
import Gatehouse.Proofs.Orchestrator.Resubmission
import Gatehouse.Proofs.Orchestrator.Patience
import Gatehouse.Proofs.Gateway.Entries
import Gatehouse.Proofs.Gateway.Leases
import Gatehouse.Proofs.Gateway.Answers
import Gatehouse.Proofs.Gateway.PhaseOne
import Gatehouse.Proofs.Config.Precedence
import Gatehouse.Proofs.Agent.Breaker
import Gatehouse.Proofs.Wire
import Gatehouse.Proofs.Config.Grammar
import Gatehouse.Proofs.Agent.Wiring
import Gatehouse.Proofs.Gateway.Independence
import Gatehouse.Proofs.Orchestrator.Trail
import Gatehouse.Proofs.Agent.Replacement
import Gatehouse.Proofs.Agent.Capabilities
import Gatehouse.Proofs.Policy.Decisions
import Gatehouse.Proofs.Agent.Vigil
import Gatehouse.Proofs.Gateway.LastEvent
import Gatehouse.Proofs.Gateway.Keys
import Gatehouse.Proofs.Agent.Ranges
