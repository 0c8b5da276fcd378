import Gatehouse.Agent.Binding
import Gatehouse.Agent.Registration
import Gatehouse.Agent.Task
import Gatehouse.Stamp

/-! # The router

The router sends a command to the first eligible agent that lists it. From the
choice of the agent to the call of its adapter nothing else happens; while the
adapter works, the execution holds one of the agent's slots, and it gives the
slot back however it ends. The adapter itself is outside: `Router.execute` ends
where it is called, and `Router.finished` goes on with what it answered.
-/

namespace Gatehouse

/-- The registered agents in order of first registration, and the books on them. -/
structure Router where
  fleet : Fleet
  agents : Table String Registration
  deriving DecidableEq

/-- An execution whose adapter is at work; it holds a slot of its agent. -/
structure Execution where
  task : AgentTask
  target : String
  adapter : AdapterId
  deriving DecidableEq

/-- What becomes of a payload: a report at once, or an adapter to wait for. -/
inductive Dispatch where
  | reported (report : ExecutionReport)
  | running (execution : Execution)
  deriving DecidableEq

/-- A round of probes, waiting for the answer of one agent. -/
structure ProbeRound where
  agent : Registration
  target : String
  remaining : List Registration
  answered : Nat
  deriving DecidableEq

/-- How far a round of probes is: over, with the number of agents that answered, or waiting. -/
inductive ProbeProgress where
  | done (answered : Nat)
  | waiting (round : ProbeRound)
  deriving DecidableEq

namespace Router

/-- A router without agents. -/
def new (settings : FleetSettings) : Router := ⟨.new settings, .empty⟩

/-- Adds an agent, or replaces the one of the same name in its place. -/
def register (r : Router) (registration : Registration) (now : Moment) : Router where
  fleet := r.fleet.register registration.name registration.maxConcurrency now
  agents := r.agents.put registration.name registration

/-- The names of the agents. -/
def names (r : Router) : List String :=
  r.agents.keys

/-- Looks through registrations for the first eligible agent. -/
def firstEligible (fleet : Fleet) (now : Moment) : List Registration → Fleet × Option Registration
  | [] => (fleet, none)
  | agent :: rest =>
    let looked := fleet.checked agent.name now
    if fleet.isEligible agent.name now then (looked, some agent)
    else firstEligible looked now rest

/-- Chooses the first eligible agent for a command. -/
def select (r : Router) (command : String) (now : Moment) : Router × Option Registration :=
  let candidates := r.agents.values.filter fun a => a.handles command
  let (fleet, found) := firstEligible r.fleet now candidates
  ({ r with fleet := fleet }, found)

/-- The command that a payload asks for: a text that is not blank, without the blanks around it. -/
def commandOf (payload : Json) : Option String :=
  match (payload.get? "command").bind Json.text? with
  | some command =>
    let command := Text.trim command
    if command = "" then none else some command
  | none => none

/-- Finds an agent for a payload and takes one of its slots. -/
def execute (r : Router) (env : Environment) (stamp : Stamp) (payload : Json) :
    Router × Dispatch :=
  match commandOf payload with
  | none => (r, .reported (.rejected "missing_command"))
  | some command =>
    match r.select command stamp.now with
    | (r, none) => (r, .reported (.rejected "no_available_agent_or_backpressure"))
    | (r, some agent) =>
      match Binding.resolve env agent.executor with
      | .error fault =>
        (r, .reported
          ⟨false, none, some agent.name, none, some "executor_binding_unresolved",
            some fault.text⟩)
      | .ok target =>
        match r.fleet.load.reserve agent.name stamp.now with
        | .error e =>
          (r, .reported
            ⟨false, none, some agent.name, none, some "backpressure_rejected", some e.message⟩)
        | .ok (_, load) =>
          ({ r with fleet := { r.fleet with load := load } },
            .running ⟨⟨stamp.id, agent.name, command, payload⟩, target, agent.adapter⟩)

/-- Gives back the slot of an execution that ends without an answer. -/
def abandoned (r : Router) (e : Execution) : Router :=
  { r with fleet := { r.fleet with load := r.fleet.load.release e.task.agent } }

/-- Writes down the answer of an adapter, gives back the slot and reports. There is no report when
the failure should have opened a cooldown whose end no calendar shows. -/
def finished (r : Router) (e : Execution) (now : Moment) :
    Except Fault Json → Router × Option ExecutionReport
  | .ok result =>
    let agent := e.task.agent
    let fleet := { r.fleet with
      load := (r.fleet.load.succeeded agent).release agent
      health := r.fleet.health.heartbeat agent now }
    ({ r with fleet := fleet },
      some ⟨true, some e.task.execution, some agent, some result, none, none⟩)
  | .error fault =>
    let agent := e.task.agent
    let (load, effect) := r.fleet.load.failed agent now
    match effect with
    | .overflow => ({ r with fleet := { r.fleet with load := load.release agent } }, none)
    | .counted | .opened =>
      let fleet := { r.fleet with
        load := load.release agent
        health := r.fleet.health.unhealthy agent (some fault.text) now }
      ({ r with fleet := fleet },
        some ⟨false, some e.task.execution, some agent, none, some "agent_execution_failed",
          some fault.text⟩)

/-- Writes down what a probe of an agent brought. -/
def markProbe (r : Router) (agent : String) (now : Moment) : Except Fault Unit → Router
  | .ok () => { r with fleet := { r.fleet with health := r.fleet.health.heartbeat agent now } }
  | .error fault =>
    { r with fleet :=
      { r.fleet with health := r.fleet.health.unhealthy agent (some fault.text) now } }

/-- Goes on with a round of probes up to the next agent whose target is known. -/
def nextProbe (env : Environment) (now : Moment) (answered : Nat) :
    List Registration → Router → Router × ProbeProgress
  | [], r => (r, .done answered)
  | agent :: rest, r =>
    match Binding.resolve env agent.executor with
    | .ok target => (r, .waiting ⟨agent, target, rest, answered⟩)
    | .error fault => nextProbe env now answered rest (r.markProbe agent.name now (.error fault))

/-- Starts a round of probes of every agent. -/
def startProbes (r : Router) (env : Environment) (now : Moment) : Router × ProbeProgress :=
  nextProbe env now 0 r.agents.values r

/-- Writes down the answer to a probe and goes on with the round. -/
def probed (r : Router) (round : ProbeRound) (env : Environment) (now : Moment)
    (answer : Except Fault Unit) : Router × ProbeProgress :=
  let answered := match answer with
    | .ok () => round.answered + 1
    | .error _ => round.answered
  nextProbe env now answered round.remaining (r.markProbe round.agent.name now answer)

/-- Every agent with what is known about it. -/
def snapshot (r : Router) : List RoutedAgent :=
  r.agents.values.map fun a => ⟨a.capabilities, a.executor, r.fleet.snapshot a.name⟩

end Router

end Gatehouse
