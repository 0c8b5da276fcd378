import Gatehouse.Application
import Gatehouse.Simulation.Script
import Gatehouse.Simulation.Supply

/-! # A world for the system

Everything around the system that it can talk to, played by scripts: the
evaluator, the approval creator, the audit sink, handlers, adapters, a clock
that moves only when it is told to, and a record of who asked for what.
`World.consult` plays whoever a gateway call waits for.
-/

namespace Gatehouse.Simulation

/-- Where the guardrails look up how an approval stands. -/
inductive StatusSource where
  | world
  | emptyBook
  | failing (fault : Fault)
  deriving DecidableEq

/-- Who evaluates writes: the guardrails, or a list of answers of which the last one repeats. -/
inductive Evaluator where
  | guardrails (policy : Guardrails) (source : StatusSource)
  | scripted (answers : List (Except Fault Decision))

/-- Who opens approvals. -/
inductive Creator where
  | nobody
  | world
  | fixed (answer : Except Fault String)

/-- A handler that was registered, and for which command. -/
structure ScriptedHandler where
  command : String
  script : Script

/-- The adapter of an agent. Without a script for probes it answers every probe. -/
structure ScriptedAdapter where
  name : String
  script : Script
  probe : Option Script

/-- An answer that is due at a time of the clock. -/
structure Due where
  time : Nat
  action : Action
  deriving DecidableEq

/-- What the worker of the orchestrator is doing. -/
inductive WorkerState where
  | absent
  | starting
  | claiming (deadline : Nat)
  | working (work : Work) (due : Due)

/-- What a prober is doing between two turns. -/
inductive ProberState where
  | starting
  | waiting (tick : Nat)
  | probing (nextTick : Nat) (round : ProbeRound) (due : Due)

/-- What a prober was told: nothing, that another one takes its place, or to stop while somebody
waits for that. -/
inductive Notice where
  | none
  | replaced
  | stopped
  deriving DecidableEq

/-- A prober, how often it probes, and what it was told. -/
structure Prober where
  periodMillis : Nat
  state : ProberState
  notice : Notice

/-- The prober with a notice, unless it has one already. -/
def Prober.notified (p : Prober) (notice : Notice) : Prober :=
  if p.notice = .none then { p with notice := notice } else p

/-- Who waits for the next name in the queue's channel. -/
inductive Claimant where
  | worker
  | caller
  deriving DecidableEq

/-- The system and everything around it. -/
structure World where
  supply : Supply
  /-- The time in milliseconds. -/
  clock : Nat
  env : Environment
  workshop : Workshop
  settings : OrchestratorSettings
  approvals : ApprovalBook
  evaluator : Evaluator
  creator : Creator
  /-- The event types that the audit sink refuses; a star stands for all. -/
  refusedTypes : List String
  trail : List AuditEvent
  refusals : Nat
  questions : List PolicyRequest
  evaluations : Nat
  created : List (Envelope × Json)
  handlers : List ScriptedHandler
  adapters : Table AdapterId ScriptedAdapter
  nextAdapter : Nat
  worker : WorkerState
  probers : List Prober
  /-- Who waits for the channel, the one who is served first in front. -/
  claimants : List Claimant

namespace World

/-- Draws a stamp. -/
def draw (w : World) : Stamp × World :=
  (w.supply.stamp, { w with supply := w.supply.next })

/-- Records an event unless the sink refuses it. -/
def record (w : World) (event : AuditEvent) : Bool × World :=
  if "*" ∈ w.refusedTypes ∨ event.type ∈ w.refusedTypes then
    (false, { w with refusals := w.refusals + 1 })
  else (true, { w with trail := w.trail ++ [event] })

/-- How an approval stands, as far as the evaluator can find out. -/
def statusFrom (w : World) : StatusSource → String → Except Fault (Option ApprovalState)
  | .world, id => .ok (w.approvals.state? id)
  | .emptyBook, _ => .ok none
  | .failing fault, _ => .error fault

/-- The answer of the evaluator. -/
def evaluate (w : World) (question : PolicyRequest) : Except Fault Decision × World :=
  let asked := { w with
    questions := w.questions ++ [question], evaluations := w.evaluations + 1 }
  match w.evaluator with
  | .guardrails policy source => (policy.decide (w.statusFrom source) question, asked)
  | .scripted answers =>
    match answers[w.evaluations]? <|> answers.getLast? with
    | some answer => (answer, asked)
    | none => (.ok (.allow none), asked)

/-- The answer of the approval creator. -/
def openApproval (w : World) (envelope : Envelope) (payload : Json) : Except Fault String × World :=
  match w.creator with
  | .nobody => (.error (.internal "nobody opens approvals"), w)
  | .world =>
    let (stamp, w) := w.draw
    (.ok (ApprovalBook.nameFor stamp), { w with approvals := w.approvals.opened stamp })
  | .fixed answer => (answer, { w with created := w.created ++ [(envelope, payload)] })

/-- Calls the script of a handler. -/
def callHandler (w : World) (handler : HandlerId) : Due × World :=
  match w.handlers[handler.index]? with
  | some h =>
    let (behaviour, script) := h.script.call
    (⟨w.clock + behaviour.delayMillis, behaviour.action⟩,
      { w with handlers := w.handlers.set handler.index { h with script := script } })
  | none => (⟨w.clock, .echoes⟩, w)

/-- The fault of an adapter that has no script. -/
def unreachable : Fault := .integration "executor is not reachable"

/-- Calls the script of an adapter. -/
def callAdapter (w : World) (adapter : AdapterId) : Due × World :=
  match w.adapters.get? adapter with
  | some a =>
    let (behaviour, script) := a.script.call
    (⟨w.clock + behaviour.delayMillis, behaviour.action⟩,
      { w with adapters := w.adapters.put adapter { a with script := script } })
  | none => (⟨w.clock, .fails unreachable⟩, w)

/-- Calls the probe script of an adapter. -/
def callProbe (w : World) (adapter : AdapterId) : Due × World :=
  match w.adapters.get? adapter with
  | some a =>
    match a.probe with
    | some probe =>
      let (behaviour, probe) := probe.call
      (⟨w.clock + behaviour.delayMillis, behaviour.action⟩,
        { w with adapters := w.adapters.put adapter { a with probe := some probe } })
    | none => (⟨w.clock, .echoes⟩, w)
  | none => (⟨w.clock, .fails unreachable⟩, w)

/-- Plays whoever a gateway call waits for: the reply, or when a handler will answer. -/
def consult (w : World) : Awaited → (Reply ⊕ Due) × World
  | .sink event =>
    let (accepted, w) := w.record event
    (.inl (.recorded accepted), w)
  | .evaluator question =>
    let (answer, w) := w.evaluate question
    (.inl (.decided answer), w)
  | .creator envelope payload =>
    let (answer, w) := w.openApproval envelope payload
    (.inl (.opened answer), w)
  | .handler handler _ =>
    let (due, w) := w.callHandler handler
    (.inr due, w)

/-- What a handler or an adapter is handed, as it would give it back. -/
def handedTo : Awaited → Json
  | .handler _ envelope => envelope.toJson
  | .sink _ | .evaluator _ | .creator .. => .null

/-- What an adapter is handed, as it would give it back. -/
def handedToAdapter (e : Execution) : Json :=
  .ofFields [("target", .str e.target), ("task", e.task.toJson)]

/-- The world with another gateway. -/
def withGateway (w : World) (gateway : Gateway) : World :=
  { w with workshop := { w.workshop with gateway := gateway } }

/-- The world with another router. -/
def withRouter (w : World) (router : Router) : World :=
  { w with workshop := { w.workshop with router := router } }

/-- The world with another queue. -/
def withQueue (w : World) (queue : JobQueue) : World :=
  { w with workshop := { w.workshop with queue := queue } }

/-- A worker is there. -/
def isRunning (w : World) : Bool :=
  match w.worker with
  | .absent => false
  | .starting | .claiming _ | .working .. => true

end World

end Gatehouse.Simulation
