import Gatehouse.Simulation.World

/-! # Going on until somebody waits

What happens between two movements of the clock: calls, executions, probe
rounds and the work on jobs go on until they end or wait for an answer that is
not due yet. The number of points that one of them can pass without the clock
moving is bounded, and the fuel with it.
-/

namespace Gatehouse.Simulation

/-- Where a call, an execution or a round stands: ended with a result, broken down, or waiting. -/
inductive Standing (α ρ : Type) where
  | ended (result : ρ)
  | broken
  | waiting (stage : α) (due : Due)

namespace World

/-- More than the number of points that a call or the work on a job can pass. -/
def pointLimit : Nat := 64

/-- An answer is due. -/
def isDue (w : World) (due : Due) : Bool :=
  due.time ≤ w.clock

mutual

/-- Goes on with a gateway call. -/
def driveCall : Nat → World → Progress → Standing Call WriteOutcome × World
  | 0, w, _ => (.broken, w)
  | _ + 1, w, .answered outcome => (.ended outcome, w)
  | _ + 1, w, .broken => (.broken, w)
  | fuel + 1, w, .waiting call =>
    match w.consult call.awaits with
    | (.inl reply, w) =>
      let (stamp, w) := w.draw
      let (gateway, progress) := w.workshop.gateway.resume stamp call reply
      driveCall fuel (w.withGateway gateway) progress
    | (.inr due, w) =>
      if w.isDue due then answerCall fuel w call due else (.waiting call due, w)

/-- Goes on with a gateway call whose handler is to answer now. -/
def answerCall : Nat → World → Call → Due → Standing Call WriteOutcome × World
  | 0, w, _, _ => (.broken, w)
  | fuel + 1, w, call, due =>
    let (stamp, w) := w.draw
    match due.action.answer (handedTo call.awaits) with
    | none => (.broken, w.withGateway (w.workshop.gateway.abandon stamp.now call))
    | some answer =>
      let (gateway, progress) := w.workshop.gateway.resume stamp call (.applied answer)
      driveCall fuel (w.withGateway gateway) progress

end

/-- Goes on with an execution whose adapter is to answer now. -/
def answerExecution (w : World) (e : Execution) (due : Due) :
    Standing Execution ExecutionReport × World :=
  let (stamp, w) := w.draw
  match due.action.answer (handedToAdapter e) with
  | none => (.broken, w.withRouter (w.workshop.router.abandoned e))
  | some answer =>
    match w.workshop.router.finished e stamp.now answer with
    | (router, some report) => (.ended report, w.withRouter router)
    | (router, none) => (.broken, w.withRouter router)

/-- Has a payload executed. -/
def execute (w : World) (payload : Json) : Standing Execution ExecutionReport × World :=
  let (stamp, w) := w.draw
  let (router, dispatch) := w.workshop.router.execute w.env stamp payload
  let w := w.withRouter router
  match dispatch with
  | .reported report => (.ended report, w)
  | .running e =>
    let (due, w) := w.callAdapter e.adapter
    if w.isDue due then w.answerExecution e due else (.waiting e due, w)

/-- What an answer to a probe says. -/
def probeAnswer : Except Fault Json → Except Fault Unit
  | .ok _ => .ok ()
  | .error fault => .error fault

mutual

/-- Goes on with a round of probes; the fuel is more than twice the number of agents left. -/
def driveRound : Nat → World → ProbeProgress → Standing ProbeRound Nat × World
  | 0, w, _ => (.broken, w)
  | _ + 1, w, .done answered => (.ended answered, w)
  | fuel + 1, w, .waiting round =>
    let (due, w) := w.callProbe round.agent.adapter
    if w.isDue due then answerProbe fuel w round due else (.waiting round due, w)

/-- Goes on with a round of probes in which an agent is to answer now. -/
def answerProbe : Nat → World → ProbeRound → Due → Standing ProbeRound Nat × World
  | 0, w, _, _ => (.broken, w)
  | fuel + 1, w, round, due =>
    let (stamp, w) := w.draw
    match due.action.answer .null with
    | none => (.broken, w)
    | some answer =>
      let (router, progress) :=
        w.workshop.router.probed round w.env stamp.now (probeAnswer answer)
      driveRound fuel (w.withRouter router) progress

end

/-- Fuel for a round of probes of all agents. -/
def roundLimit (w : World) : Nat :=
  2 * w.workshop.router.agents.size + 2

/-- Probes every agent. -/
def probe (w : World) : Standing ProbeRound Nat × World :=
  let (stamp, w) := w.draw
  let (router, progress) := w.workshop.router.startProbes w.env stamp.now
  let w := w.withRouter router
  w.driveRound w.roundLimit progress

mutual

/-- Goes on with the work on a job. -/
def driveWork : Nat → World → WorkProgress → Standing Work Unit × World
  | 0, w, _ => (.broken, w)
  | _ + 1, w, .done => (.ended (), w)
  | _ + 1, w, .broken => (.broken, w)
  | _ + 1, w, .waiting (.recording event) => (.ended (), (w.record event).2)
  | fuel + 1, w, .waiting (.executing job e) =>
    let (due, w) := w.callAdapter e.adapter
    if w.isDue due then answerWork fuel w (.executing job e) due
    else (.waiting (.executing job e) due, w)
  | fuel + 1, w, .waiting (.writing job call) =>
    match w.consult call.awaits with
    | (.inl reply, w) =>
      let (stamp, w) := w.draw
      let (workshop, progress) :=
        w.workshop.replied w.settings.summaryKeys stamp job call reply
      driveWork fuel { w with workshop := workshop } progress
    | (.inr due, w) =>
      if w.isDue due then answerWork fuel w (.writing job call) due
      else (.waiting (.writing job call) due, w)

/-- Goes on with the work on a job for which an answer is to come now. -/
def answerWork : Nat → World → Work → Due → Standing Work Unit × World
  | 0, w, _, _ => (.broken, w)
  | fuel + 1, w, work, due =>
    let (stamp, w) := w.draw
    let abandoned := { w with workshop := w.workshop.abandon stamp.now work }
    match work with
    | .recording _ => (.ended (), w)
    | .executing job e =>
      match due.action.answer (handedToAdapter e) with
      | none => (.broken, abandoned)
      | some answer =>
        let (workshop, progress) :=
          w.workshop.executed w.settings.summaryKeys stamp job e answer
        driveWork fuel { w with workshop := workshop } progress
    | .writing job call =>
      match due.action.answer (handedTo call.awaits) with
      | none => (.broken, abandoned)
      | some answer =>
        let (workshop, progress) :=
          w.workshop.replied w.settings.summaryKeys stamp job call (.applied answer)
        driveWork fuel { w with workshop := workshop } progress

end

/-- Has a claimed job done. -/
def work (w : World) (job : Job) : Standing Work Unit × World :=
  let (stamp, w) := w.draw
  let (workshop, progress) := w.workshop.start w.env w.settings.summaryKeys stamp job
  { w with workshop := workshop }.driveWork pointLimit progress

/-- Starts a write request. -/
def request (w : World) (envelope : Envelope) (thenCommit : Bool) :
    Standing Call WriteOutcome × World :=
  let (stamp, w) := w.draw
  w.driveCall pointLimit (Gateway.request stamp envelope thenCommit)

/-- Starts a commit. -/
def commit (w : World) (token : String) : Standing Call WriteOutcome × World :=
  let (stamp, w) := w.draw
  let (gateway, progress) := w.workshop.gateway.commit stamp token
  (w.withGateway gateway).driveCall pointLimit progress

end World

end Gatehouse.Simulation
