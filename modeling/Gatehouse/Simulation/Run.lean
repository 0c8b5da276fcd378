import Gatehouse.Simulation.Background

/-! # Runs

What somebody asks of the system, and how it runs until it is answered: tasks
start in order, each up to its first wait; then background and tasks take turns
and the clock moves, from one time at which something is due to the next, only
while everybody waits. A task with a limit is dropped when it takes longer.
-/

namespace Gatehouse.Simulation

/-- What a task brought. -/
inductive Result where
  | outcome (outcome : WriteOutcome)
  | report (report : ExecutionReport)
  | answered (count : Nat)
  | response (response : SubmitResponse)
  | job (job : Option Job)
  | done
  | timedOut
  | broken

/-- A task that somebody waits for. -/
inductive Task where
  | call (stage : Call) (due : Due)
  | execution (stage : Execution) (due : Due)
  | round (stage : ProbeRound) (due : Due)
  | submission (waiting : Waiting) (wakeAt : Nat)
  | claim (deadline : Nat)
  | sleep (wakeAt : Nat)
  | proberStop
  | over (result : Result)

/-- A task and the time at which it is dropped. -/
structure Slot where
  task : Task
  limit : Option Nat

namespace Task

/-- A gateway call as a task. -/
def ofCall : Standing Call WriteOutcome → Task
  | .ended outcome => .over (.outcome outcome)
  | .broken => .over .broken
  | .waiting stage due => .call stage due

/-- An execution as a task. -/
def ofExecution : Standing Execution ExecutionReport → Task
  | .ended report => .over (.report report)
  | .broken => .over .broken
  | .waiting stage due => .execution stage due

/-- A round of probes as a task. -/
def ofRound : Standing ProbeRound Nat → Task
  | .ended count => .over (.answered count)
  | .broken => .over .broken
  | .waiting stage due => .round stage due

/-- A submission as a task. -/
def ofLook : Look → Task
  | .answered response => .over (.response response)
  | .again waiting wakeAt => .submission waiting wakeAt

/-- The result of a task that is over. -/
def result? : Task → Option Result
  | .over result => some result
  | _ => none

/-- A task is over. -/
def isOver (t : Task) : Bool :=
  t.result?.isSome

/-- The time at which a task goes on by itself. -/
def time? : Task → Option Nat
  | .call _ due | .execution _ due | .round _ due => some due.time
  | .submission _ wakeAt | .sleep wakeAt => some wakeAt
  | .claim deadline => some deadline
  | .proberStop | .over _ => none

end Task

namespace World

/-- A task goes on if it can. -/
def poll (w : World) : Task → Task × World
  | .call stage due =>
    if w.isDue due then
      let (standing, w) := w.answerCall pointLimit stage due
      (.ofCall standing, w)
    else (.call stage due, w)
  | .execution stage due =>
    if w.isDue due then
      let (standing, w) := w.answerExecution stage due
      (.ofExecution standing, w)
    else (.execution stage due, w)
  | .round stage due =>
    if w.isDue due then
      let (standing, w) := w.answerProbe w.roundLimit stage due
      (.ofRound standing, w)
    else (.round stage due, w)
  | .submission waiting wakeAt =>
    if wakeAt ≤ w.clock then
      (.ofLook (waiting.look w.settings.waitPollMillis w.workshop.queue w.clock), w)
    else (.submission waiting wakeAt, w)
  | .claim deadline =>
    if w.isServed .caller then
      let (job, w) := (w.leave .caller).claim
      (.over (.job job), w)
    else if deadline ≤ w.clock then (.over (.job none), w.leave .caller)
    else (.claim deadline, w)
  | .sleep wakeAt => if wakeAt ≤ w.clock then (.over .done, w) else (.sleep wakeAt, w)
  | .proberStop => if w.isProberStopped then (.over .done, w) else (.proberStop, w)
  | .over result => (.over result, w)

/-- What remains of a task that is dropped. -/
def dropTask (w : World) (t : Task) : World :=
  let (stamp, w) := w.draw
  match t with
  | .call stage _ => w.withGateway (w.workshop.gateway.abandon stamp.now stage)
  | .execution stage _ => w.withRouter (w.workshop.router.abandoned stage)
  | .claim _ => w.leave .caller
  | .round .. | .submission .. | .sleep _ | .proberStop | .over _ => w

/-- A task goes on if it can, and is dropped if its time is up. -/
def pollSlot (w : World) (slot : Slot) : Slot × World :=
  let (task, w) := w.poll slot.task
  let late := match slot.limit with
    | some limit => !task.isOver && decide (limit ≤ w.clock)
    | none => false
  if late then ({ slot with task := .over .timedOut }, w.dropTask task)
  else ({ slot with task := task }, w)

/-- All tasks go on as far as they can. -/
def pollAll (w : World) : List Slot → List Slot × World
  | [] => ([], w)
  | slot :: rest =>
    let (slot, w) := w.pollSlot slot
    let (rest, w) := w.pollAll rest
    (slot :: rest, w)

/-- A task can go on although the clock has not moved. -/
def isReady (w : World) (slot : Slot) : Bool :=
  match slot.task with
  | .claim _ => w.isServed .caller
  | .proberStop => w.isProberStopped
  | _ => false

/-- The times at which something goes on by itself. -/
def times (w : World) (slots : List Slot) : List Nat :=
  let worker := match w.worker with
    | .claiming deadline => [deadline]
    | .working _ due => [due.time]
    | .absent | .starting => []
  let probers := w.probers.map fun p =>
    match p.state with
    | .waiting tick => tick
    | .probing _ _ due => due.time
    | .starting => w.clock
  let tasks := slots.flatMap fun s =>
    if s.task.isOver then [] else s.task.time?.toList ++ s.limit.toList
  worker ++ probers ++ tasks

/-- More than the number of times at which something goes on in one run. -/
def runLimit : Nat := 10000000

/-- Runs until all tasks are over. -/
def run : Nat → World → List Slot → List Slot × World
  | 0, w, slots => (slots, w)
  | fuel + 1, w, slots =>
    let (slots, w) := w.pollAll slots
    if slots.all fun s => s.task.isOver then (slots, w)
    else
      let w := w.background
      if slots.any w.isReady then run fuel w slots
      else
        match (w.times slots).min? with
        | some time => run fuel { w with clock := max w.clock time } slots
        | none => (slots, w)

/-- Runs tasks that have started and then lets the background go on. -/
def finish (w : World) (tasks : List Task) (limitMillis : Option Nat) : List Result × World :=
  let limit := limitMillis.map (w.clock + ·)
  let (slots, w) := w.run runLimit (tasks.map fun t => ⟨t, limit⟩)
  (slots.map fun s => (s.task.result?).getD .broken, w.background)

/-- The result of a single task. -/
def finishOne (w : World) (task : Task) (limitMillis : Option Nat) : Result × World :=
  let (results, w) := w.finish [task] limitMillis
  (results.headD .broken, w)

/-- Asks for a write, and for its commit if that is wanted. -/
def runRequest (w : World) (envelope : Envelope) (thenCommit : Bool) (limitMillis : Option Nat) :
    Result × World :=
  let (standing, w) := w.request envelope thenCommit
  w.finishOne (.ofCall standing) limitMillis

/-- Starts one task for each argument, in order. -/
def startAll {α : Type} (start : World → α → Task × World) (w : World) (arguments : List α) :
    List Task × World :=
  let (tasks, w) := arguments.foldl (fun (tasks, w) x =>
    let (task, w) := start w x
    (task :: tasks, w)) ([], w)
  (tasks.reverse, w)

/-- Commits under tokens, side by side. -/
def runCommits (w : World) (tokens : List String) (limitMillis : Option Nat) :
    List Result × World :=
  let (tasks, w) := startAll (fun w token =>
    let (standing, w) := w.commit token
    (.ofCall standing, w)) w tokens
  w.finish tasks limitMillis

/-- Has payloads executed, side by side. -/
def runExecutions (w : World) (payloads : List Json) (limitMillis : Option Nat) :
    List Result × World :=
  let (tasks, w) := startAll (fun w payload =>
    let (standing, w) := w.execute payload
    (.ofExecution standing, w)) w payloads
  w.finish tasks limitMillis

/-- Probes every agent. -/
def runProbe (w : World) : Result × World :=
  let (standing, w) := w.probe
  w.finishOne (.ofRound standing) none

/-- The longest wait, in milliseconds, whose end a clock can show. -/
def maxPatience : Nat := pow2 63 * 1000

/-- Hands in a job and waits for it if that is wanted. A wait whose end no clock shows breaks down
after the job has been handed in. -/
def runSubmit (w : World) (s : Submission) : Result × World :=
  let (stamp, w) := w.draw
  let (job, queue) := s.enqueue w.settings w.workshop.queue stamp
  let w := w.withQueue queue
  if !s.wait then w.finishOne (.over (.response (.unawaited job))) none
  else
    let patience := s.patience w.settings
    if maxPatience ≤ patience then w.finishOne (.over .broken) none
    else
      let waiting : Waiting := ⟨job, w.clock + patience⟩
      w.finishOne (.ofLook (waiting.look w.settings.waitPollMillis queue w.clock)) none

/-- Claims a job, waiting so long for one. -/
def runClaim (w : World) (timeoutMillis : Nat) : Result × World :=
  let w := { w with claimants := w.claimants ++ [Claimant.caller] }
  w.finishOne (.claim (w.clock + timeoutMillis)) none

/-- Lets time pass. -/
def runSleep (w : World) (millis : Nat) : Result × World :=
  w.finishOne (.sleep (w.clock + millis)) none

/-- Stops the prober and waits for the round it is in. -/
def runStopProber (w : World) : Result × World :=
  w.stopProber.finishOne .proberStop none

/-- Registers a handler. -/
def registerHandler (w : World) (command : String) (script : Script) : World :=
  let w := w.withGateway (w.workshop.gateway.register command ⟨w.handlers.length⟩)
  { w with handlers := w.handlers ++ [⟨command, script⟩] }

/-- Registers an agent with an adapter of its own. -/
def registerAgent (w : World) (registration : AdapterId → Registration)
    (adapter : ScriptedAdapter) : World :=
  let (stamp, w) := w.draw
  let id : AdapterId := ⟨w.nextAdapter⟩
  let w := w.withRouter (w.workshop.router.register (registration id) stamp.now)
  { w with adapters := w.adapters.put id adapter, nextAdapter := w.nextAdapter + 1 }

/-- A world around a system with the given parts. -/
def new (supply : Supply) (env : Environment) (workshop : Workshop)
    (settings : OrchestratorSettings) (evaluator : Evaluator) (creator : Creator)
    (refusedTypes : List String) : World where
  supply := supply
  clock := 0
  env := env
  workshop := workshop
  settings := settings
  approvals := .empty
  evaluator := evaluator
  creator := creator
  refusedTypes := refusedTypes
  trail := []
  refusals := 0
  questions := []
  evaluations := 0
  created := []
  handlers := []
  adapters := .empty
  nextAdapter := workshop.router.agents.size
  worker := .absent
  probers := []
  claimants := []

/-- A world around an application. -/
def ofApplication (supply : Supply) (env : Environment) (a : Application) : World :=
  { World.new supply env a.workshop a.settings (.guardrails a.guardrails .world) .world [] with
    approvals := a.approvals }

end World

end Gatehouse.Simulation
