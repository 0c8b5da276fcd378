import Gatehouse.Simulation.Progress

/-! # Background

The worker and the probers between two movements of the clock. A turn goes on
until its task waits for the clock or for work. The channel serves those who
wait for it one at a time, in the order in which they came.
-/

namespace Gatehouse.Simulation

namespace World

/-- More than the number of jobs and claims that fit into one turn. -/
def turnLimit : Nat := 100000

/-- Somebody is the next to be served by the channel, and there is something in it. -/
def isServed (w : World) (claimant : Claimant) : Bool :=
  decide (w.claimants.head? = some claimant) && !w.workshop.queue.channel.isEmpty

/-- Somebody no longer waits for the channel. -/
def leave (w : World) (claimant : Claimant) : World :=
  { w with claimants := w.claimants.filter fun c => decide (c ≠ claimant) }

/-- Takes the next name from the channel. -/
def claim (w : World) : Option Job × World :=
  let (stamp, w) := w.draw
  let (job, queue) := w.workshop.queue.claim stamp.now
  (job, w.withQueue queue)

/-- Drops the commit tokens whose time is over. -/
def purge (w : World) : World :=
  let (stamp, w) := w.draw
  w.withGateway (w.workshop.gateway.purge stamp.now)

/-- What the worker does after the work on a job went as far as it could. -/
def afterWork : Standing Work Unit × World → World
  | (.ended (), w) => { w with worker := .starting }
  | (.broken, w) => { w with worker := .absent }
  | (.waiting work due, w) => { w with worker := .working work due }

/-- The worker goes on until it waits. -/
def workerTurn : Nat → World → World
  | 0, w => w
  | fuel + 1, w =>
    match w.worker with
    | .absent => w
    | .starting =>
      workerTurn fuel { w with
        worker := .claiming (w.clock + w.settings.claimPollMillis)
        claimants := w.claimants ++ [.worker] }
    | .claiming deadline =>
      if w.isServed .worker then
        match (w.leave .worker).claim with
        | (some job, w) => workerTurn fuel (afterWork (w.work job))
        | (none, w) => workerTurn fuel { w.purge with worker := .starting }
      else if deadline ≤ w.clock then
        workerTurn fuel { (w.leave .worker).purge with worker := .starting }
      else w
    | .working work due =>
      if w.isDue due then workerTurn fuel (afterWork (w.answerWork pointLimit work due))
      else w

/-- A prober may be this many milliseconds late before its next turn counts from now. -/
def toleratedDelay : Nat := 5

/-- When a prober is due again after a turn that was due at a time. -/
def nextTick (w : World) (p : Prober) (tick : Nat) : Nat :=
  if tick + toleratedDelay < w.clock then w.clock + p.periodMillis else tick + p.periodMillis

mutual

/-- A prober goes on until it waits; it is gone when it was told anything or broke down. -/
def proberTurn : Nat → World → Prober → Option Prober × World
  | 0, w, p => (some p, w)
  | fuel + 1, w, p =>
    match p.state with
    | .starting =>
      if p.periodMillis = 0 then (none, w)
      else proberTurn fuel w { p with state := .waiting w.clock }
    | .waiting tick =>
      if p.notice ≠ .none then (none, w)
      else if tick ≤ w.clock then afterProbe fuel (w.nextTick p tick) p w.probe
      else (some p, w)
    | .probing tick round due =>
      if w.isDue due then afterProbe fuel tick p (w.answerProbe w.roundLimit round due)
      else (some p, w)

/-- What a prober does after a round went as far as it could. -/
def afterProbe : Nat → Nat → Prober → Standing ProbeRound Nat × World → Option Prober × World
  | 0, _, p, (_, w) => (some p, w)
  | fuel + 1, tick, p, (.ended _, w) => proberTurn fuel w { p with state := .waiting tick }
  | _ + 1, _, _, (.broken, w) => (none, w)
  | _ + 1, tick, p, (.waiting round due, w) =>
    (some { p with state := .probing tick round due }, w)

end

/-- All probers go on until they wait. -/
def probersTurn (w : World) : World :=
  let (kept, w) := w.probers.foldl (fun (kept, w) p =>
    let (p, w) := w.proberTurn turnLimit p
    (kept ++ p.toList, w)) ([], w)
  { w with probers := kept }

/-- The background goes on until all of it waits. -/
def background (w : World) : World :=
  (w.workerTurn turnLimit).probersTurn

/-- Starts a worker unless there is one. -/
def startWorker (w : World) : Bool × World :=
  if w.isRunning then (false, w) else (true, { w with worker := .starting })

/-- Stops the worker where it waits; the job it works on stays as it is. -/
def stopWorker (w : World) : World :=
  let (stamp, w) := w.draw
  let w := match w.worker with
    | .working work _ => { w with workshop := w.workshop.abandon stamp.now work }
    | .absent | .starting | .claiming _ => w
  { w.leave .worker with worker := .absent }

/-- Tells the prober to stop, if there is one that was not told anything yet. -/
def stopProber (w : World) : World :=
  { w with probers := w.probers.map (·.notified .stopped) }

/-- No prober that was told to stop is still there. -/
def isProberStopped (w : World) : Bool :=
  w.probers.all fun p => p.notice ≠ .stopped

/-- Starts a prober in the place of the one that is there. -/
def startProber (w : World) (periodMillis : Nat) : World :=
  { w with probers :=
      w.probers.map (·.notified .replaced) ++ [⟨periodMillis, .starting, .none⟩] }

end World

end Gatehouse.Simulation
