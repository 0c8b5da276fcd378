import Gatehouse.Proofs.Agent.Books

/-! # A router at work

Any number of executions can be under way through one router, each of them
waiting for its adapter, and so can rounds of probes, each waiting for the
answer of one agent. Meanwhile agents are registered again, marked, isolated
and released by others. A run is any list of such actions: in which order they
come, what adapters answer and what the clock shows is left open. An action
that does not fit the state changes nothing. An execution is dropped when its
caller goes away and when its adapter breaks down.

The history keeps what was done to the books in order. `Change` lists the ways
in which the books and the history change together, one entry at a time, and
`step_changes` says that every action is a row of such changes.
-/

namespace Gatehouse

/-- The name of an execution under way, or of a round of probes. -/
structure Ticket where
  number : Nat
  deriving DecidableEq

/-- How an execution ended that held a slot. -/
inductive Ending where
  | succeeded
  | failed (fault : Fault)
  /-- It failed, and the cooldown that was due ends on a day that no calendar shows. -/
  | brokeDown (fault : Fault)
  | dropped
  deriving DecidableEq

/-- What is written down about agents. -/
inductive AgentEvent where
  | listed (registration : Registration)
  /-- The ceiling of an agent was set to what was asked for. -/
  | ceiled (agent : String) (wanted : Option Nat)
  | marked (agent : String) (mark : HealthMark) (now : Moment)
  | isolated (agent : String)
  | released (agent : String)
  /-- A cooldown of an agent was opened. -/
  | cooled (agent : String) (now : Moment)
  /-- The adapter of an agent was called. -/
  | started (ticket : Ticket) (execution : Execution) (now : Moment)
  | ended (ticket : Ticket) (agent : String) (ending : Ending) (now : Moment)
  deriving DecidableEq

namespace AgentEvent

/-- The execution that an event is about. -/
def ticket? : AgentEvent → Option Ticket
  | .started ticket .. | .ended ticket .. => some ticket
  | _ => none

/-- What is said about the health of an agent, and when. -/
def mark? (agent : String) : AgentEvent → Option (HealthMark × Moment)
  | .marked other said now => if other = agent then some (said, now) else none
  | _ => none

/-- The last thing of some kind in a history. -/
def latest {α : Type} (pick : AgentEvent → Option α) (history : List AgentEvent) : Option α :=
  (history.filterMap pick).getLast?

theorem latest_append {α : Type} (pick : AgentEvent → Option α) (history added : List AgentEvent) :
    latest pick (history ++ added) = (latest pick added).or (latest pick history) := by
  rw [latest, List.filterMap_append, List.getLast?_append]
  rfl

theorem filterMap_append_of_none {α : Type} {pick : AgentEvent → Option α}
    (history : List AgentEvent) {added : List AgentEvent}
    (hnone : ∀ event ∈ added, pick event = none) :
    (history ++ added).filterMap pick = history.filterMap pick := by
  rw [List.filterMap_append, List.filterMap_eq_nil_iff.mpr hnone, List.append_nil]

theorem latest_append_of_none {α : Type} {pick : AgentEvent → Option α}
    (history : List AgentEvent) {added : List AgentEvent}
    (hnone : ∀ event ∈ added, pick event = none) :
    latest pick (history ++ added) = latest pick history := by
  rw [latest, filterMap_append_of_none history hnone, ← latest]

@[simp] theorem latest_singleton {α : Type} (pick : AgentEvent → Option α) (event : AgentEvent) :
    latest pick [event] = pick event := by
  cases hpick : pick event <;> simp [latest, hpick]

end AgentEvent

/-- What a router can make of a payload: it looks at some agents and reports, or gives a slot of an
eligible agent to an execution. -/
inductive Router.Executed (r : Router) (stamp : Stamp) (payload : Json) :
    Router × Dispatch → Prop where
  | reported (agents : List String) (report : ExecutionReport) :
      Executed r stamp payload
        ({ r with fleet := lookedAt r.fleet stamp.now agents }, .reported report)
  | running (agents : List String) (registration : Registration) (command target : String)
      (taken : Nat) (load : LoadBook) (hlisted : registration ∈ r.agents.values)
      (hcommand : commandOf payload = some command) (hhandles : registration.handles command)
      (heligible : r.fleet.isEligible registration.name stamp.now)
      (hreserve : (lookedAt r.fleet stamp.now agents).load.reserve registration.name stamp.now =
        .ok (taken, load)) :
      Executed r stamp payload
        ({ r with fleet := { lookedAt r.fleet stamp.now agents with load := load } },
          .running ⟨⟨stamp.id, registration.name, command, payload⟩, target,
            registration.adapter⟩)

theorem Router.executed (r : Router) (env : Environment) (stamp : Stamp) (payload : Json) :
    r.Executed stamp payload (r.execute env stamp payload) := by
  unfold execute
  cases hcommand : commandOf payload with
  | none => exact .reported [] _
  | some command =>
      obtain ⟨agents, found, hfirst, hfound⟩ := firstEligible_cases r.fleet stamp.now
        (r.agents.values.filter fun a => a.handles command)
      have hselect : r.select command stamp.now =
          ({ r with fleet := lookedAt r.fleet stamp.now agents }, found) := by
        simp only [select, hfirst]
      cases found with
      | none =>
          simp only [hselect]
          exact .reported agents _
      | some registration =>
          obtain ⟨hmem, heligible⟩ := hfound registration rfl
          obtain ⟨hlisted, hhandles⟩ := List.mem_filter.mp hmem
          simp only [hselect]
          cases Binding.resolve env registration.executor with
          | error fault => exact .reported agents _
          | ok target =>
              simp only
              cases hreserve : (lookedAt r.fleet stamp.now agents).load.reserve registration.name
                  stamp.now with
              | error e => exact .reported agents _
              | ok given =>
                  exact .running agents registration command target given.1 given.2 hlisted
                    hcommand hhandles heligible hreserve

/-- A router, what is under way through it, and everything written down so far. -/
structure Deployment where
  router : Router
  executions : Table Ticket Execution
  rounds : Table Ticket ProbeRound
  history : List AgentEvent

namespace Deployment

open AgentEvent (latest mark?)

/-- What can happen to a router with executions under way. -/
inductive Action where
  | register (registration : Registration) (now : Moment)
  /-- Somebody starts the records of an agent without a registration. -/
  | enlist (agent : String) (wanted : Option Nat) (now : Moment)
  | execute (ticket : Ticket) (env : Environment) (stamp : Stamp) (payload : Json)
  | answer (ticket : Ticket) (now : Moment) (answer : Except Fault Json)
  | drop (ticket : Ticket) (now : Moment)
  | probe (ticket : Ticket) (env : Environment) (now : Moment)
  | probed (ticket : Ticket) (env : Environment) (now : Moment) (answer : Except Fault Unit)
  | leaveProbes (ticket : Ticket) (now : Moment)
  | route (command : String) (now : Moment)
  | look (agent : String) (now : Moment)
  | mark (agent : String) (mark : HealthMark) (now : Moment)
  | countFailure (agent : String) (now : Moment)
  | countSuccess (agent : String) (now : Moment)
  | isolate (agent : String) (reason : Option String) (now : Moment)
  | release (agent : String) (now : Moment)

/-- What the clock shows when an action comes. -/
def Action.now : Action → Moment
  | .execute _ _ stamp _ => stamp.now
  | .register _ now | .enlist _ _ now | .answer _ now _ | .drop _ now | .probe _ _ now
  | .probed _ _ now _ | .leaveProbes _ now | .route _ now | .look _ now | .mark _ _ now
  | .countFailure _ now | .countSuccess _ now | .isolate _ _ now | .release _ now => now

/-- A router without agents, with any time to live and any policy. -/
def start (ttl : Span) (policy : LoadPolicy) : Deployment where
  router := ⟨⟨.new ttl, .new policy, .empty⟩, .empty⟩
  executions := .empty
  rounds := .empty
  history := []

variable {d : Deployment} {now : Moment}

def health (d : Deployment) : HealthBook := d.router.fleet.health

def load (d : Deployment) : LoadBook := d.router.fleet.load

def isolation (d : Deployment) : IsolationBook := d.router.fleet.isolation

def withFleet (d : Deployment) (fleet : Fleet) : Deployment :=
  { d with router := { d.router with fleet := fleet } }

def withHealth (d : Deployment) (book : HealthBook) : Deployment :=
  d.withFleet { d.router.fleet with health := book }

def withLoad (d : Deployment) (book : LoadBook) : Deployment :=
  d.withFleet { d.router.fleet with load := book }

def withIsolation (d : Deployment) (book : IsolationBook) : Deployment :=
  d.withFleet { d.router.fleet with isolation := book }

/-- Writes down something that happened. -/
def saw (d : Deployment) (event : AgentEvent) : Deployment :=
  { d with history := d.history ++ [event] }

/-- Somebody says something about the health of an agent. -/
def marking (d : Deployment) (agent : String) (said : HealthMark) (now : Moment) : Deployment :=
  (d.withHealth (d.health.mark agent said now)).saw (.marked agent said now)

/-- The cooldown that a failure opens. -/
def cooldowns (agent : String) (now : Moment) : FailureEffect → List AgentEvent
  | .opened => [.cooled agent now]
  | .counted | .overflow => []

/-- A failure of an agent is counted, and may open a cooldown. -/
def failing (d : Deployment) (agent : String) (now : Moment) : Deployment :=
  { d.withLoad (d.load.failed agent now).1 with
    history := d.history ++ cooldowns agent now (d.load.failed agent now).2 }

/-- An execution ends and gives back its slot. -/
def close (d : Deployment) (ticket : Ticket) (execution : Execution) (ending : Ending)
    (now : Moment) : Deployment :=
  { d.withLoad (d.load.release execution.task.agent) with
    executions := d.executions.erase ticket }.saw (.ended ticket execution.task.agent ending now)

/-- No execution has had the name of a ticket so far. -/
def isNew (d : Deployment) (ticket : Ticket) : Bool :=
  d.history.all fun event => event.ticket? ≠ some ticket

/-- How an execution ends whose adapter answers, and what is written down before. -/
def endings (d : Deployment) (ticket : Ticket) (agent : String) (now : Moment) :
    Except Fault Json → List AgentEvent
  | .ok _ => [.marked agent .heartbeat now, .ended ticket agent .succeeded now]
  | .error fault =>
    match (d.load.failed agent now).2 with
    | .overflow => [.ended ticket agent (.brokeDown fault) now]
    | effect => cooldowns agent now effect ++
      [.marked agent (.unhealthy (some fault.text)) now, .ended ticket agent (.failed fault) now]

/-- What the answer to a probe says about an agent. -/
def probeMark : Except Fault Unit → HealthMark
  | .ok () => .heartbeat
  | .error fault => .unhealthy (some fault.text)

/-- The marks of the agents that a round of probes passes because their target is not known. -/
def passed (env : Environment) (now : Moment) : List Registration → List AgentEvent
  | [] => []
  | agent :: rest =>
    match Binding.resolve env agent.executor with
    | .ok _ => []
    | .error fault =>
      .marked agent.name (probeMark (.error fault)) now :: passed env now rest

/-- The rounds after one of them has got so far. -/
def placeRound (rounds : Table Ticket ProbeRound) (ticket : Ticket) :
    ProbeProgress → Table Ticket ProbeRound
  | .waiting round => rounds.put ticket round
  | .done _ => rounds.erase ticket

/-- A round of probes goes on. -/
def advanceRound (d : Deployment) (ticket : Ticket) (after : Router × ProbeProgress)
    (seen : List AgentEvent) : Deployment :=
  { d with
    router := after.1
    rounds := placeRound d.rounds ticket after.2
    history := d.history ++ seen }

/-- What an action makes of the deployment. -/
def step (d : Deployment) : Action → Deployment
  | .register registration now =>
    { d with
      router := d.router.register registration now
      history := d.history ++
        [.ceiled registration.name registration.maxConcurrency, .listed registration] }
  | .enlist agent wanted now =>
    (d.withFleet (d.router.fleet.register agent wanted now)).saw (.ceiled agent wanted)
  | .execute ticket env stamp payload =>
    if d.isNew ticket then
      match d.router.execute env stamp payload with
      | (router, .reported _) => { d with router := router }
      | (router, .running execution) =>
        { d with
          router := router
          executions := d.executions.put ticket execution
          history := d.history ++ [.started ticket execution stamp.now] }
    else d
  | .answer ticket now answer =>
    match d.executions.get? ticket with
    | some execution =>
      { d with
        router := (d.router.finished execution now answer).1
        executions := d.executions.erase ticket
        history := d.history ++ d.endings ticket execution.task.agent now answer }
    | none => d
  | .drop ticket now =>
    match d.executions.get? ticket with
    | some execution =>
      { d with
        router := d.router.abandoned execution
        executions := d.executions.erase ticket
        history := d.history ++ [.ended ticket execution.task.agent .dropped now] }
    | none => d
  | .probe ticket env now =>
    if d.rounds.contains ticket then d
    else
      d.advanceRound ticket (d.router.startProbes env now) (passed env now d.router.agents.values)
  | .probed ticket env now answer =>
    match d.rounds.get? ticket with
    | some round =>
      d.advanceRound ticket (d.router.probed round env now answer)
        (.marked round.agent.name (probeMark answer) now :: passed env now round.remaining)
    | none => d
  | .leaveProbes ticket _ => { d with rounds := d.rounds.erase ticket }
  | .route command now => { d with router := (d.router.select command now).1 }
  | .look agent now => d.withHealth (d.health.checked agent now)
  | .mark agent said now => d.marking agent said now
  | .countFailure agent now => d.failing agent now
  | .countSuccess agent _ => d.withLoad (d.load.succeeded agent)
  | .isolate agent reason now =>
    (d.withIsolation (d.isolation.isolate agent reason now)).saw (.isolated agent)
  | .release agent _ => (d.withIsolation (d.isolation.release agent)).saw (.released agent)

/-- What a list of actions makes of the deployment. -/
def run (d : Deployment) (actions : List Action) : Deployment :=
  actions.foldl step d

/-- An execution ends well or badly after this was said about the health of its agent, and breaks
down only where the end of a cooldown cannot be shown. -/
def BearsOut (d : Deployment) (agent : String) (now : Moment) : Ending → Prop
  | .succeeded => latest (mark? agent) d.history = some (.heartbeat, now)
  | .failed fault =>
    latest (mark? agent) d.history = some (.unhealthy (some fault.text), now)
  | .brokeDown _ => now.add? d.load.policy.cooldown = none
  | .dropped => True

/-- The ways in which books and history change at a moment. -/
inductive Change (now : Moment) (d : Deployment) : Deployment → Prop where
  | looked (agent : String) : Change now d (d.withHealth (d.health.checked agent now))
  | met (agent : String) : Change now d (d.withHealth (d.health.register agent now))
  | marked (agent : String) (said : HealthMark) : Change now d (d.marking agent said now)
  | ceiled (agent : String) (wanted : Option Nat) :
      Change now d ((d.withLoad (d.load.register agent wanted)).saw (.ceiled agent wanted))
  | listed (registration : Registration) :
      Change now d ({ d with
        router := { d.router with
          agents := d.router.agents.put registration.name registration } }.saw
        (.listed registration))
  | failed (agent : String) : Change now d (d.failing agent now)
  | recovered (agent : String) : Change now d (d.withLoad (d.load.succeeded agent))
  | isolated (agent : String) (reason : Option String) :
      Change now d ((d.withIsolation (d.isolation.isolate agent reason now)).saw (.isolated agent))
  | released (agent : String) :
      Change now d ((d.withIsolation (d.isolation.release agent)).saw (.released agent))
  | started (ticket : Ticket) (execution : Execution) (key : String) (registration : Registration)
      (taken : Nat) (load : LoadBook) (hnew : d.isNew ticket)
      (hlisted : d.router.agents.get? key = some registration)
      (hcommand : Router.commandOf execution.task.payload = some execution.task.command)
      (hhandles : registration.handles execution.task.command)
      (hagent : execution.task.agent = registration.name)
      (hadapter : execution.adapter = registration.adapter)
      (heligible : d.router.fleet.isEligible execution.task.agent now)
      (hreserve : d.load.reserve execution.task.agent now = .ok (taken, load)) :
      Change now d ({ d.withLoad load with executions := d.executions.put ticket execution }.saw
        (.started ticket execution now))
  | ended (ticket : Ticket) (execution : Execution) (ending : Ending)
      (hexecution : d.executions.get? ticket = some execution)
      (hending : d.BearsOut execution.task.agent now ending) :
      Change now d (d.close ticket execution ending now)
  | probing (rounds : Table Ticket ProbeRound) : Change now d { d with rounds := rounds }

section Changes

variable {ticket : Ticket} {execution : Execution}

theorem changes_checked (d : Deployment) (agent : String) (now : Moment) :
    Relation.ReflTransGen (Change now) d (d.withFleet (d.router.fleet.checked agent now)) := by
  unfold Fleet.checked
  split
  · exact .refl
  · exact .single (.looked agent)

theorem changes_lookedAt (d : Deployment) (agents : List String) (now : Moment) :
    Relation.ReflTransGen (Change now) d
      (d.withFleet (Router.lookedAt d.router.fleet now agents)) := by
  induction agents generalizing d with
  | nil => exact .refl
  | cons agent rest ih => exact (d.changes_checked agent now).trans (ih _)

theorem changes_select (d : Deployment) (command : String) (now : Moment) :
    Relation.ReflTransGen (Change now) d { d with router := (d.router.select command now).1 } := by
  obtain ⟨agents, found, hfirst, _⟩ := Router.firstEligible_cases d.router.fleet now
    (d.router.agents.values.filter fun a => a.handles command)
  unfold Router.select
  simp only [hfirst]
  exact d.changes_lookedAt agents now

theorem changes_execute (d : Deployment) (ticket : Ticket) (env : Environment) (stamp : Stamp)
    (payload : Json) :
    Relation.ReflTransGen (Change stamp.now) d (d.step (.execute ticket env stamp payload)) := by
  simp only [step]
  split
  next hnew =>
    have hrouter := d.router.executed env stamp payload
    split
    next router report hexecute =>
      rw [hexecute] at hrouter
      cases hrouter with
      | reported agents report => exact d.changes_lookedAt agents stamp.now
    next router execution hexecute =>
      rw [hexecute] at hrouter
      cases hrouter with
      | running agents registration command target taken load hlisted hcommand hhandles heligible
          hreserve =>
          obtain ⟨entry, hentry, hvalue⟩ := List.mem_map.mp hlisted
          -- Looking at agents changes nothing about who is eligible at that moment.
          refine (d.changes_lookedAt agents stamp.now).tail ?_
          refine .started ticket _ entry.1 registration taken load hnew ?_ hcommand hhandles rfl rfl
            ?_ hreserve
          · rw [← hvalue]
            exact Table.get?_eq_some_iff.mpr hentry
          · rw [← heligible]
            exact Router.isEligible_lookedAt d.router.fleet stamp.now agents _
  next => exact .refl

theorem step_answer_ok (hexecution : d.executions.get? ticket = some execution) (now : Moment)
    (result : Json) :
    d.step (.answer ticket now (.ok result)) =
      ((d.withLoad (d.load.succeeded execution.task.agent)).marking
        execution.task.agent .heartbeat now).close ticket execution .succeeded now := by
  simp [step, hexecution, Router.finished, endings, close, marking, saw, withHealth, withLoad,
    withFleet, load, health, HealthBook.mark]

theorem step_answer_overflow (hexecution : d.executions.get? ticket = some execution)
    (heffect : (d.load.failed execution.task.agent now).2 = .overflow) (fault : Fault) :
    d.step (.answer ticket now (.error fault)) =
      (d.failing execution.task.agent now).close ticket execution (.brokeDown fault) now := by
  have hrouter : (d.router.fleet.load.failed execution.task.agent now).2 = .overflow := heffect
  simp [step, hexecution, Router.finished, endings, close, failing, saw, withLoad, withFleet, load,
    hrouter, cooldowns]

theorem step_answer_error (hexecution : d.executions.get? ticket = some execution)
    (heffect : (d.load.failed execution.task.agent now).2 ≠ .overflow) (fault : Fault) :
    d.step (.answer ticket now (.error fault)) =
      ((d.failing execution.task.agent now).marking execution.task.agent
        (.unhealthy (some fault.text)) now).close ticket execution (.failed fault) now := by
  cases hrouter : (d.router.fleet.load.failed execution.task.agent now).2 with
  | overflow => exact absurd hrouter heffect
  | counted | opened =>
      simp [step, hexecution, Router.finished, endings, close, failing, marking, saw, withHealth,
        withLoad, withFleet, load, health, hrouter, cooldowns, HealthBook.mark]

theorem latest_mark_marking (d : Deployment) (agent : String) (said : HealthMark) (now : Moment) :
    latest (mark? agent) (d.marking agent said now).history = some (said, now) := by
  simp [marking, saw, AgentEvent.latest_append, mark?]

theorem changes_answer (hexecution : d.executions.get? ticket = some execution) (now : Moment)
    (answer : Except Fault Json) :
    Relation.ReflTransGen (Change now) d (d.step (.answer ticket now answer)) := by
  cases answer with
  | ok result =>
      rw [step_answer_ok hexecution]
      refine .head (.recovered execution.task.agent) ?_
      refine .head (.marked execution.task.agent .heartbeat) ?_
      exact .single (.ended ticket execution .succeeded hexecution (latest_mark_marking ..))
  | error fault =>
      -- The failure is counted before anything is said about health: an overflow cuts that off.
      by_cases heffect : (d.load.failed execution.task.agent now).2 = .overflow
      · rw [step_answer_overflow hexecution heffect]
        refine .head (.failed execution.task.agent) ?_
        refine .single (.ended ticket execution (.brokeDown fault) hexecution ?_)
        change now.add? (d.load.failed execution.task.agent now).1.policy.cooldown = none
        rw [LoadBook.policy_failed]
        exact LoadBook.add?_of_overflow heffect
      · rw [step_answer_error hexecution heffect]
        refine .head (.failed execution.task.agent) ?_
        refine .head (.marked execution.task.agent (.unhealthy (some fault.text))) ?_
        exact .single (.ended ticket execution (.failed fault) hexecution (latest_mark_marking ..))

theorem marking_probeMark (d : Deployment) (agent : String) (now : Moment)
    (answer : Except Fault Unit) :
    d.marking agent (probeMark answer) now = { d with
      router := d.router.markProbe agent now answer
      history := d.history ++ [.marked agent (probeMark answer) now] } := by
  cases answer <;> rfl

/-- A round of probes marks the agents it passes one after the other. -/
theorem changes_nextProbe (d : Deployment) (env : Environment) (now : Moment) (answered : Nat)
    (agents : List Registration) :
    Relation.ReflTransGen (Change now) d { d with
      router := (Router.nextProbe env now answered agents d.router).1
      history := d.history ++ passed env now agents } := by
  induction agents generalizing d with
  | nil => simpa [Router.nextProbe, passed] using Relation.ReflTransGen.refl
  | cons agent rest ih =>
      cases hresolve : Binding.resolve env agent.executor with
      | ok target => simpa [Router.nextProbe, passed, hresolve] using Relation.ReflTransGen.refl
      | error fault =>
          refine .head (.marked agent.name (probeMark (.error fault))) ?_
          have hrest := ih (d.marking agent.name (probeMark (.error fault)) now)
          rw [marking_probeMark] at hrest ⊢
          simpa [Router.nextProbe, passed, hresolve] using hrest

theorem step_changes (d : Deployment) (action : Action) :
    Relation.ReflTransGen (Change action.now) d (d.step action) := by
  cases action with
  | register registration now =>
      refine .head (.met registration.name) ?_
      refine .head (.ceiled registration.name registration.maxConcurrency) ?_
      rw [step, List.append_cons]
      exact .single (.listed registration)
  | enlist agent wanted now =>
      exact .head (.met agent) (.single (.ceiled agent wanted))
  | execute ticket env stamp payload => exact d.changes_execute ticket env stamp payload
  | answer ticket now answer =>
      cases hexecution : d.executions.get? ticket with
      | some execution => exact changes_answer hexecution now answer
      | none =>
          simp only [step, hexecution]
          exact .refl
  | drop ticket now =>
      simp only [step]
      split
      next execution hexecution =>
        exact .single (.ended ticket execution .dropped hexecution trivial)
      next => exact .refl
  | probe ticket env now =>
      simp only [step]
      split
      · exact .refl
      · exact (d.changes_nextProbe env now 0 _).tail (.probing _)
  | probed ticket env now answer =>
      simp only [step]
      split
      next round hround =>
        refine .head (.marked round.agent.name (probeMark answer)) ?_
        rw [marking_probeMark]
        have hrest := changes_nextProbe { d with
          router := d.router.markProbe round.agent.name now answer
          history := d.history ++ [.marked round.agent.name (probeMark answer) now] } env now
          (match answer with | .ok () => round.answered + 1 | .error _ => round.answered)
          round.remaining
        rw [List.append_assoc] at hrest
        exact hrest.tail (.probing _)
      next => exact .refl
  | leaveProbes ticket now => exact .single (.probing _)
  | route command now => exact d.changes_select command now
  | look agent now => exact .single (.looked agent)
  | mark agent said now => exact .single (.marked agent said)
  | countFailure agent now => exact .single (.failed agent)
  | countSuccess agent now => exact .single (.recovered agent)
  | isolate agent reason now => exact .single (.isolated agent reason)
  | release agent now => exact .single (.released agent)

end Changes

theorem step_keeps {holds : Deployment → Prop} {action : Action}
    (hkeeps : ∀ {d next : Deployment}, Change action.now d next → holds d → holds next)
    (hholds : holds d) : holds (d.step action) := by
  have hchanges := d.step_changes action
  generalize d.step action = next at hchanges ⊢
  induction hchanges with
  | refl => exact hholds
  | tail _ hchange ih => exact hkeeps hchange ih

theorem policy_step (d : Deployment) (action : Action) :
    (d.step action).load.policy = d.load.policy := by
  have hkeeps : ∀ {next after : Deployment}, Change action.now next after →
      next.load.policy = d.load.policy → after.load.policy = d.load.policy := by
    intro next after hchange hpolicy
    rw [← hpolicy]
    cases hchange with
    | failed => exact LoadBook.policy_failed ..
    | started _ _ _ _ _ _ _ _ _ _ _ _ _ hreserve => exact LoadBook.policy_reserve hreserve
    | _ => rfl
  exact step_keeps hkeeps rfl

theorem policy_run (d : Deployment) (actions : List Action) :
    (d.run actions).load.policy = d.load.policy := by
  induction actions generalizing d with
  | nil => rfl
  | cons action rest ih => exact (ih (d.step action)).trans (d.policy_step action)

/-- What every change keeps holds throughout a run. -/
theorem run_keeps {holds : Deployment → Prop}
    (hkeeps : ∀ {now : Moment} {d next : Deployment}, Change now d next → holds d → holds next)
    (hstart : holds d) (actions : List Action) : holds (d.run actions) := by
  induction actions generalizing d with
  | nil => exact hstart
  | cons action rest ih => exact ih (step_keeps hkeeps hstart)

/-- What every change keeps while the clock does not go back holds throughout a run in which it
never does, for any moment that the clock has not passed. -/
theorem run_keeps_until {holds : Moment → Deployment → Prop}
    (hkeeps : ∀ {now : Moment} {d next : Deployment},
      Change now d next → holds now d → holds now next)
    (hlater : ∀ {earlier later : Moment} {d : Deployment},
      earlier ≤ later → holds earlier d → holds later d)
    (hstart : ∀ clock, holds clock d) {actions : List Action}
    (hclock : (actions.map Action.now).Pairwise (· ≤ ·)) {clock : Moment}
    (hpassed : ∀ action ∈ actions, action.now ≤ clock) : holds clock (d.run actions) := by
  induction actions using List.reverseRecOn generalizing clock with
  | nil => exact hstart clock
  | append_singleton before action ih =>
      rw [List.map_append, List.pairwise_append] at hclock
      obtain ⟨hbefore, _, hlast⟩ := hclock
      have hnow : holds action.now (d.run before) := by
        apply ih hbefore
        intro earlier hearlier
        exact hlast _ (List.mem_map_of_mem hearlier) _ (by simp)
      have hstep : holds action.now ((d.run before).step action) := step_keeps hkeeps hnow
      have hrun : d.run (before ++ [action]) = (d.run before).step action := by simp [run]
      rw [hrun]
      exact hlater (hpassed action (by simp)) hstep

end Deployment

end Gatehouse
