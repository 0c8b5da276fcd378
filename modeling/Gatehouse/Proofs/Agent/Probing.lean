import Gatehouse.Proofs.Agent.Fitness
import Gatehouse.Proofs.Agent.Routing

/-! # A round of probes

A round goes through the agents that are listed when it starts, in their order.
An agent whose target is not known is passed with a fault; every other is asked,
and the round waits for its answer. When all answers come at once, a round is
the same as to mark one agent after the other, each with what was learned of it.
So it leaves no listed agent as it was, touches nobody else, and counts those
that answered well.
-/

namespace Gatehouse

/-- The record of an agent after something was said about its health. -/
def AgentHealth.told (h : AgentHealth) (now : Moment) : HealthMark → AgentHealth
  | .heartbeat => h.heartbeat now
  | .degraded reason => h.marked .degraded true reason now
  | .unhealthy reason => h.marked .unhealthy false reason now

theorem HealthBook.get?_mark (book : HealthBook) (agent other : String) (said : HealthMark)
    (now : Moment) :
    (book.mark agent said now).get? other =
      if other = agent then some (((book.get? agent).getD (.unknown agent now)).told now said)
      else book.get? other := by
  cases said <;> exact get?_update ..

/-- What there is to learn in a round: the variables, and what each agent answers to a probe. -/
structure Sounding where
  env : Environment
  answers : Registration → Except Fault Unit

/-- What a round learns of an agent: its answer, or why its target is not known. -/
def Sounding.outcome (s : Sounding) (agent : Registration) : Except Fault Unit :=
  match Binding.resolve s.env agent.executor with
  | .ok _ => s.answers agent
  | .error fault => .error fault

/-- A round of probes that has got so far ends like this, and with this number of agents that
answered, when all answers come at once. -/
inductive Router.Concludes (s : Sounding) (now : Moment) :
    Router × ProbeProgress → Router → Nat → Prop where
  | done (r : Router) (answered : Nat) : Concludes s now (r, .done answered) r answered
  | waiting (r after : Router) (round : ProbeRound) (answered : Nat)
      (hrest : Concludes s now (r.probed round s.env now (s.answers round.agent)) after answered) :
      Concludes s now (r, .waiting round) after answered

theorem Router.Concludes.unique {s : Sounding} {now : Moment} {begun : Router × ProbeProgress}
    {after other : Router} {answered number : Nat}
    (hconcludes : Concludes s now begun after answered)
    (hother : Concludes s now begun other number) :
    other = after ∧ number = answered := by
  induction hconcludes with
  | done r answered =>
      cases hother
      exact ⟨rfl, rfl⟩
  | waiting r after round answered hrest ih =>
      cases hother with
      | waiting _ _ _ _ hlater => exact ih hlater

namespace Deployment

variable {d : Deployment} {s : Sounding} {now : Moment} {agents : List Registration}

/-- Marks agents one after the other with what a round learns of them. -/
def soundEach (d : Deployment) (s : Sounding) (now : Moment) (agents : List Registration) :
    Deployment :=
  d.run (agents.map fun agent => .mark agent.name (probeMark (s.outcome agent)) now)

/-- A round of probes of all agents that are listed, answered at once. -/
def sound (d : Deployment) (s : Sounding) (now : Moment) : Deployment :=
  d.soundEach s now d.router.agents.values

theorem soundEach_cons (d : Deployment) (s : Sounding) (now : Moment) (agent : Registration)
    (rest : List Registration) :
    d.soundEach s now (agent :: rest) =
      (d.marking agent.name (probeMark (s.outcome agent)) now).soundEach s now rest :=
  rfl

/-- From any agent on a round comes to what marking the rest comes to. -/
theorem concludes_nextProbe (d : Deployment) (s : Sounding) (now : Moment) (answered : Nat)
    (agents : List Registration) :
    Router.Concludes s now (Router.nextProbe s.env now answered agents d.router)
      (d.soundEach s now agents).router
      (answered + agents.countP fun agent => (s.outcome agent).isOk) := by
  induction agents generalizing d answered with
  | nil => exact .done _ _
  | cons agent rest ih =>
      rw [soundEach_cons, List.countP_cons]
      cases hresolve : Binding.resolve s.env agent.executor with
      | error fault =>
          have houtcome : s.outcome agent = .error fault := by rw [Sounding.outcome, hresolve]
          have hrest := ih (d.marking agent.name (probeMark (.error fault)) now) answered
          rw [houtcome, Router.nextProbe, hresolve]
          simpa [marking_probeMark, Except.isOk, Except.toBool] using hrest
      | ok target =>
          have houtcome : s.outcome agent = s.answers agent := by rw [Sounding.outcome, hresolve]
          rw [houtcome, Router.nextProbe, hresolve]
          refine .waiting _ _ _ _ ?_
          unfold Router.probed
          cases hanswer : s.answers agent with
          | ok given =>
              have hrest := ih (d.marking agent.name (probeMark (.ok given)) now) (answered + 1)
              rw [Nat.add_right_comm, Nat.add_assoc] at hrest
              simpa [marking_probeMark, Except.isOk, Except.toBool] using hrest
          | error fault =>
              have hrest := ih (d.marking agent.name (probeMark (.error fault)) now) answered
              simpa [marking_probeMark, Except.isOk, Except.toBool] using hrest

theorem get?_soundEach_of_not_mem {name : String}
    (hother : name ∉ agents.map Registration.name) :
    (d.soundEach s now agents).health.get? name = d.health.get? name := by
  induction agents generalizing d with
  | nil => rfl
  | cons first rest ih =>
      rw [List.map_cons, List.mem_cons, not_or] at hother
      rw [soundEach_cons, ih hother.2]
      exact (HealthBook.get?_mark ..).trans (if_neg hother.1)

/-- Whoever is marked in a round, and once, is left with what was learned of it. -/
theorem get?_soundEach (hdistinct : (agents.map Registration.name).Nodup) {agent : Registration}
    (hagent : agent ∈ agents) :
    (d.soundEach s now agents).health.get? agent.name =
      some (((d.health.get? agent.name).getD (.unknown agent.name now)).told now
        (probeMark (s.outcome agent))) := by
  induction agents generalizing d with
  | nil => contradiction
  | cons first rest ih =>
      rw [List.map_cons, List.nodup_cons] at hdistinct
      obtain ⟨hnew, hrest⟩ := hdistinct
      rw [soundEach_cons]
      rcases List.mem_cons.mp hagent with rfl | hlater
      · rw [get?_soundEach_of_not_mem hnew]
        exact (HealthBook.get?_mark ..).trans (if_pos rfl)
      · have hother : agent.name ≠ first.name := by
          intro hsame
          exact hnew (hsame ▸ List.mem_map_of_mem hlater)
        have hkept : (d.marking first.name (probeMark (s.outcome first)) now).health.get?
            agent.name = d.health.get? agent.name :=
          (HealthBook.get?_mark ..).trans (if_neg hother)
        rw [ih hrest hlater, hkept]

theorem router_soundEach (d : Deployment) (s : Sounding) (now : Moment)
    (agents : List Registration) :
    (d.soundEach s now agents).router = { d.router with
      fleet := { d.router.fleet with health := (d.soundEach s now agents).health } } := by
  induction agents generalizing d with
  | nil => rfl
  | cons first rest ih =>
      rw [soundEach_cons, ih]
      rfl

/-- What is written down in a round. -/
theorem history_soundEach (d : Deployment) (s : Sounding) (now : Moment)
    (agents : List Registration) :
    (d.soundEach s now agents).history = d.history ++
      agents.map fun agent => .marked agent.name (probeMark (s.outcome agent)) now := by
  induction agents generalizing d with
  | nil => exact (List.append_nil _).symm
  | cons first rest ih =>
      rw [soundEach_cons, ih, List.map_cons, List.append_cons]
      rfl

/-- What a round of probes that is answered at once does. -/
structure Sounded (d : Deployment) (s : Sounding) (now : Moment) (after : Deployment) : Prop where
  /-- The round ends like this and no other way, with the number of agents that answered well. -/
  concludes : ∀ r answered,
    Router.Concludes s now (d.router.startProbes s.env now) r answered ↔
      r = after.router ∧
        answered = d.router.agents.values.countP fun agent => (s.outcome agent).isOk
  /-- Every listed agent is heard from, or in bad health from the fault that the round met with. -/
  told : ∀ agent ∈ d.router.agents.values, after.health.get? agent.name =
    some (((d.health.get? agent.name).getD (.unknown agent.name now)).told now
      (probeMark (s.outcome agent)))
  others : ∀ name ∉ d.router.names, after.health.get? name = d.health.get? name
  kept : after.router =
    { d.router with fleet := { d.router.fleet with health := after.health } }
  written : after.history = d.history ++ d.router.agents.values.map fun agent =>
    .marked agent.name (probeMark (s.outcome agent)) now

theorem sounded_sound (hnamed : d.router.names = d.router.agents.values.map Registration.name) :
    d.Sounded s now (d.sound s now) where
  concludes := by
    have hconcludes := d.concludes_nextProbe s now 0 d.router.agents.values
    rw [Nat.zero_add] at hconcludes
    intro r answered
    constructor
    · exact fun hother => hconcludes.unique hother
    · rintro ⟨rfl, rfl⟩
      exact hconcludes
  told := by
    have hdistinct : (d.router.agents.values.map Registration.name).Nodup :=
      hnamed ▸ d.router.agents.nodup
    exact fun agent hagent => get?_soundEach hdistinct hagent
  others := fun name hother => get?_soundEach_of_not_mem (hnamed ▸ hother)
  kept := d.router_soundEach s now _
  written := d.history_soundEach s now _

/-- Throughout a run every agent is listed under its own name. -/
theorem names_run (ttl : Span) (policy : LoadPolicy) (actions : List Action) :
    ((start ttl policy).run actions).router.names =
      ((start ttl policy).run actions).router.agents.values.map Registration.name := by
  rw [Router.names, agents_run, Router.keys_listing]

theorem Sounded.healthySince? {after : Deployment} (hsounded : d.Sounded s now after)
    {agent : Registration} (hagent : agent ∈ d.router.agents.values)
    (hanswered : s.outcome agent = .ok ()) :
    after.health.healthySince? agent.name = some now := by
  rw [HealthBook.healthySince?, hsounded.told agent hagent, hanswered]
  rfl

end Deployment

end Gatehouse
