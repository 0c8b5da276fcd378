import Gatehouse.Application
import Gatehouse.Proofs.Agent.Fitness

/-! # Cooldowns and the end of time

A cooldown ends so many seconds after the failure that opens it, and the
calendar shows moments up to the year 262142 only. Settings are checked for much,
but not for the length of the cooldown. One that is too long for a span is
replaced by a short one, so it does no harm; but between the lengths that a
calendar shows the end of and the lengths that are replaced there are others,
and with them the failure that reaches the threshold cannot be dealt with.
-/

namespace Gatehouse

/-- The last nanosecond of the year 9999. -/
def Moment.endOf9999 : Moment :=
  .ofNanos (253402300799 * 1000000000 + 999999999)

/-- A clock may show the moment: the calendar begins before it and the year 10000 after it. -/
def Moment.OnClock (t : Moment) : Prop :=
  firstNanos ≤ t.nanos ∧ t.nanos ≤ endOf9999.nanos

theorem Moment.add?_eq_none_iff {t : Moment} {s : Span} :
    t.add? s = none ↔ ¬ Representable (t.nanos + s.nanos) := by
  simp [add?]

namespace Config

/-- How long a cooldown lasts. -/
def cooldown (c : Config) : Span :=
  Fleet.spanOfMillis c.fleetSettings.cooldownMillis

/-- How many failures in a row open a cooldown. -/
def threshold (c : Config) : Nat :=
  max c.failureThreshold 1

/-- A cooldown that begins by the year 9999 ends on a day of the calendar: because it is short
enough for that, or because it is so long that it is replaced. -/
def CooldownFits (c : Config) : Prop :=
  c.cooldownSecs ≤ 7956864576000 ∨ 9223372036854775 < c.cooldownSecs

instance (c : Config) : Decidable c.CooldownFits :=
  inferInstanceAs (Decidable (_ ∨ _))

theorem nanos_cooldown (c : Config) :
    c.cooldown.nanos =
      if c.cooldownSecs ≤ 9223372036854775 then (c.cooldownSecs : Int) * 1000000000
      else 4294967295 * 1000000000 :=
  Fleet.nanos_spanOfMillis c.cooldownSecs

/-- Only such cooldowns end on a day of the calendar whenever they begin. -/
theorem cooldownFits_iff (c : Config) :
    c.CooldownFits ↔ ∀ now : Moment, now.OnClock → now.add? c.cooldown ≠ none := by
  have hfirst : Moment.firstNanos = -8334601228800 * 1000000000 := rfl
  have hlast : Moment.lastNanos = 8210266876799 * 1000000000 + 999999999 := rfl
  have hend : Moment.endOf9999.nanos = 253402300799 * 1000000000 + 999999999 := rfl
  simp only [ne_eq, Moment.add?_eq_none_iff, not_not, Moment.Representable]
  rw [CooldownFits, nanos_cooldown]
  constructor
  · rintro hfits now ⟨hfrom, hto⟩
    split <;> omega
  · intro hends
    have hlatest := (hends .endOf9999 ⟨by omega, le_refl _⟩).2
    split at hlatest <;> omega

end Config

/-- The router of a system before anybody turned to it. -/
def Application.deployment (app : Application) : Deployment :=
  ⟨app.workshop.router, .empty, .empty, []⟩

namespace Deployment

variable {d : Deployment} {now : Moment}

/-- The breaker does at a moment what it is there for, with so many failures in a row and so long a
cooldown. -/
structure Breaks (d : Deployment) (threshold : Nat) (cooldown : Span) (now : Moment) : Prop where
  /-- Failures of agents that nobody knows are passed over. -/
  unknown : ∀ agent, d.load.get? agent = none → d.load.failed agent now = (d.load, .counted)
  /-- A failure below the threshold is counted. -/
  counted : ∀ agent l, d.load.get? agent = some l → l.consecutiveFailures + 1 < threshold →
    (d.load.failed agent now).2 = .counted ∧
      (d.load.failed agent now).1.get? agent =
        some { l with consecutiveFailures := l.consecutiveFailures + 1 }
  /-- The one that reaches the threshold opens a cooldown, and the count starts afresh. -/
  opened : ∀ agent l, d.load.get? agent = some l → threshold ≤ l.consecutiveFailures + 1 →
    (d.load.failed agent now).2 = .opened ∧
      (d.load.failed agent now).1.get? agent = some { l with
        consecutiveFailures := 0
        cooldownUntil := some (.ofNanos (now.nanos + cooldown.nanos)) }
  /-- A failed execution is reported, and its agent is marked unhealthy. -/
  reported : ∀ (execution : Execution) (fault : Fault), ∃ router,
    d.router.finished execution now (.error fault) = (router,
      some ⟨false, some execution.task.execution, some execution.task.agent, none,
        some "agent_execution_failed", some fault.text⟩) ∧
    router.fleet.load =
      (d.load.failed execution.task.agent now).1.release execution.task.agent ∧
    ∃ health, router.fleet.health.get? execution.task.agent = some health ∧
      health.status = .unhealthy ∧ health.reason = some fault.text

theorem not_overflow_of_add? {u : Moment} (hends : now.add? d.load.policy.cooldown = some u)
    (agent : String) : (d.load.failed agent now).2 ≠ .overflow := by
  intro hoverflow
  rw [LoadBook.add?_of_overflow hoverflow] at hends
  contradiction

theorem breaks_of_add? {policy : LoadPolicy} (hpolicy : d.load.policy = policy) {u : Moment}
    (hends : now.add? policy.cooldown = some u) :
    d.Breaks policy.failureThreshold policy.cooldown now := by
  subst hpolicy
  have hmoment : u = .ofNanos (now.nanos + d.load.policy.cooldown.nanos) := by
    unfold Moment.add? at hends
    split at hends
    · exact (Option.some.inj hends).symm
    · contradiction
  constructor
  case unknown => exact fun agent hnone => LoadBook.failed_of_none hnone now
  case counted => exact fun agent l hget hbelow => LoadBook.failed_below hget hbelow now
  case opened =>
    intro agent l hget hreached
    rw [← hmoment]
    exact LoadBook.failed_reaching hget hreached hends
  case reported =>
    intro execution fault
    have hmarked : ∃ health, (d.health.unhealthy execution.task.agent (some fault.text) now).get?
        execution.task.agent = some health ∧
        health.status = .unhealthy ∧ health.reason = some fault.text :=
      ⟨_, by rw [HealthBook.unhealthy, HealthBook.update, HealthBook.get?, Table.get?_put,
        if_pos rfl], rfl, rfl⟩
    cases heffect : (d.router.fleet.load.failed execution.task.agent now).2 with
    | overflow => exact absurd heffect (not_overflow_of_add? hends _)
    | counted | opened =>
        simp only [Router.finished, heffect]
        exact ⟨_, rfl, rfl, hmarked⟩

/-- As many failures can be counted as it takes for the next one to reach the threshold. -/
theorem exists_due {agent : String} (missing : Nat) {l : AgentLoad}
    (hget : d.load.get? agent = some l)
    (hmissing : d.load.policy.failureThreshold ≤ l.consecutiveFailures + 1 + missing) :
    ∃ actions due, (d.run actions).load.get? agent = some due ∧
      d.load.policy.failureThreshold ≤ due.consecutiveFailures + 1 := by
  induction missing generalizing d l with
  | zero => exact ⟨[], l, hget, hmissing⟩
  | succ missing ih =>
      rcases Nat.lt_or_ge (l.consecutiveFailures + 1) d.load.policy.failureThreshold with
        hbelow | hreached
      · have hcounted := (LoadBook.failed_below hget hbelow (.ofNanos 0)).2
        have hpolicy := d.policy_step (.countFailure agent (.ofNanos 0))
        obtain ⟨actions, due, hdue, hreached⟩ :=
          ih (d := d.step (.countFailure agent (.ofNanos 0))) hcounted
            (by rw [hpolicy]; simp; omega)
        rw [hpolicy] at hreached
        exact ⟨.countFailure agent (.ofNanos 0) :: actions, due, hdue, hreached⟩
      · exact ⟨[], l, hget, hreached⟩

theorem policy_registerAgents (router : Router) (agents : List AgentConfig) (now : Moment) :
    (Application.registerAgents router agents now).fleet.load.policy =
      router.fleet.load.policy := by
  unfold Application.registerAgents
  induction agents.zipIdx generalizing router with
  | nil => rfl
  | cons first rest ih => exact ih _

theorem policy_wire (c : Config) (wiredAt : Moment) :
    (Application.wire c wiredAt).deployment.load.policy =
      ⟨c.threshold, c.cooldown, max c.defaultMaxConcurrency 1⟩ :=
  policy_registerAgents ..

/-- In the system made from settings the breaker does what it is there for, whatever happened before
and whenever it is by the year 9999, exactly when every cooldown ends on a day of the calendar. -/
theorem breaks_iff (c : Config) :
    c.CooldownFits ↔ ∀ (wiredAt : Moment) (actions : List Action) (now : Moment), now.OnClock →
      ((Application.wire c wiredAt).deployment.run actions).Breaks c.threshold c.cooldown now := by
  have hpolicy : ∀ (wiredAt : Moment) (actions : List Action),
      ((Application.wire c wiredAt).deployment.run actions).load.policy =
        ⟨c.threshold, c.cooldown, max c.defaultMaxConcurrency 1⟩ :=
    fun wiredAt actions => (policy_run _ actions).trans (policy_wire c wiredAt)
  constructor
  · intro hfits wiredAt actions now hclock
    have hends := c.cooldownFits_iff.mp hfits now hclock
    obtain ⟨u, hu⟩ := Option.ne_none_iff_exists'.mp hends
    exact breaks_of_add? (hpolicy wiredAt actions) hu
  · intro hbreaks
    rw [c.cooldownFits_iff]
    intro now hclock hnever
    -- A registered agent fails until the next failure has to open a cooldown.
    let start : Deployment := (Application.wire c (.ofNanos 0)).deployment
    let enlist : Action := .enlist "A" none (.ofNanos 0)
    have hlisted : ∃ l, (start.step enlist).load.get? "A" = some l :=
      ⟨_, by
        change (start.load.register "A" none).get? "A" = _
        rw [LoadBook.get?_register, if_pos rfl]⟩
    obtain ⟨l, hlisted⟩ := hlisted
    obtain ⟨actions, due, hdue, hreached⟩ := exists_due _ hlisted (Nat.le_add_left _ _)
    have hrun : (start.step enlist).run actions = start.run (enlist :: actions) := rfl
    rw [hrun] at hdue
    rw [policy_step, policy_wire] at hreached
    have hopened := ((hbreaks _ (enlist :: actions) now hclock).opened "A" due hdue hreached).1
    have hoverflow : ((start.run (enlist :: actions)).load.failed "A" now).2 = .overflow := by
      refine LoadBook.failed_overflowing hdue ?_ ?_
      · rw [hpolicy]
        exact hreached
      · rw [hpolicy]
        exact hnever
    rw [hopened] at hoverflow
    contradiction

/-- Settings that keep every rule, with one agent, one failure to open a cooldown, and a cooldown of
almost three hundred thousand years. -/
def patientConfig : Config :=
  { Config.standard with
    failureThreshold := 1
    cooldownSecs := 9000000000000
    agents := [⟨"A", ["create_page"], "http://a.local", some 1, none⟩] }

/-- The agent of these settings is at work. -/
def patientWriter : Deployment :=
  (Application.wire patientConfig (secondsIn 0)).deployment.run [
    .mark "A" .heartbeat (secondsIn 0),
    .execute ⟨1⟩ (.ofList []) (stampIn 1) pageWanted]

/-- When its adapter fails, no cooldown opens, there is no report, and the agent stays healthy. -/
theorem patientWriter_overflows :
    patientConfig.validate = .ok () ∧ (secondsIn 2).OnClock ∧
      patientWriter.executions.get? ⟨1⟩ = some pageExecution ∧
      (patientWriter.load.failed "A" (secondsIn 2)).2 = .overflow ∧
      (patientWriter.router.finished pageExecution (secondsIn 2) (.error badGateway)).2 = none ∧
      (patientWriter.router.finished pageExecution (secondsIn 2)
        (.error badGateway)).1.fleet.health.isHealthy "A" (secondsIn 2) := by
  refine ⟨?_, ⟨?_, ?_⟩, ?_, ?_, ?_, ?_⟩ <;> decide +kernel

end Deployment

end Gatehouse
