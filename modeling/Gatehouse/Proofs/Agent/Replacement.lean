import Gatehouse.Proofs.Agent.Admission
import Gatehouse.Proofs.Agent.Routing
import Gatehouse.Proofs.Tables

/-! # An agent registered again

An agent that is known already may be registered once more, to do other work
elsewhere and more or less of it at a time. This must not be a way out for an
agent that is ill, isolated, cooling down or busy. Registering a name starts
records only where there are none, and a name that is listed has its records:
they were started before it was listed, and nobody ever takes one away. So all
that changes is the registration itself and the ceiling in the load record.

The books are open to others than the router. `Access` adds to what can happen
to a router what anybody may do to its books directly.
-/

namespace Gatehouse

namespace HealthBook

variable {book : HealthBook} {agent other : String}

/-- An agent that has a record is not given another. -/
theorem register_of_isSome (hknown : (book.get? agent).isSome) (now : Moment) :
    book.register agent now = book := by
  rw [register, Table.putIfAbsent, Table.contains, ← get?, if_pos hknown]

theorem isSome_get?_register (hknown : (book.get? other).isSome) (agent : String) (now : Moment) :
    ((book.register agent now).get? other).isSome := by
  rw [get?_register]
  split
  · rfl
  · exact hknown

theorem isSome_get?_checked (hknown : (book.get? other).isSome) (agent : String) (now : Moment) :
    ((book.checked agent now).get? other).isSome := by
  rw [get?_checked]
  split <;> simp [hknown]

theorem isSome_get?_mark (hknown : (book.get? other).isSome) (agent : String) (said : HealthMark)
    (now : Moment) : ((book.mark agent said now).get? other).isSome := by
  cases said with
  | heartbeat | degraded | unhealthy =>
      simp only [mark, heartbeat, degraded, unhealthy, get?_update]
      split
      · rfl
      · exact hknown

end HealthBook

namespace LoadBook

variable {book : LoadBook} {agent other : String} {wanted : Option Nat} {now : Moment}

/-- Of an agent that has a record a registration sets the ceiling and nothing else. -/
theorem register_of_isSome (hknown : (book.get? agent).isSome) (wanted : Option Nat) :
    book.register agent wanted = { book with
      records := book.records.modify agent fun l =>
        { l with maxConcurrency := book.ceiling wanted } } := by
  obtain ⟨l, hget⟩ := Option.isSome_iff_exists.mp hknown
  have hput := Table.put_eq_modify hget fun l => { l with maxConcurrency := book.ceiling wanted }
  simp only [register, hget, Option.getD_some, hput]

theorem isSome_get?_register (hknown : (book.get? other).isSome) (agent : String)
    (wanted : Option Nat) : ((book.register agent wanted).get? other).isSome := by
  rw [get?_register]
  split
  · rfl
  · exact hknown

theorem isSome_get?_release (hknown : (book.get? other).isSome) (agent : String) :
    ((book.release agent).get? other).isSome := by
  rwa [get?_release, read_changed Option.isSome fun _ => by rfl]

theorem isSome_get?_succeeded (hknown : (book.get? other).isSome) (agent : String) :
    ((book.succeeded agent).get? other).isSome := by
  rwa [get?_succeeded, read_changed Option.isSome fun _ => by rfl]

theorem isSome_get?_failed (hknown : (book.get? other).isSome) (agent : String) (now : Moment) :
    ((book.failed agent now).1.get? other).isSome := by
  rwa [get?_failed, read_changed Option.isSome fun _ => by rfl]

theorem isSome_get?_reserve {taken : Nat} {after : LoadBook} (hknown : (book.get? other).isSome)
    (hreserve : book.reserve agent now = .ok (taken, after)) : (after.get? other).isSome := by
  rwa [get?_reserve hreserve, read_changed Option.isSome fun _ => by rfl]

/-- An agent has room if it has no cooldown to wait for and fewer slots taken than its ceiling. -/
theorem canAccept_iff_ceiling : book.canAccept agent now ↔ book.isCooling agent now = false ∧
    ∃ ceiling, book.ceiling? agent = some ceiling ∧ book.inFlight agent < ceiling := by
  unfold canAccept isCooling ceiling? inFlight
  cases book.get? agent with
  | none => simp
  | some l => simp [AgentLoad.canAccept, and_comm]

theorem isCooling_register (book : LoadBook) (agent other : String) (wanted : Option Nat)
    (now : Moment) :
    (book.register agent wanted).isCooling other now = book.isCooling other now := by
  rw [Bool.eq_iff_iff, isCooling_iff, isCooling_iff, cooldown?_register]

end LoadBook

/-- An agent that could be given work if a slot of it were free. -/
structure Fleet.OnlyFull (f : Fleet) (agent : String) (moment : Moment) : Prop where
  inService : f.isolation.isIsolated agent = false
  healthy : f.health.isHealthy agent moment
  rested : f.load.isCooling agent moment = false
  full : ∃ ceiling, f.load.ceiling? agent = some ceiling ∧ ceiling ≤ f.load.inFlight agent

namespace Deployment

/-- What can happen to a router whose books are open to everybody. -/
inductive Access where
  | act (action : Action)
  | reserve (agent : String) (now : Moment)
  | giveBack (agent : String)
  | meet (agent : String) (now : Moment)
  | ceil (agent : String) (wanted : Option Nat)

/-- What one access makes of the deployment. -/
def access (d : Deployment) : Access → Deployment
  | .act action => d.step action
  | .reserve agent now => d.withLoad (d.load.afterReserve agent now)
  | .giveBack agent => d.withLoad (d.load.release agent)
  | .meet agent now => d.withHealth (d.health.register agent now)
  | .ceil agent wanted => d.withLoad (d.load.register agent wanted)

/-- What a list of accesses makes of the deployment. -/
def accessed (d : Deployment) (accesses : List Access) : Deployment :=
  accesses.foldl access d

/-- An agent has records of its health and of its load. -/
structure Enrolled (d : Deployment) (agent : String) : Prop where
  health : (d.health.get? agent).isSome
  load : (d.load.get? agent).isSome

variable {d next : Deployment} {agent : String} {now : Moment}

/-- Nobody takes a record away. -/
theorem enrolled_change (hchange : Change now d next) (henrolled : d.Enrolled agent) :
    next.Enrolled agent := by
  obtain ⟨hhealth, hload⟩ := henrolled
  cases hchange with
  | looked other => exact ⟨HealthBook.isSome_get?_checked hhealth other now, hload⟩
  | met other => exact ⟨HealthBook.isSome_get?_register hhealth other now, hload⟩
  | marked other said => exact ⟨HealthBook.isSome_get?_mark hhealth other said now, hload⟩
  | ceiled other wanted => exact ⟨hhealth, LoadBook.isSome_get?_register hload other wanted⟩
  | failed other => exact ⟨hhealth, LoadBook.isSome_get?_failed hload other now⟩
  | recovered other => exact ⟨hhealth, LoadBook.isSome_get?_succeeded hload other⟩
  | started ticket execution key registration taken load _ _ _ _ _ _ _ hreserve =>
      exact ⟨hhealth, LoadBook.isSome_get?_reserve hload hreserve⟩
  | ended ticket execution =>
      exact ⟨hhealth, LoadBook.isSome_get?_release hload execution.task.agent⟩
  | listed | isolated | released | probing => exact ⟨hhealth, hload⟩

/-- Whoever is listed has records. -/
def AllEnrolled (d : Deployment) : Prop :=
  ∀ agent, (d.router.agents.get? agent).isSome → d.Enrolled agent

theorem enrolled_register (d : Deployment) (registration : Registration) (now : Moment) :
    (d.step (.register registration now)).Enrolled registration.name := by
  constructor
  · change ((d.health.register registration.name now).get? registration.name).isSome
    rw [HealthBook.get?_register, if_pos rfl]
    rfl
  · change ((d.load.register registration.name registration.maxConcurrency).get?
      registration.name).isSome
    rw [LoadBook.get?_register, if_pos rfl]
    rfl

theorem AllEnrolled.step (hall : d.AllEnrolled) (action : Action) :
    (d.step action).AllEnrolled := by
  have hkept : ∀ agent, d.Enrolled agent → (d.step action).Enrolled agent :=
    fun agent henrolled => step_keeps enrolled_change henrolled
  intro agent hlisted
  rw [agents_step] at hlisted
  cases action with
  | register registration now =>
      rw [Action.registration?, Option.elim_some, Table.get?_put] at hlisted
      split at hlisted
      next hname => exact hname ▸ d.enrolled_register registration now
      next => exact hkept agent (hall agent hlisted)
  | _ => exact hkept agent (hall agent hlisted)

theorem AllEnrolled.access (hall : d.AllEnrolled) (taken : Access) :
    (d.access taken).AllEnrolled := by
  cases taken with
  | act action => exact hall.step action
  | reserve other now =>
      intro agent hlisted
      obtain ⟨hhealth, hload⟩ := hall agent hlisted
      refine ⟨hhealth, ?_⟩
      change ((d.load.afterReserve other now).get? agent).isSome
      unfold LoadBook.afterReserve
      split
      next hreserve => exact LoadBook.isSome_get?_reserve hload hreserve
      next => exact hload
  | giveBack other =>
      intro agent hlisted
      obtain ⟨hhealth, hload⟩ := hall agent hlisted
      exact ⟨hhealth, LoadBook.isSome_get?_release hload other⟩
  | meet other now => exact fun agent hlisted => enrolled_change (.met other) (hall agent hlisted)
  | ceil other wanted =>
      intro agent hlisted
      obtain ⟨hhealth, hload⟩ := hall agent hlisted
      exact ⟨hhealth, LoadBook.isSome_get?_register hload other wanted⟩

theorem allEnrolled_accessed (ttl : Span) (policy : LoadPolicy) (accesses : List Access) :
    ((start ttl policy).accessed accesses).AllEnrolled := by
  induction accesses using List.reverseRecOn with
  | nil => simp [AllEnrolled, accessed, start]
  | append_singleton before last ih =>
      rw [accessed, List.foldl_concat, ← accessed]
      exact ih.access last

/-- An execution under way gives its slot back to its agent, however it ends. -/
structure Frees (d : Deployment) (ticket : Ticket) (execution : Execution) : Prop where
  dropped : ∀ now agent, (d.step (.drop ticket now)).load.inFlight agent =
    if agent = execution.task.agent then d.load.inFlight agent - 1 else d.load.inFlight agent
  answered : ∀ now answer agent, (d.step (.answer ticket now answer)).load.inFlight agent =
    if agent = execution.task.agent then d.load.inFlight agent - 1 else d.load.inFlight agent

/-- An execution that ends gives back one slot, whatever was done about its agent just before. -/
theorem inFlight_close {before : Deployment} {ticket : Ticket} {execution : Execution}
    {ending : Ending} (hslots : ∀ agent, before.load.inFlight agent = d.load.inFlight agent)
    (agent : String) :
    (before.close ticket execution ending now).load.inFlight agent =
      if agent = execution.task.agent then d.load.inFlight agent - 1
      else d.load.inFlight agent := by
  rw [← hslots]
  exact LoadBook.inFlight_release ..

theorem frees {ticket : Ticket} {execution : Execution}
    (hexecution : d.executions.get? ticket = some execution) : d.Frees ticket execution where
  dropped := by
    intro now agent
    simp only [step, hexecution]
    exact LoadBook.inFlight_release ..
  answered := by
    intro now answer
    cases answer with
    | ok result =>
        rw [step_answer_ok hexecution]
        exact inFlight_close fun _ => LoadBook.inFlight_succeeded ..
    | error fault =>
        by_cases heffect : (d.load.failed execution.task.agent now).2 = .overflow
        · rw [step_answer_overflow hexecution heffect]
          exact inFlight_close fun _ => LoadBook.inFlight_failed ..
        · rw [step_answer_error hexecution heffect]
          exact inFlight_close fun _ => LoadBook.inFlight_failed ..

/-- What registering a listed agent again comes to: its registration is replaced in its place, and
the ceiling in its load record is set. -/
structure Renewed (d : Deployment) (registration : Registration) (next : Deployment) : Prop where
  health : next.health = d.health
  isolation : next.isolation = d.isolation
  load : next.load = { d.load with
    records := d.load.records.modify registration.name fun l =>
      { l with maxConcurrency := d.load.ceiling registration.maxConcurrency } }
  inFlight : ∀ agent, next.load.inFlight agent = d.load.inFlight agent
  failures : ∀ agent, next.load.failures? agent = d.load.failures? agent
  cooldown : ∀ agent, next.load.cooldown? agent = d.load.cooldown? agent
  ceiling : ∀ agent, next.load.ceiling? agent = if agent = registration.name then
    some (max (registration.maxConcurrency.getD d.load.policy.defaultMaxConcurrency) 1)
    else d.load.ceiling? agent
  listed : next.router.agents = d.router.agents.modify registration.name fun _ => registration
  names : next.router.names = d.router.names
  /-- What is under way goes on. -/
  executions : next.executions = d.executions
  rounds : next.rounds = d.rounds
  frees : ∀ accesses ticket execution,
    (next.accessed accesses).executions.get? ticket = some execution →
    (next.accessed accesses).Frees ticket execution
  /-- Nobody else comes to be eligible or ceases to be. -/
  others : ∀ agent moment, agent ≠ registration.name →
    next.router.fleet.isEligible agent moment = d.router.fleet.isEligible agent moment
  /-- Whoever was not eligible and now is was held back by the ceiling and nothing else. -/
  gained : ∀ agent moment, d.router.fleet.isEligible agent moment = false →
    next.router.fleet.isEligible agent moment →
    agent = registration.name ∧ d.router.fleet.OnlyFull agent moment
  /-- Whoever was eligible and no longer is is held back by the ceiling and nothing else. -/
  lost : ∀ agent moment, d.router.fleet.isEligible agent moment →
    next.router.fleet.isEligible agent moment = false →
    agent = registration.name ∧ next.router.fleet.OnlyFull agent moment

/-- Between fleets that differ in ceilings only, whoever becomes eligible had been held back by the
ceiling alone. -/
theorem onlyFull_of_gained {before after : Fleet} {agent : String} {moment : Moment}
    (hbefore : before.isEligible agent moment = false) (hafter : after.isEligible agent moment)
    (hisolation : after.isolation = before.isolation) (hhealth : after.health = before.health)
    (hcooling : after.load.isCooling agent moment = before.load.isCooling agent moment)
    (hknown : (before.load.ceiling? agent).isSome) : before.OnlyFull agent moment := by
  obtain ⟨hservice, hhealthy, haccept⟩ := Fleet.isEligible_iff.mp hafter
  obtain ⟨hrested, -⟩ := LoadBook.canAccept_iff_ceiling.mp haccept
  rw [hisolation] at hservice
  rw [hhealth] at hhealthy
  rw [hcooling] at hrested
  refine ⟨hservice, hhealthy, hrested, ?_⟩
  obtain ⟨ceiling, hceiling⟩ := Option.isSome_iff_exists.mp hknown
  refine ⟨ceiling, hceiling, Nat.le_of_not_lt fun hroom => ?_⟩
  have haccepts := LoadBook.canAccept_iff_ceiling.mpr ⟨hrested, ceiling, hceiling, hroom⟩
  rw [Fleet.isEligible_iff.mpr ⟨hservice, hhealthy, haccepts⟩] at hbefore
  contradiction

theorem renewed (hall : d.AllEnrolled) (registration : Registration) (now : Moment)
    (hlisted : registration.name ∈ d.router.names) :
    d.Renewed registration (d.step (.register registration now)) := by
  obtain ⟨found, hfound⟩ : ∃ found, d.router.agents.get? registration.name = some found := by
    refine Option.ne_none_iff_exists'.mp fun hnone => ?_
    exact Table.get?_eq_none_iff.mp hnone hlisted
  obtain ⟨hhealth, hload⟩ := hall registration.name (by simp [hfound])
  have hbook : (d.step (.register registration now)).health = d.health :=
    HealthBook.register_of_isSome hhealth now
  have hceiling : ∀ agent, (d.step (.register registration now)).load.ceiling? agent =
      if agent = registration.name then
        some (max (registration.maxConcurrency.getD d.load.policy.defaultMaxConcurrency) 1)
      else d.load.ceiling? agent :=
    fun agent => LoadBook.ceiling?_register ..
  have hcooling : ∀ agent moment,
      (d.step (.register registration now)).load.isCooling agent moment =
        d.load.isCooling agent moment :=
    fun agent moment => LoadBook.isCooling_register ..
  have hinFlight : ∀ agent, (d.step (.register registration now)).load.inFlight agent =
      d.load.inFlight agent :=
    fun agent => LoadBook.inFlight_register ..
  have hothers : ∀ agent moment, agent ≠ registration.name →
      (d.step (.register registration now)).router.fleet.isEligible agent moment =
        d.router.fleet.isEligible agent moment := by
    intro agent moment hother
    have haccept : (d.step (.register registration now)).load.canAccept agent moment =
        d.load.canAccept agent moment := by
      rw [Bool.eq_iff_iff, LoadBook.canAccept_iff_ceiling, LoadBook.canAccept_iff_ceiling,
        hcooling, hceiling, if_neg hother, hinFlight]
    rw [Fleet.isEligible, Fleet.isEligible]
    change (_ && (d.step (.register registration now)).health.isHealthy agent moment &&
      (d.step (.register registration now)).load.canAccept agent moment) = _
    rw [hbook, haccept]
    rfl
  have honly : ∀ agent moment,
      (d.step (.register registration now)).router.fleet.isEligible agent moment ≠
        d.router.fleet.isEligible agent moment → agent = registration.name := by
    intro agent moment hchanged
    by_contra hother
    exact hchanged (hothers agent moment hother)
  constructor
  case health => exact hbook
  case isolation | executions | rounds => rfl
  case load => exact LoadBook.register_of_isSome hload _
  case inFlight => exact hinFlight
  case failures =>
    intro agent
    refine (LoadBook.failures?_register ..).trans ?_
    split
    next hname =>
      subst hname
      obtain ⟨l, hl⟩ := Option.isSome_iff_exists.mp hload
      change some ((d.load.failures? registration.name).getD 0) = _
      simp [LoadBook.failures?, hl]
    next => rfl
  case cooldown => exact fun agent => LoadBook.cooldown?_register ..
  case ceiling => exact hceiling
  case listed => exact Table.put_eq_modify hfound fun _ => registration
  case names => exact Table.keys_put_of_mem hlisted registration
  case frees => exact fun accesses ticket execution hexecution => frees hexecution
  case others => exact hothers
  case gained =>
    intro agent moment hbefore hafter
    obtain rfl := honly agent moment (by simp [hbefore, hafter])
    refine ⟨rfl, onlyFull_of_gained hbefore hafter rfl hbook (hcooling ..) ?_⟩
    change (d.load.ceiling? registration.name).isSome
    simpa [LoadBook.ceiling?] using hload
  case lost =>
    intro agent moment hbefore hafter
    obtain rfl := honly agent moment (by simp [hbefore, hafter])
    refine ⟨rfl, onlyFull_of_gained hafter hbefore rfl hbook.symm (hcooling ..).symm ?_⟩
    change ((d.step (.register registration now)).load.ceiling? registration.name).isSome
    rw [hceiling, if_pos rfl]
    rfl

/-- In whatever state a router and its books are, to register an agent again that is listed already
replaces its registration and its ceiling and nothing else. -/
theorem accessed_renewed (ttl : Span) (policy : LoadPolicy) (accesses : List Access)
    (registration : Registration) (now : Moment)
    (hlisted : registration.name ∈ ((start ttl policy).accessed accesses).router.names) :
    ((start ttl policy).accessed accesses).Renewed registration
      (((start ttl policy).accessed accesses).step (.register registration now)) :=
  renewed (allEnrolled_accessed ttl policy accesses) registration now hlisted

/-- An agent that may do one thing at a time, and is doing it. -/
def busyWriter : List Access := [
  .act (.register ⟨"A", ["create_page"], "http://a.local", some 1, ⟨0⟩⟩ (.ofNanos 0)),
  .act (.mark "A" .heartbeat (.ofNanos 0)),
  .act (.execute ⟨1⟩ (.ofList []) ⟨.ofNanos 1, "id", "event", "token"⟩
    (.obj [("command", .str "create_page")]))]

/-- The agent once more, to do two things at a time elsewhere. -/
def roomierWriter : Registration := ⟨"A", ["notify"], "http://a.other", some 2, ⟨1⟩⟩

theorem roomierWriter_renewed :
    let d := (start (.ofSeconds 120) ⟨1, .ofSeconds 60, 1⟩).accessed busyWriter
    roomierWriter.name ∈ d.router.names ∧ d.load.inFlight "A" = 1 ∧
    d.router.fleet.isEligible "A" (.ofNanos 2) = false ∧
    (d.step (.register roomierWriter (.ofNanos 2))).router.fleet.isEligible "A" (.ofNanos 2) ∧
    d.Renewed roomierWriter (d.step (.register roomierWriter (.ofNanos 2))) := by
  have hlisted : roomierWriter.name ∈
      ((start (.ofSeconds 120) ⟨1, .ofSeconds 60, 1⟩).accessed busyWriter).router.names := by
    decide +kernel
  exact ⟨hlisted, by decide +kernel, by decide +kernel, by decide +kernel,
    accessed_renewed (.ofSeconds 120) ⟨1, .ofSeconds 60, 1⟩ busyWriter roomierWriter (.ofNanos 2)
      hlisted⟩

end Deployment

end Gatehouse
