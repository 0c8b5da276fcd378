import Gatehouse.Proofs.Agent.Deployment
import Gatehouse.Proofs.Places

/-! # Fit for work

An agent gets work only while its last registration lists the command, nobody
holds it isolated, the last thing said about its health was a heartbeat that is
still fresh, and every cooldown of it has run out. Of these the cooldown alone
needs a clock that does not go back: the load book keeps the end of the last
cooldown only, which is the latest end when cooldowns open in order of time.

A failure is said to be the end of the agent's health before its execution
ends, so nothing new starts on the agent before a later heartbeat. The one
failure of which this is not said is the one whose cooldown cannot be given an
end.
-/

namespace Gatehouse

namespace AgentEvent

/-- Whether an agent is taken out of service or put back. -/
def service? (agent : String) : AgentEvent → Option Bool
  | .isolated other => if other = agent then some true else none
  | .released other => if other = agent then some false else none
  | _ => none

/-- The registration of an agent. -/
def listing? (agent : String) : AgentEvent → Option Registration
  | .listed registration => if registration.name = agent then some registration else none
  | _ => none

/-- What an agent must be to be given an execution at a moment, as far as the history tells. -/
structure Fit (ttl cooldown : Span) (history : List AgentEvent) (execution : Execution)
    (now : Moment) : Prop where
  command : Router.commandOf execution.task.payload = some execution.task.command
  listed : ∃ registration, latest (listing? execution.task.agent) history = some registration ∧
    registration.handles execution.task.command ∧ execution.adapter = registration.adapter
  inService : latest (service? execution.task.agent) history ≠ some true
  alive : ∃ heard, latest (mark? execution.task.agent) history = some (.heartbeat, heard) ∧
    now.since heard ≤ ttl
  /-- Every cooldown of the agent was opened as long ago as it lasts. -/
  rested : ∀ opened, .cooled execution.task.agent opened ∈ history → cooldown ≤ now.since opened

/-- Nothing started on an agent that was not fit for it. -/
def AllFit (ttl cooldown : Span) (history : List AgentEvent) : Prop :=
  ∀ place ticket execution now, history[place]? = some (.started ticket execution now) →
    Fit ttl cooldown (history.take place) execution now

/-- Where an execution failed, this was the last thing said about the health of its agent. -/
def Noted (history : List AgentEvent) : Prop :=
  ∀ place ticket agent fault now,
    history[place]? = some (.ended ticket agent (.failed fault) now) →
    latest (mark? agent) (history.take place) = some (.unhealthy (some fault.text), now)

variable {ttl cooldown : Span} {history added : List AgentEvent}

theorem AllFit.append (hfit : AllFit ttl cooldown history)
    (hnone : ∀ ticket execution now, .started ticket execution now ∉ added) :
    AllFit ttl cooldown (history ++ added) := by
  intro place ticket execution now hplace
  rcases place_cases hplace with ⟨_, hbefore⟩ | ⟨_, hadded⟩
  · rw [take_append hbefore]
    exact hfit place ticket execution now hbefore
  · exact absurd hadded (hnone ticket execution now)

theorem AllFit.started (hfit : AllFit ttl cooldown history) {execution : Execution} {now : Moment}
    (hnow : Fit ttl cooldown history execution now) (ticket : Ticket) :
    AllFit ttl cooldown (history ++ [.started ticket execution now]) := by
  intro place other begun moment hplace
  rcases place_singleton_cases hplace with ⟨_, hbefore⟩ | ⟨rfl, hlast⟩
  · rw [take_append hbefore]
    exact hfit place other begun moment hbefore
  · cases hlast
    rwa [List.take_left]

theorem Noted.append (hnoted : Noted history)
    (hnone : ∀ ticket agent fault now, .ended ticket agent (.failed fault) now ∉ added) :
    Noted (history ++ added) := by
  intro place ticket agent fault now hplace
  rcases place_cases hplace with ⟨_, hbefore⟩ | ⟨_, hadded⟩
  · rw [take_append hbefore]
    exact hnoted place ticket agent fault now hbefore
  · exact absurd hadded (hnone ticket agent fault now)

theorem Noted.failed (hnoted : Noted history) {agent : String} {fault : Fault} {now : Moment}
    (hlast : latest (mark? agent) history = some (.unhealthy (some fault.text), now))
    (ticket : Ticket) : Noted (history ++ [.ended ticket agent (.failed fault) now]) := by
  intro place other someone fault moment hplace
  rcases place_singleton_cases hplace with ⟨_, hbefore⟩ | ⟨rfl, hended⟩
  · rw [take_append hbefore]
    exact hnoted place other someone fault moment hbefore
  · cases hended
    rwa [List.take_left]

/-- What was last of its kind at one place and not yet at another happened in between. -/
theorem exists_of_latest {α : Type} {pick : AgentEvent → Option α} {earlier later : Nat} {found : α}
    (hle : earlier ≤ later) (hlater : latest pick (history.take later) = some found)
    (hearlier : latest pick (history.take earlier) ≠ some found) :
    ∃ place event, earlier ≤ place ∧ place < later ∧ history[place]? = some event ∧
      pick event = some found := by
  have htake : (history.take later).take earlier = history.take earlier := by
    rw [List.take_take, Nat.min_eq_left hle]
  rw [← List.take_append_drop earlier (history.take later), htake, latest_append] at hlater
  rcases Option.or_eq_some_iff.mp hlater with hbetween | ⟨_, hbefore⟩
  · obtain ⟨event, hevent, hpick⟩ := List.mem_filterMap.mp (List.mem_of_getLast? hbetween)
    obtain ⟨n, hn⟩ := List.mem_iff_getElem?.mp hevent
    rw [List.getElem?_drop] at hn
    obtain ⟨hlt, hplace⟩ := of_place_take hn
    exact ⟨earlier + n, event, Nat.le_add_right earlier n, hlt, hplace, hpick⟩
  · exact absurd hbefore hearlier

end AgentEvent

namespace Deployment

open AgentEvent

variable {ttl : Span} {policy : LoadPolicy} {d next : Deployment} {now : Moment}

/-- The books on health and isolation and the registrations agree with what was written down. The
record of an agent can be worse than that, for its heartbeat may have been found too old. -/
structure Known (ttl : Span) (d : Deployment) : Prop where
  healthy : ∀ agent heard, d.health.healthySince? agent = some heard →
    latest (mark? agent) d.history = some (.heartbeat, heard)
  serving : ∀ agent, d.isolation.isIsolated agent = (latest (service? agent) d.history).getD false
  listed : ∀ agent, d.router.agents.get? agent = latest (listing? agent) d.history
  counted : d.health.ttl = ttl

theorem known_start (ttl : Span) (policy : LoadPolicy) : (start ttl policy).Known ttl where
  healthy := by simp [start, health, HealthBook.healthySince?, HealthBook.get?, HealthBook.new]
  serving := fun _ => rfl
  listed := fun _ => rfl
  counted := rfl

theorem Known.same (hknown : d.Known ttl) {added : List AgentEvent}
    (hnone : ∀ agent, ∀ event ∈ added,
      mark? agent event = none ∧ service? agent event = none ∧ listing? agent event = none)
    (hhistory : next.history = d.history ++ added) (hhealth : next.health = d.health)
    (hisolation : next.isolation = d.isolation) (hagents : next.router.agents = d.router.agents) :
    next.Known ttl := by
  constructor
  case healthy =>
    intro agent heard hheard
    rw [hhistory, latest_append_of_none _ fun event hevent => (hnone agent event hevent).1]
    rw [hhealth] at hheard
    exact hknown.healthy agent heard hheard
  case serving =>
    intro agent
    rw [hhistory, latest_append_of_none _ fun event hevent => (hnone agent event hevent).2.1,
      hisolation]
    exact hknown.serving agent
  case listed =>
    intro agent
    rw [hhistory, latest_append_of_none _ fun event hevent => (hnone agent event hevent).2.2,
      hagents]
    exact hknown.listed agent
  case counted => rw [hhealth, hknown.counted]

theorem Known.marking (hknown : d.Known ttl) (agent : String) (said : HealthMark) (now : Moment) :
    (d.marking agent said now).Known ttl := by
  constructor
  case healthy =>
    intro other heard hheard
    change (d.health.mark agent said now).healthySince? other = some heard at hheard
    change latest (mark? other) (d.history ++ [.marked agent said now]) = _
    rw [HealthBook.healthySince?_mark] at hheard
    rw [latest_append, latest_singleton, mark?]
    by_cases heq : other = agent
    · rw [if_pos heq] at hheard
      split at hheard
      next hsaid =>
        rw [if_pos heq.symm, hsaid, Option.some.inj hheard]
        rfl
      next => contradiction
    · rw [if_neg heq] at hheard
      rw [if_neg (Ne.symm heq), Option.none_or]
      exact hknown.healthy other heard hheard
  case serving =>
    intro other
    change _ = (latest (service? other) (d.history ++ [.marked agent said now])).getD false
    rw [latest_append_of_none _ (by simp [service?])]
    exact hknown.serving other
  case listed =>
    intro other
    change _ = latest (listing? other) (d.history ++ [.marked agent said now])
    rw [latest_append_of_none _ (by simp [listing?])]
    exact hknown.listed other
  case counted =>
    rw [← hknown.counted]
    cases said <;> rfl

/-- Where an agent is taken out of service or put back, the book on isolation tells so. -/
theorem Known.serve (hknown : d.Known ttl) {agent : String} {book : IsolationBook}
    {event : AgentEvent} {out : Bool}
    (hbook : ∀ other, book.isIsolated other = if other = agent then out
      else d.isolation.isIsolated other)
    (hservice : ∀ other, service? other event = if agent = other then some out else none)
    (hnone : ∀ other, mark? other event = none ∧ listing? other event = none) :
    ((d.withIsolation book).saw event).Known ttl := by
  constructor
  case healthy =>
    intro other heard hheard
    change latest (mark? other) (d.history ++ [event]) = _
    rw [latest_append_of_none _ (by simp [(hnone other).1])]
    exact hknown.healthy other heard hheard
  case serving =>
    intro other
    change book.isIsolated other = (latest (service? other) (d.history ++ [event])).getD false
    rw [hbook, latest_append, latest_singleton, hservice]
    by_cases heq : other = agent
    · rw [if_pos heq, if_pos heq.symm]
      rfl
    · rw [if_neg heq, if_neg (Ne.symm heq), Option.none_or]
      exact hknown.serving other
  case listed =>
    intro other
    change _ = latest (listing? other) (d.history ++ [event])
    rw [latest_append_of_none _ (by simp [(hnone other).2])]
    exact hknown.listed other
  case counted => exact hknown.counted

theorem Known.list (hknown : d.Known ttl) (registration : Registration) :
    ({ d with router := { d.router with
      agents := d.router.agents.put registration.name registration } }.saw
        (.listed registration)).Known ttl := by
  constructor
  case healthy =>
    intro other heard hheard
    change latest (mark? other) (d.history ++ [.listed registration]) = _
    rw [latest_append_of_none _ (by simp [mark?])]
    exact hknown.healthy other heard hheard
  case serving =>
    intro other
    change _ = (latest (service? other) (d.history ++ [.listed registration])).getD false
    rw [latest_append_of_none _ (by simp [service?])]
    exact hknown.serving other
  case listed =>
    intro other
    change (d.router.agents.put registration.name registration).get? other =
      latest (listing? other) (d.history ++ [.listed registration])
    rw [Table.get?_put, latest_append, latest_singleton, listing?]
    by_cases heq : other = registration.name
    · rw [if_pos heq, if_pos heq.symm]
      rfl
    · rw [if_neg heq, if_neg (Ne.symm heq), Option.none_or]
      exact hknown.listed other
  case counted => exact hknown.counted

theorem known_change (hchange : Change now d next) (hknown : d.Known ttl) : next.Known ttl := by
  cases hchange with
  | looked agent =>
      -- The history stays, and the book can only have become worse.
      refine ⟨?_, hknown.serving, hknown.listed, hknown.counted⟩
      intro other heard hheard
      apply hknown.healthy other heard
      change (d.health.checked agent now).healthySince? other = some heard at hheard
      rw [HealthBook.healthySince?_checked] at hheard
      split at hheard
      next => exact (Option.filter_eq_some_iff.mp hheard).1
      next => exact hheard
  | met agent =>
      refine ⟨?_, hknown.serving, hknown.listed, hknown.counted⟩
      intro other heard hheard
      exact hknown.healthy other heard ((HealthBook.healthySince?_register ..).symm.trans hheard)
  | recovered | probing => exact ⟨hknown.healthy, hknown.serving, hknown.listed, hknown.counted⟩
  | marked agent said => exact hknown.marking agent said now
  | isolated agent reason =>
      exact hknown.serve (d.isolation.isIsolated_isolate agent · reason now) (fun _ => rfl)
        fun _ => ⟨rfl, rfl⟩
  | released agent =>
      exact hknown.serve (d.isolation.isIsolated_release agent) (fun _ => rfl)
        fun _ => ⟨rfl, rfl⟩
  | listed registration => exact hknown.list registration
  | ceiled | started | ended =>
      refine hknown.same ?_ rfl rfl rfl rfl
      simp [mark?, service?, listing?]
  | failed agent =>
      refine hknown.same ?_ rfl rfl rfl rfl
      cases (d.load.failed agent now).2 <;> simp [cooldowns, mark?, service?, listing?]

/-- The load book keeps an end for every cooldown that was opened, and none was opened later than
what the clock shows. -/
structure Cooling (policy : LoadPolicy) (clock : Moment) (d : Deployment) : Prop where
  opened : ∀ agent opened, .cooled agent opened ∈ d.history → opened ≤ clock ∧
    ∃ u, d.load.cooldown? agent = some u ∧ policy.cooldown ≤ u.since opened
  governed : d.load.policy = policy

theorem cooling_start (ttl : Span) (policy : LoadPolicy) (clock : Moment) :
    (start ttl policy).Cooling policy clock where
  opened := by simp [start]
  governed := rfl

theorem Cooling.later {earlier later : Moment} (hle : earlier ≤ later)
    (hcooling : d.Cooling policy earlier) : d.Cooling policy later where
  opened := by
    intro agent opened hopened
    obtain ⟨hpast, hends⟩ := hcooling.opened agent opened hopened
    exact ⟨Int.le_trans hpast hle, hends⟩
  governed := hcooling.governed

theorem Cooling.same (hcooling : d.Cooling policy now) {added : List AgentEvent}
    (hnone : ∀ agent opened, .cooled agent opened ∉ added)
    (hhistory : next.history = d.history ++ added) (hpolicy : next.load.policy = d.load.policy)
    (hends : ∀ agent, next.load.cooldown? agent = d.load.cooldown? agent) :
    next.Cooling policy now where
  opened := by
    intro agent opened hopened
    rw [hhistory, List.mem_append] at hopened
    rw [hends]
    rcases hopened with hbefore | hadded
    · exact hcooling.opened agent opened hbefore
    · exact absurd hadded (hnone agent opened)
  governed := hpolicy.trans hcooling.governed

theorem mem_cooldowns {agent other : String} {opened : Moment} {effect : FailureEffect} :
    .cooled other opened ∈ cooldowns agent now effect ↔
      (other = agent ∧ effect = .opened) ∧ opened = now := by
  cases effect <;> simp [cooldowns]

/-- A cooldown that opens now ends no earlier than those that were opened before. -/
theorem Cooling.failing (hcooling : d.Cooling policy now) (agent : String) :
    (d.failing agent now).Cooling policy now where
  opened := by
    intro other opened hopened
    replace hopened := List.mem_append.mp hopened
    rw [mem_cooldowns] at hopened
    change opened ≤ now ∧ ∃ u, (d.load.failed agent now).1.cooldown? other = some u ∧ _
    rw [LoadBook.cooldown?_failed]
    by_cases hnew : other = agent ∧ (d.load.failed agent now).2 = .opened
    · obtain ⟨u, hends, _⟩ := LoadBook.add?_of_opened hnew.2
      rw [hcooling.governed] at hends
      have hpast : opened ≤ now := by
        rcases hopened with hbefore | ⟨_, rfl⟩
        · exact (hcooling.opened other opened hbefore).1
        · exact Int.le_refl _
      refine ⟨hpast, u, by rw [if_pos hnew, hcooling.governed, hends], ?_⟩
      have hnanos := Moment.nanos_of_add? hends
      change policy.cooldown.nanos ≤ u.nanos - opened.nanos
      change opened.nanos ≤ now.nanos at hpast
      omega
    · rw [if_neg hnew]
      rcases hopened with hbefore | ⟨hadded, _⟩
      · exact hcooling.opened other opened hbefore
      · exact absurd hadded hnew
  governed := (LoadBook.policy_failed ..).trans hcooling.governed

theorem cooling_change (hchange : Change now d next) (hcooling : d.Cooling policy now) :
    next.Cooling policy now := by
  cases hchange with
  | looked | met | probing =>
      exact hcooling.same (by simp) (List.append_nil _).symm rfl fun _ => rfl
  | marked | listed | isolated | released =>
      exact hcooling.same (by simp) rfl rfl fun _ => rfl
  | ceiled agent wanted =>
      exact hcooling.same (by simp) rfl rfl (LoadBook.cooldown?_register _ agent · wanted)
  | failed agent => exact hcooling.failing agent
  | recovered agent =>
      exact hcooling.same (by simp) (List.append_nil _).symm rfl
        (LoadBook.cooldown?_succeeded _ agent)
  | started ticket execution key registration taken load _ _ _ _ _ _ _ hreserve =>
      exact hcooling.same (by simp) rfl (LoadBook.policy_reserve hreserve)
        (LoadBook.cooldown?_reserve hreserve)
  | ended ticket execution =>
      exact hcooling.same (by simp) rfl rfl (LoadBook.cooldown?_release _ execution.task.agent)

/-- An agent that is eligible according to books that agree with the history is fit. -/
theorem Known.fit (hknown : d.Known ttl) (hcooling : d.Cooling policy now) {execution : Execution}
    {key : String} {registration : Registration}
    (hlisted : d.router.agents.get? key = some registration)
    (hcommand : Router.commandOf execution.task.payload = some execution.task.command)
    (hhandles : registration.handles execution.task.command)
    (hagent : execution.task.agent = registration.name)
    (hadapter : execution.adapter = registration.adapter)
    (heligible : d.router.fleet.isEligible execution.task.agent now) :
    Fit ttl policy.cooldown d.history execution now := by
  obtain ⟨hservice, hhealthy, haccept⟩ := Fleet.isEligible_iff.mp heligible
  constructor
  case command => exact hcommand
  case listed =>
    refine ⟨registration, ?_, hhandles, hadapter⟩
    rw [hknown.listed] at hlisted
    obtain ⟨event, _, hpick⟩ := List.mem_filterMap.mp (List.mem_of_getLast? hlisted)
    have hname : registration.name = key := by
      cases event with
      | listed other =>
          simp only [listing?] at hpick
          split at hpick
          next hkey => rw [← Option.some.inj hpick, hkey]
          next => contradiction
      | _ => contradiction
    rw [hagent, hname, hlisted]
  case inService =>
    have hserving := hknown.serving execution.task.agent
    rw [isolation, hservice] at hserving
    intro hlatest
    simp [hlatest] at hserving
  case alive =>
    obtain ⟨heard, hheard, hfresh⟩ := HealthBook.isHealthy_iff.mp hhealthy
    have hcounted : d.router.fleet.health.ttl = ttl := hknown.counted
    rw [hcounted] at hfresh
    exact ⟨heard, hknown.healthy _ heard hheard, hfresh⟩
  case rested =>
    intro opened hopened
    obtain ⟨_, u, hends, hlong⟩ := hcooling.opened _ opened hopened
    have hover : ¬ now < u := LoadBook.rested_of_canAccept haccept hends
    change ¬ now.nanos < u.nanos at hover
    change policy.cooldown.nanos ≤ u.nanos - opened.nanos at hlong
    change policy.cooldown.nanos ≤ now.nanos - opened.nanos
    omega

/-- What the books know at a moment, and that it was heeded so far. -/
structure Heeded (ttl : Span) (policy : LoadPolicy) (clock : Moment) (d : Deployment) : Prop where
  known : d.Known ttl
  cooling : d.Cooling policy clock
  fit : AllFit ttl policy.cooldown d.history
  noted : Noted d.history
  overflowed : ∀ ticket agent fault moment,
    .ended ticket agent (.brokeDown fault) moment ∈ d.history → moment.add? policy.cooldown = none

theorem heeded_start (ttl : Span) (policy : LoadPolicy) (clock : Moment) :
    (start ttl policy).Heeded ttl policy clock where
  known := known_start ttl policy
  cooling := cooling_start ttl policy clock
  fit := by simp [AllFit, start]
  noted := by simp [Noted, start]
  overflowed := by simp [start]

theorem Heeded.quiet (hheeded : d.Heeded ttl policy now) (hchange : Change now d next)
    {added : List AgentEvent} (hhistory : next.history = d.history ++ added)
    (hnone : ∀ event ∈ added, event.ticket? = none) : next.Heeded ttl policy now := by
  constructor
  case known => exact known_change hchange hheeded.known
  case cooling => exact cooling_change hchange hheeded.cooling
  case fit =>
    rw [hhistory]
    apply hheeded.fit.append
    intro ticket execution moment hmem
    cases hnone _ hmem
  case noted =>
    rw [hhistory]
    apply hheeded.noted.append
    intro ticket agent fault moment hmem
    cases hnone _ hmem
  case overflowed =>
    rw [hhistory]
    intro ticket agent fault moment hmem
    rcases List.mem_append.mp hmem with hbefore | hadded
    · exact hheeded.overflowed ticket agent fault moment hbefore
    · cases hnone _ hadded

theorem heeded_change (hchange : Change now d next) (hheeded : d.Heeded ttl policy now) :
    next.Heeded ttl policy now := by
  have hchanged := hchange
  cases hchange with
  | looked | met | recovered | probing =>
      exact hheeded.quiet hchanged (List.append_nil _).symm (by simp)
  | marked | ceiled | listed | isolated | released =>
      exact hheeded.quiet hchanged rfl (by simp [ticket?])
  | failed agent =>
      refine hheeded.quiet hchanged rfl ?_
      cases (d.load.failed agent now).2 <;> simp [cooldowns, ticket?]
  | started ticket execution key registration taken load _ hlisted hcommand hhandles hagent
      hadapter heligible _ =>
      have hfit : Fit ttl policy.cooldown d.history execution now :=
        hheeded.known.fit hheeded.cooling hlisted hcommand hhandles hagent hadapter heligible
      constructor
      case known => exact known_change hchanged hheeded.known
      case cooling => exact cooling_change hchanged hheeded.cooling
      case fit => exact hheeded.fit.started hfit ticket
      case noted => exact hheeded.noted.append (by simp)
      case overflowed =>
        intro other agent fault moment hmem
        rcases List.mem_append.mp hmem with hbefore | hadded
        · exact hheeded.overflowed other agent fault moment hbefore
        · cases List.mem_singleton.mp hadded
  | ended ticket execution ending hexecution hending =>
      constructor
      case known => exact known_change hchanged hheeded.known
      case cooling => exact cooling_change hchanged hheeded.cooling
      case fit => exact hheeded.fit.append (by simp)
      case noted =>
        cases ending with
        | failed fault => exact hheeded.noted.failed hending ticket
        | _ => exact hheeded.noted.append (by simp)
      case overflowed =>
        intro other agent fault moment hmem
        rcases List.mem_append.mp hmem with hbefore | hadded
        · exact hheeded.overflowed other agent fault moment hbefore
        · cases List.mem_singleton.mp hadded
          rw [← hheeded.cooling.governed]
          exact hending

/-- No agent gets work that it is not fit for. After an execution on it failed it gets none before a
later heartbeat, and none at all while a cooldown lasts. -/
structure Sheltered (ttl cooldown : Span) (history : List AgentEvent) : Prop where
  fit : AllFit ttl cooldown history
  recovered : ∀ (place : Nat) ticket agent fault failedAt,
    history[place]? = some (.ended ticket agent (.failed fault) failedAt) →
    ∀ (later : Nat) other execution now, place < later →
    history[later]? = some (.started other execution now) → execution.task.agent = agent →
    ∃ (between : Nat) (heard : Moment), place < between ∧ between < later ∧
      history[between]? = some (.marked agent .heartbeat heard) ∧ now.since heard ≤ ttl
  rested : ∀ (place : Nat) agent opened, history[place]? = some (.cooled agent opened) →
    ∀ (later : Nat) ticket execution now, place < later →
    history[later]? = some (.started ticket execution now) → execution.task.agent = agent →
    cooldown ≤ now.since opened
  /-- A failure that does not count as one was due to open a cooldown that has no end. -/
  overflowed : ∀ ticket agent fault now, .ended ticket agent (.brokeDown fault) now ∈ history →
    now.add? cooldown = none

theorem Heeded.recovered (hheeded : d.Heeded ttl policy now) {place later : Nat}
    {ticket other : Ticket} {fault : Fault} {execution : Execution} {failedAt moment : Moment}
    (hplace : d.history[place]? =
      some (.ended ticket execution.task.agent (.failed fault) failedAt))
    (hlt : place < later) (hlater : d.history[later]? = some (.started other execution moment)) :
    ∃ between heard, place < between ∧ between < later ∧
      d.history[between]? = some (.marked execution.task.agent .heartbeat heard) ∧
      moment.since heard ≤ ttl := by
  obtain ⟨heard, hheard, hfresh⟩ := (hheeded.fit later other execution moment hlater).alive
  have hfailed := hheeded.noted place ticket _ fault failedAt hplace
  obtain ⟨between, event, hfrom, hupto, hbetween, hpick⟩ :=
    exists_of_latest (Nat.le_of_lt hlt) hheard (by simp [hfailed])
  have hevent : event = .marked execution.task.agent .heartbeat heard := by
    cases event with
    | marked agent said marked =>
        simp only [mark?] at hpick
        split at hpick
        next hagent =>
          cases hpick
          rw [hagent]
        next => contradiction
    | _ => contradiction
  subst hevent
  have hne : place ≠ between := by
    rintro rfl
    rw [hplace] at hbetween
    cases hbetween
  exact ⟨between, heard, Nat.lt_of_le_of_ne hfrom hne, hupto, hbetween, hfresh⟩

theorem exists_clock {actions : List Action}
    (hclock : (actions.map Action.now).Pairwise (· ≤ ·)) :
    ∃ clock, ∀ action ∈ actions, action.now ≤ clock := by
  induction actions using List.reverseRecOn with
  | nil => exact ⟨default, by simp⟩
  | append_singleton before last _ =>
      rw [List.map_append, List.pairwise_append] at hclock
      refine ⟨last.now, ?_⟩
      intro action haction
      rcases List.mem_append.mp haction with hbefore | hlast
      · exact hclock.2.2 _ (List.mem_map_of_mem hbefore) _ (by simp)
      · rw [List.mem_singleton.mp hlast]
        exact Int.le_refl _

/-- While the clock does not go back, all agents are sheltered throughout a run. -/
theorem run_sheltered (ttl : Span) (policy : LoadPolicy) (actions : List Action)
    (hclock : (actions.map Action.now).Pairwise (· ≤ ·)) :
    Sheltered ttl policy.cooldown ((start ttl policy).run actions).history := by
  obtain ⟨clock, hpassed⟩ := exists_clock hclock
  have hheeded : ((start ttl policy).run actions).Heeded ttl policy clock := by
    refine run_keeps_until heeded_change ?_ (heeded_start ttl policy) hclock hpassed
    intro earlier later d hle hheeded
    exact ⟨hheeded.known, hheeded.cooling.later hle, hheeded.fit, hheeded.noted,
      hheeded.overflowed⟩
  generalize (start ttl policy).run actions = d at hheeded ⊢
  constructor
  case fit => exact hheeded.fit
  case recovered =>
    rintro place ticket agent fault failedAt hplace later other execution now hlt hlater rfl
    exact hheeded.recovered hplace hlt hlater
  case rested =>
    rintro place agent opened hplace later ticket execution now hlt hlater rfl
    apply (hheeded.fit later ticket execution now hlater).rested
    apply List.mem_of_getElem?
    rw [List.getElem?_take, if_pos hlt, hplace]
  case overflowed => exact hheeded.overflowed

/-- An agent that lists one command. -/
def writer : Registration := ⟨"A", ["create_page"], "http://a.local", some 1, ⟨0⟩⟩

/-- A payload that asks for the command. -/
def pageWanted : Json := .obj [("command", .str "create_page")]

def secondsIn (seconds : Int) : Moment := .ofNanos (seconds * 1000000000)

def stampIn (seconds : Int) : Stamp := ⟨secondsIn seconds, "id", "event", "token"⟩

/-- The execution that the agent is given for the payload. -/
def pageExecution : Execution :=
  ⟨⟨"id", "A", "create_page", pageWanted⟩, "http://a.local", ⟨0⟩⟩

def badGateway : Fault := ⟨"IntegrationError", "upstream returned 502"⟩

/-- An execution fails. A heartbeat comes soon, but the agent is left alone for a minute. -/
def faultyWriter : List Action := [
  .register writer (secondsIn 0),
  .mark "A" .heartbeat (secondsIn 0),
  .execute ⟨1⟩ (.ofList []) (stampIn 1) pageWanted,
  .answer ⟨1⟩ (secondsIn 2) (.error badGateway),
  .mark "A" .heartbeat (secondsIn 3),
  .execute ⟨2⟩ (.ofList []) (stampIn 10) pageWanted,
  .execute ⟨3⟩ (.ofList []) (stampIn 62) pageWanted]

theorem faultyWriter_sheltered :
    (faultyWriter.map Action.now).Pairwise (· ≤ ·) ∧
    ((start (.ofSeconds 120) ⟨1, .ofSeconds 60, 1⟩).run faultyWriter).history.drop 3 = [
      .started ⟨1⟩ pageExecution (secondsIn 1),
      .cooled "A" (secondsIn 2),
      .marked "A" (.unhealthy (some badGateway.text)) (secondsIn 2),
      .ended ⟨1⟩ "A" (.failed badGateway) (secondsIn 2),
      .marked "A" .heartbeat (secondsIn 3),
      .started ⟨3⟩ pageExecution (secondsIn 62)] ∧
    Sheltered (.ofSeconds 120) (.ofSeconds 60)
      ((start (.ofSeconds 120) ⟨1, .ofSeconds 60, 1⟩).run faultyWriter).history :=
  ⟨by decide +kernel, by decide +kernel,
    run_sheltered (.ofSeconds 120) ⟨1, .ofSeconds 60, 1⟩ faultyWriter (by decide +kernel)⟩

/-- An execution fails, and the same is asked for again. -/
def retriedWriter : List Action := [
  .register writer (secondsIn 0),
  .mark "A" .heartbeat (secondsIn 0),
  .execute ⟨1⟩ (.ofList []) (stampIn 1) pageWanted,
  .answer ⟨1⟩ (secondsIn 2) (.error badGateway),
  .execute ⟨2⟩ (.ofList []) (stampIn 3) pageWanted]

/-- With a cooldown of almost three hundred thousand years the agent is called again at once: no
calendar shows the end of the cooldown, and so nothing is said about the health of the agent. -/
theorem retriedWriter_called_again :
    (retriedWriter.map Action.now).Pairwise (· ≤ ·) ∧
    ((start (.ofSeconds 120) ⟨1, .ofSeconds 9000000000000, 1⟩).run retriedWriter).history.drop 3 = [
      .started ⟨1⟩ pageExecution (secondsIn 1),
      .ended ⟨1⟩ "A" (.brokeDown badGateway) (secondsIn 2),
      .started ⟨2⟩ pageExecution (secondsIn 3)] :=
  ⟨by decide +kernel, by decide +kernel⟩

end Deployment

end Gatehouse
