import Gatehouse.Proofs.Agent.Deployment
import Gatehouse.Proofs.Places
import Gatehouse.Proofs.Tables

/-! # Slots

The slots of an agent are held by the executions on it that have started and
not ended, and by nothing else: an execution takes one when its adapter is
called and gives back that one however it ends. So the count in the load book
never drifts, and as a slot is given only below the ceiling, no call of an
adapter ever makes it one too many, whatever ceilings were in force before.
-/

namespace Gatehouse

namespace AgentEvent

/-- The execution that starts. -/
def started? : AgentEvent → Option (Ticket × Execution)
  | .started ticket execution _ => some (ticket, execution)
  | _ => none

/-- The execution that ends. -/
def ended? : AgentEvent → Option Ticket
  | .ended ticket .. => some ticket
  | _ => none

/-- What is asked for as the ceiling of an agent. -/
def wish? (agent : String) : AgentEvent → Option (Option Nat)
  | .ceiled other wanted => if other = agent then some wanted else none
  | _ => none

/-- The executions that have started and not ended. -/
def underWay (history : List AgentEvent) : List (Ticket × Execution) :=
  (history.filterMap started?).filter fun entry => entry.1 ∉ history.filterMap ended?

/-- The number of executions on an agent that have started and not ended. -/
def occupancy (agent : String) (history : List AgentEvent) : Nat :=
  (underWay history).countP fun entry => entry.2.task.agent = agent

/-- The ceiling of an agent, as it was set last. -/
def ceilingIn (policy : LoadPolicy) (agent : String) (history : List AgentEvent) : Option Nat :=
  (latest (wish? agent) history).map fun wanted =>
    max (wanted.getD policy.defaultMaxConcurrency) 1

/-- An event that has to do with neither slots nor ceilings. -/
def Quiet (event : AgentEvent) : Prop :=
  event.started? = none ∧ event.ended? = none ∧ ∀ agent, event.wish? agent = none

/-- No execution starts above the ceiling that is in force. -/
def Within (policy : LoadPolicy) (history : List AgentEvent) : Prop :=
  ∀ place ticket execution now, history[place]? = some (.started ticket execution now) →
    ∃ ceiling, ceilingIn policy execution.task.agent (history.take place) = some ceiling ∧
      occupancy execution.task.agent (history.take (place + 1)) ≤ ceiling

variable {history added : List AgentEvent}

theorem underWay_quiet (hquiet : ∀ event ∈ added, event.Quiet) :
    underWay (history ++ added) = underWay history := by
  have hstarted := filterMap_append_of_none history fun event hevent =>
    (hquiet event hevent).1
  have hended := filterMap_append_of_none history fun event hevent =>
    (hquiet event hevent).2.1
  rw [underWay, hstarted, hended, ← underWay]

theorem ceilingIn_quiet (hquiet : ∀ event ∈ added, event.Quiet) (policy : LoadPolicy)
    (agent : String) :
    ceilingIn policy agent (history ++ added) = ceilingIn policy agent history := by
  rw [ceilingIn, latest_append_of_none history fun event hevent => (hquiet event hevent).2.2 agent,
    ← ceilingIn]

theorem underWay_started {ticket : Ticket} (hnew : ∀ event ∈ history, event.ticket? ≠ some ticket)
    (execution : Execution) (now : Moment) :
    underWay (history ++ [.started ticket execution now]) =
      underWay history ++ [(ticket, execution)] := by
  -- Nobody has had the ticket, so no end stands against it.
  have hfresh : ticket ∉ history.filterMap ended? := by
    intro hmem
    obtain ⟨event, hevent, hended⟩ := List.mem_filterMap.mp hmem
    apply hnew event hevent
    cases event <;> simp_all [ended?, ticket?]
  have hended : (history ++ [AgentEvent.started ticket execution now]).filterMap ended? =
      history.filterMap ended? :=
    filterMap_append_of_none history (by simp [ended?])
  have hstarted : (history ++ [AgentEvent.started ticket execution now]).filterMap started? =
      history.filterMap started? ++ [(ticket, execution)] := by
    rw [List.filterMap_append]
    rfl
  rw [underWay, hended, hstarted, List.filter_append, ← underWay]
  congr 1
  exact List.filter_eq_self.mpr fun entry hentry => by simp [List.mem_singleton.mp hentry, hfresh]

theorem underWay_ended (history : List AgentEvent) (ticket : Ticket) (agent : String)
    (ending : Ending) (now : Moment) :
    underWay (history ++ [.ended ticket agent ending now]) =
      (underWay history).filter fun entry => entry.1 ≠ ticket := by
  simp [underWay, List.filterMap_append, started?, ended?, List.filter_filter, and_comm]

theorem not_mem_underWay {ticket : Ticket}
    (hnew : ∀ event ∈ history, event.ticket? ≠ some ticket) :
    ticket ∉ (underWay history).map Prod.fst := by
  intro hmem
  obtain ⟨entry, hentry, rfl⟩ := List.mem_map.mp hmem
  obtain ⟨event, hevent, hstarted⟩ := List.mem_filterMap.mp (List.mem_of_mem_filter hentry)
  apply hnew event hevent
  cases event with
  | started ticket execution now => simp [ticket?, ← Option.some.inj hstarted]
  | _ => contradiction

theorem Within.append {policy : LoadPolicy} (hwithin : Within policy history)
    (hnone : ∀ event ∈ added, event.started? = none) : Within policy (history ++ added) := by
  intro place ticket execution now hplace
  rcases place_cases hplace with ⟨hlt, hbefore⟩ | ⟨_, hadded⟩
  · rw [take_append hbefore, List.take_append_of_le_length hlt]
    exact hwithin place ticket execution now hbefore
  · have hstarted := hnone _ hadded
    contradiction

theorem Within.started {policy : LoadPolicy} (hwithin : Within policy history) {ticket : Ticket}
    {execution : Execution} {now : Moment} {ceiling : Nat}
    (hceiling : ceilingIn policy execution.task.agent history = some ceiling)
    (hroom : occupancy execution.task.agent
      (history ++ [.started ticket execution now]) ≤ ceiling) :
    Within policy (history ++ [.started ticket execution now]) := by
  intro place other begun moment hplace
  rcases place_singleton_cases hplace with ⟨hlt, hbefore⟩ | ⟨rfl, hlast⟩
  · rw [take_append hbefore, List.take_append_of_le_length hlt]
    exact hwithin place other begun moment hbefore
  · cases hlast
    rw [List.take_left, List.take_of_length_le (by simp)]
    exact ⟨ceiling, hceiling, hroom⟩

end AgentEvent

namespace Deployment

open AgentEvent

variable {policy : LoadPolicy} {d next : Deployment} {now : Moment}

/-- The load book agrees with what was written down. -/
structure Booked (policy : LoadPolicy) (d : Deployment) : Prop where
  live : d.executions.entries = underWay d.history
  exact : ∀ agent, d.load.inFlight agent = occupancy agent d.history
  ceiled : ∀ agent, d.load.ceiling? agent = ceilingIn policy agent d.history
  within : Within policy d.history
  governed : d.load.policy = policy

theorem booked_start (ttl : Span) (policy : LoadPolicy) : (start ttl policy).Booked policy where
  live := rfl
  exact := fun _ => rfl
  ceiled := fun _ => rfl
  within := by simp [Within, start]
  governed := rfl

theorem Booked.quiet (hbooked : d.Booked policy) {added : List AgentEvent}
    (hquiet : ∀ event ∈ added, event.Quiet) (hexecutions : next.executions = d.executions)
    (hhistory : next.history = d.history ++ added) (hpolicy : next.load.policy = d.load.policy)
    (hslots : ∀ agent, next.load.inFlight agent = d.load.inFlight agent)
    (hceilings : ∀ agent, next.load.ceiling? agent = d.load.ceiling? agent) :
    next.Booked policy := by
  constructor
  case live => rw [hexecutions, hhistory, underWay_quiet hquiet, hbooked.live]
  case exact =>
    intro agent
    rw [hslots, hhistory, occupancy, underWay_quiet hquiet]
    exact hbooked.exact agent
  case ceiled =>
    intro agent
    rw [hceilings, hhistory, ceilingIn_quiet hquiet]
    exact hbooked.ceiled agent
  case within =>
    rw [hhistory]
    exact hbooked.within.append fun event hevent => (hquiet event hevent).1
  case governed => rw [hpolicy, hbooked.governed]

/-- Where the books on load and what is under way stay, the load book still agrees. -/
theorem Booked.same (hbooked : d.Booked policy) {added : List AgentEvent}
    (hquiet : ∀ event ∈ added, event.Quiet) (hexecutions : next.executions = d.executions)
    (hhistory : next.history = d.history ++ added) (hload : next.load = d.load) :
    next.Booked policy :=
  hbooked.quiet hquiet hexecutions hhistory (by rw [hload]) (by simp [hload]) (by simp [hload])

theorem Booked.ceil (hbooked : d.Booked policy) (agent : String) (wanted : Option Nat) :
    ((d.withLoad (d.load.register agent wanted)).saw (.ceiled agent wanted)).Booked policy := by
  have hunder : underWay (d.history ++ [.ceiled agent wanted]) = underWay d.history := by
    simp [underWay, List.filterMap_append, started?, ended?]
  constructor
  case live => exact hbooked.live.trans hunder.symm
  case exact =>
    intro other
    change _ = (underWay (d.history ++ [.ceiled agent wanted])).countP _
    rw [hunder]
    exact (d.load.inFlight_register agent other wanted).trans (hbooked.exact other)
  case ceiled =>
    intro other
    change _ = ceilingIn policy other (d.history ++ [.ceiled agent wanted])
    rw [ceilingIn, latest_append, latest_singleton]
    refine (d.load.ceiling?_register agent other wanted).trans ?_
    by_cases heq : other = agent
    · simp [heq, wish?, LoadBook.ceiling, hbooked.governed]
    · simp only [heq, wish?, if_false, Ne.symm heq, Option.none_or]
      exact hbooked.ceiled other
  case within => exact hbooked.within.append (by simp [started?])
  case governed => exact hbooked.governed

theorem Booked.begin (hbooked : d.Booked policy) {ticket : Ticket} (hnew : d.isNew ticket)
    {execution : Execution} {taken : Nat} {load : LoadBook}
    (hreserve : d.load.reserve execution.task.agent now = .ok (taken, load)) :
    ({ d.withLoad load with executions := d.executions.put ticket execution }.saw
      (.started ticket execution now)).Booked policy := by
  have hfresh : ∀ event ∈ d.history, event.ticket? ≠ some ticket := by
    simpa [isNew] using hnew
  have hunder := underWay_started hfresh execution now
  have hexact : ∀ agent, load.inFlight agent =
      occupancy agent (d.history ++ [.started ticket execution now]) := by
    intro agent
    rw [LoadBook.inFlight_reserve hreserve, occupancy, hunder, List.countP_append, ← occupancy,
      ← hbooked.exact]
    by_cases heq : agent = execution.task.agent <;> simp [heq, eq_comm]
  constructor
  case live =>
    have habsent : ticket ∉ d.executions.keys := by
      rw [Table.keys, hbooked.live]
      exact not_mem_underWay hfresh
    rw [saw, Table.entries_put_of_not_mem habsent, hbooked.live]
    exact hunder.symm
  case exact => exact hexact
  case ceiled =>
    intro agent
    change load.ceiling? agent =
      ceilingIn policy agent (d.history ++ [.started ticket execution now])
    rw [ceilingIn, latest_append, latest_singleton, LoadBook.ceiling?_reserve hreserve]
    exact hbooked.ceiled agent
  case within =>
    -- The slot is taken before the call, so the count with this execution in it is bounded.
    obtain ⟨ceiling, hceiling, hbelow⟩ := LoadBook.inFlight_reserve_le hreserve
    apply hbooked.within.started (hceiling ▸ (hbooked.ceiled execution.task.agent).symm)
    rw [← hexact, LoadBook.inFlight_reserve hreserve, if_pos rfl]
    exact hbelow
  case governed => exact (LoadBook.policy_reserve hreserve).trans hbooked.governed

theorem Booked.close (hbooked : d.Booked policy) {ticket : Ticket} {execution : Execution}
    (hexecution : d.executions.get? ticket = some execution) (ending : Ending) (now : Moment) :
    (d.close ticket execution ending now).Booked policy := by
  have hunder := underWay_ended d.history ticket execution.task.agent ending now
  have herased : (d.executions.erase ticket).entries = (underWay d.history).filter
      fun entry => entry.1 ≠ ticket := by
    rw [← hbooked.live]
    rfl
  constructor
  case live => exact herased.trans hunder.symm
  case exact =>
    intro agent
    change (d.load.release execution.task.agent).inFlight agent = (underWay
      (d.history ++ [.ended ticket execution.task.agent ending now])).countP _
    have hcount := Table.countP_erase hexecution fun entry => entry.2.task.agent = agent
    rw [hunder, ← herased, LoadBook.inFlight_release, hbooked.exact, occupancy, ← hbooked.live]
    by_cases heq : agent = execution.task.agent
    · simp only [heq, decide_true, if_true] at hcount ⊢
      omega
    · simp only [Ne.symm heq, decide_false, Bool.false_eq_true, if_false] at hcount
      rw [if_neg heq, hcount, Nat.add_zero]
  case ceiled =>
    intro agent
    change (d.load.release execution.task.agent).ceiling? agent = ceilingIn policy agent
      (d.history ++ [.ended ticket execution.task.agent ending now])
    rw [ceilingIn, latest_append, latest_singleton, LoadBook.ceiling?_release]
    exact hbooked.ceiled agent
  case within => exact hbooked.within.append (by simp [started?])
  case governed => exact hbooked.governed

theorem booked_change (hchange : Change now d next) (hbooked : d.Booked policy) :
    next.Booked policy := by
  cases hchange with
  | looked | met | probing => exact hbooked.same (by simp) rfl (List.append_nil _).symm rfl
  | marked | listed | isolated | released =>
      refine hbooked.same ?_ rfl rfl rfl
      simp [Quiet, started?, ended?, wish?]
  | ceiled agent wanted => exact hbooked.ceil agent wanted
  | failed agent =>
      refine hbooked.quiet ?_ rfl rfl (LoadBook.policy_failed ..)
        (LoadBook.inFlight_failed _ _ · _) (LoadBook.ceiling?_failed _ _ · _)
      cases (d.load.failed agent now).2 <;> simp [cooldowns, Quiet, started?, ended?, wish?]
  | recovered agent =>
      exact hbooked.quiet (by simp) rfl (List.append_nil _).symm rfl
        (LoadBook.inFlight_succeeded _ _) (LoadBook.ceiling?_succeeded _ _)
  | started ticket execution key registration taken load hnew _ _ _ _ _ _ hreserve =>
      exact hbooked.begin hnew hreserve
  | ended ticket execution ending hexecution _ => exact hbooked.close hexecution ending now

/-- The slots of a router are neither leaked nor given once too often: those of an agent that are
taken are held by the executions on it that started and have not ended, and the adapter of an agent
is called only while this makes them no more than the ceiling that was set last. -/
structure SlotsExact (policy : LoadPolicy) (d : Deployment) : Prop where
  exact : ∀ agent, d.load.inFlight agent = occupancy agent d.history
  /-- The executions that count are those that wait for their adapters, each of them once. -/
  live : underWay d.history = d.executions.entries
  distinct : ((underWay d.history).map Prod.fst).Nodup
  within : Within policy d.history
  /-- An answer ends an execution, and so does dropping it. -/
  answered : ∀ ticket now answer, (d.step (.answer ticket now answer)).executions.get? ticket = none
  dropped : ∀ ticket now, (d.step (.drop ticket now)).executions.get? ticket = none

/-- Whatever happens to a router, its slots are exact: while executions start, wait, succeed, fail,
break down and are dropped in any order, and agents are registered again with other ceilings. -/
theorem run_slotsExact (ttl : Span) (policy : LoadPolicy) (actions : List Action) :
    ((start ttl policy).run actions).SlotsExact policy := by
  have hbooked : ((start ttl policy).run actions).Booked policy :=
    run_keeps booked_change (booked_start ttl policy) actions
  generalize (start ttl policy).run actions = d at hbooked ⊢
  constructor
  case exact => exact hbooked.exact
  case live => exact hbooked.live.symm
  case distinct =>
    rw [← hbooked.live]
    exact d.executions.nodup
  case within => exact hbooked.within
  case answered =>
    intro ticket now answer
    simp only [step]
    split
    next => rw [Table.get?_erase, if_pos rfl]
    next hnone => exact hnone
  case dropped =>
    intro ticket now
    simp only [step]
    split
    next => rw [Table.get?_erase, if_pos rfl]
    next hnone => exact hnone

end Deployment

end Gatehouse
