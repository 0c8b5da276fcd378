import Gatehouse.Agent.Router
import Mathlib

/-! # Laws of the books on agents

Four things can be read off the load book about an agent: how many of its
slots are taken, its ceiling, how often it failed in a row, and the end of its
last cooldown. Apart from a failure, which may also open a cooldown, each
operation touches one of them for one agent. Of the health book it matters who is
healthy, and that a look at the book never changes the answer.
-/

namespace Gatehouse

namespace LoadBook

variable {book after : LoadBook} {agent other : String} {now u : Moment} {count : Nat}
  {l : AgentLoad}

/-- The ceiling that is in force for an agent. -/
def ceiling? (book : LoadBook) (agent : String) : Option Nat :=
  (book.get? agent).map AgentLoad.maxConcurrency

/-- How many of the last executions of an agent failed in a row. -/
def failures? (book : LoadBook) (agent : String) : Option Nat :=
  (book.get? agent).map AgentLoad.consecutiveFailures

/-- The end of the last cooldown of an agent. -/
def cooldown? (book : LoadBook) (agent : String) : Option Moment :=
  (book.get? agent).bind AgentLoad.cooldownUntil

theorem get?_register (book : LoadBook) (agent other : String) (wanted : Option Nat) :
    (book.register agent wanted).get? other = if other = agent then
      some { (book.get? agent).getD ⟨agent, 0, book.ceiling wanted, 0, none⟩ with
        maxConcurrency := book.ceiling wanted }
    else book.get? other :=
  Table.get?_put ..

theorem get?_release (book : LoadBook) (agent other : String) :
    (book.release agent).get? other = if other = agent then
      (book.get? other).map fun l => { l with inFlight := l.inFlight - 1 } else book.get? other :=
  Table.get?_modify ..

theorem get?_succeeded (book : LoadBook) (agent other : String) :
    (book.succeeded agent).get? other = if other = agent then
      (book.get? other).map fun l => { l with consecutiveFailures := 0 } else book.get? other :=
  Table.get?_modify ..

/-- A slot is given to an agent that is below its ceiling and has no cooldown to wait for. -/
theorem of_reserve_ok (hreserve : book.reserve agent now = .ok (count, after)) :
    ∃ l, book.get? agent = some l ∧ l.coolingUntil? now = none ∧ l.inFlight < l.maxConcurrency ∧
      count = l.inFlight + 1 ∧
      after = { book with
        records := book.records.put agent { l with inFlight := l.inFlight + 1 } } := by
  unfold reserve at hreserve
  cases hget : book.get? agent with
  | none => simp [hget] at hreserve
  | some l =>
      cases hcooling : l.coolingUntil? now with
      | some u => simp [hget, hcooling] at hreserve
      | none =>
          by_cases hfull : l.maxConcurrency ≤ l.inFlight
          · simp [hget, hcooling, hfull] at hreserve
          · simp only [hget, hcooling, if_neg hfull, Except.ok.injEq, Prod.mk.injEq] at hreserve
            exact ⟨l, rfl, hcooling, Nat.lt_of_not_le hfull, hreserve.1.symm, hreserve.2.symm⟩

theorem get?_reserve (hreserve : book.reserve agent now = .ok (count, after)) (other : String) :
    after.get? other = if other = agent then
      (book.get? other).map fun l => { l with inFlight := l.inFlight + 1 }
    else book.get? other := by
  obtain ⟨l, hget, _, _, _, rfl⟩ := of_reserve_ok hreserve
  by_cases heq : other = agent
  · subst heq
    simp only [get?, Table.get?_put, if_true] at hget ⊢
    rw [hget]
    rfl
  · simp only [get?, Table.get?_put, if_neg heq]

/-- A failure is counted for an agent that has a record, unless it opens a cooldown; then the count
starts afresh. -/
theorem get?_failed (book : LoadBook) (agent other : String) (now : Moment) :
    (book.failed agent now).1.get? other = if other = agent then
      (book.get? other).map fun l => { l with
        consecutiveFailures :=
          if (book.failed agent now).2 = .opened then 0 else l.consecutiveFailures + 1
        cooldownUntil := if (book.failed agent now).2 = .opened then now.add? book.policy.cooldown
          else l.cooldownUntil }
    else book.get? other := by
  unfold failed
  cases hget : book.get? agent with
  | none =>
      by_cases heq : other = agent
      · simp [heq, hget]
      · simp [heq]
  | some l =>
      -- In each case below the record of the agent is replaced by the one that is meant.
      have hput : ∀ (found : AgentLoad) (b : LoadBook), b.records = book.records.put agent found →
          b.get? other = if other = agent then some found else book.get? other := by
        intro found b hb
        rw [get?, hb, Table.get?_put, get?]
      by_cases hcount : l.consecutiveFailures + 1 < book.policy.failureThreshold
      · simp only [hcount, if_true]
        rw [hput _ _ rfl]
        split <;> simp_all
      · cases hends : now.add? book.policy.cooldown with
        | some u | none =>
            simp only [hcount, if_false]
            rw [hput _ _ rfl]
            split <;> simp_all

theorem failed_of_none (hget : book.get? agent = none) (now : Moment) :
    book.failed agent now = (book, .counted) := by
  simp only [failed, hget]

theorem failed_below (hget : book.get? agent = some l)
    (hbelow : l.consecutiveFailures + 1 < book.policy.failureThreshold) (now : Moment) :
    (book.failed agent now).2 = .counted ∧ (book.failed agent now).1.get? agent =
      some { l with consecutiveFailures := l.consecutiveFailures + 1 } := by
  simp only [failed, hget, hbelow, if_true]
  exact ⟨trivial, by rw [get?, Table.get?_put, if_pos rfl]⟩

theorem failed_reaching (hget : book.get? agent = some l)
    (hreached : book.policy.failureThreshold ≤ l.consecutiveFailures + 1)
    (hends : now.add? book.policy.cooldown = some u) :
    (book.failed agent now).2 = .opened ∧ (book.failed agent now).1.get? agent =
      some { l with consecutiveFailures := 0, cooldownUntil := some u } := by
  simp only [failed, hget, Nat.not_lt.mpr hreached, if_false, hends]
  exact ⟨trivial, by rw [get?, Table.get?_put, if_pos rfl]⟩

theorem failed_overflowing (hget : book.get? agent = some l)
    (hreached : book.policy.failureThreshold ≤ l.consecutiveFailures + 1)
    (hends : now.add? book.policy.cooldown = none) : (book.failed agent now).2 = .overflow := by
  simp only [failed, hget, Nat.not_lt.mpr hreached, if_false, hends]

@[simp] theorem policy_failed (book : LoadBook) (agent : String) (now : Moment) :
    (book.failed agent now).1.policy = book.policy := by
  unfold failed
  cases book.get? agent with
  | none => rfl
  | some l =>
      simp only
      split
      · rfl
      · split <;> rfl

theorem policy_reserve (hreserve : book.reserve agent now = .ok (count, after)) :
    after.policy = book.policy := by
  obtain ⟨l, _, _, _, _, rfl⟩ := of_reserve_ok hreserve
  rfl

/-- A cooldown opens only when the calendar shows its end. -/
theorem add?_of_opened (hopened : (book.failed agent now).2 = .opened) :
    ∃ u, now.add? book.policy.cooldown = some u ∧ (book.get? agent).isSome := by
  unfold failed at hopened
  cases hget : book.get? agent with
  | none => simp [hget] at hopened
  | some l =>
      simp only [hget] at hopened
      split at hopened
      · contradiction
      · split at hopened
        next u hends => exact ⟨u, hends, rfl⟩
        next => contradiction

/-- A failure cannot be dealt with only when the calendar does not show the end of the cooldown. -/
theorem add?_of_overflow (hoverflow : (book.failed agent now).2 = .overflow) :
    now.add? book.policy.cooldown = none := by
  unfold failed at hoverflow
  cases hget : book.get? agent with
  | none => simp [hget] at hoverflow
  | some l =>
      simp only [hget] at hoverflow
      split at hoverflow
      · contradiction
      · split at hoverflow
        next => contradiction
        next hends => exact hends

/-- What a change of an agent's record leaves alone reads as before. -/
theorem read_changed {α : Type} (read : Option AgentLoad → α) {change : AgentLoad → AgentLoad}
    (hread : ∀ l, read (some (change l)) = read (some l)) {found : Option AgentLoad} :
    read (if other = agent then found.map change else found) = read found := by
  split
  · cases found with
    | none => rfl
    | some l => exact hread l
  · rfl

theorem inFlight_register (book : LoadBook) (agent other : String) (wanted : Option Nat) :
    (book.register agent wanted).inFlight other = book.inFlight other := by
  unfold inFlight
  rw [get?_register]
  split
  next heq => cases hget : book.get? agent <;> simp [heq, hget]
  next => rfl

theorem inFlight_succeeded (book : LoadBook) (agent other : String) :
    (book.succeeded agent).inFlight other = book.inFlight other := by
  unfold inFlight
  rw [get?_succeeded]
  exact read_changed (fun found => (found.map AgentLoad.inFlight).getD 0) fun _ => by rfl

theorem inFlight_failed (book : LoadBook) (agent other : String) (now : Moment) :
    (book.failed agent now).1.inFlight other = book.inFlight other := by
  unfold inFlight
  rw [get?_failed]
  exact read_changed (fun found => (found.map AgentLoad.inFlight).getD 0) fun _ => by rfl

theorem inFlight_release (book : LoadBook) (agent other : String) :
    (book.release agent).inFlight other =
      if other = agent then book.inFlight other - 1 else book.inFlight other := by
  unfold inFlight
  rw [get?_release]
  split
  · cases book.get? other <;> rfl
  · rfl

theorem inFlight_reserve (hreserve : book.reserve agent now = .ok (count, after)) (other : String) :
    after.inFlight other =
      if other = agent then book.inFlight other + 1 else book.inFlight other := by
  obtain ⟨l, hl, _⟩ := of_reserve_ok hreserve
  unfold inFlight
  rw [get?_reserve hreserve]
  split
  next heq => simp [heq, hl]
  next => rfl

/-- A slot is given only below the ceiling. -/
theorem inFlight_reserve_le (hreserve : book.reserve agent now = .ok (count, after)) :
    ∃ ceiling, book.ceiling? agent = some ceiling ∧ book.inFlight agent + 1 ≤ ceiling := by
  obtain ⟨l, hget, _, hbelow, _⟩ := of_reserve_ok hreserve
  exact ⟨l.maxConcurrency, by simp [ceiling?, hget], by simpa [inFlight, hget] using hbelow⟩

theorem ceiling?_register (book : LoadBook) (agent other : String) (wanted : Option Nat) :
    (book.register agent wanted).ceiling? other =
      if other = agent then some (book.ceiling wanted) else book.ceiling? other := by
  unfold ceiling?
  rw [get?_register]
  split <;> rfl

theorem ceiling?_succeeded (book : LoadBook) (agent other : String) :
    (book.succeeded agent).ceiling? other = book.ceiling? other := by
  unfold ceiling?
  rw [get?_succeeded]
  exact read_changed (Option.map AgentLoad.maxConcurrency) fun _ => by rfl

theorem ceiling?_failed (book : LoadBook) (agent other : String) (now : Moment) :
    (book.failed agent now).1.ceiling? other = book.ceiling? other := by
  unfold ceiling?
  rw [get?_failed]
  exact read_changed (Option.map AgentLoad.maxConcurrency) fun _ => by rfl

theorem ceiling?_release (book : LoadBook) (agent other : String) :
    (book.release agent).ceiling? other = book.ceiling? other := by
  unfold ceiling?
  rw [get?_release]
  exact read_changed (Option.map AgentLoad.maxConcurrency) fun _ => by rfl

theorem ceiling?_reserve (hreserve : book.reserve agent now = .ok (count, after)) (other : String) :
    after.ceiling? other = book.ceiling? other := by
  unfold ceiling?
  rw [get?_reserve hreserve]
  exact read_changed (Option.map AgentLoad.maxConcurrency) fun _ => by rfl

theorem failures?_register (book : LoadBook) (agent other : String) (wanted : Option Nat) :
    (book.register agent wanted).failures? other =
      if other = agent then some ((book.failures? other).getD 0) else book.failures? other := by
  unfold failures?
  rw [get?_register]
  split
  next heq => cases hget : book.get? agent <;> simp [heq, hget]
  next => rfl

theorem failures?_succeeded (book : LoadBook) (agent other : String) :
    (book.succeeded agent).failures? other =
      if other = agent then (book.failures? other).map fun _ => 0 else book.failures? other := by
  unfold failures?
  rw [get?_succeeded]
  split
  · rw [Option.map_map, Option.map_map]
    rfl
  · rfl

theorem failures?_release (book : LoadBook) (agent other : String) :
    (book.release agent).failures? other = book.failures? other := by
  unfold failures?
  rw [get?_release]
  exact read_changed (Option.map AgentLoad.consecutiveFailures) fun _ => by rfl

theorem failures?_reserve (hreserve : book.reserve agent now = .ok (count, after))
    (other : String) : after.failures? other = book.failures? other := by
  unfold failures?
  rw [get?_reserve hreserve]
  exact read_changed (Option.map AgentLoad.consecutiveFailures) fun _ => by rfl

theorem failures?_failed (book : LoadBook) (agent other : String) (now : Moment) :
    (book.failed agent now).1.failures? other =
      if other = agent then (book.failures? other).map fun count =>
        if (book.failed agent now).2 = .opened then 0 else count + 1
      else book.failures? other := by
  unfold failures?
  rw [get?_failed]
  split
  · rw [Option.map_map, Option.map_map]
    rfl
  · rfl

/-- As long as the calendar shows the end of a cooldown, the failure that reaches the threshold
opens one. -/
theorem opened_iff (hends : now.add? book.policy.cooldown = some u) :
    (book.failed agent now).2 = .opened ↔
      ∃ count, book.failures? agent = some count ∧ book.policy.failureThreshold ≤ count + 1 := by
  unfold failures?
  cases hget : book.get? agent with
  | none => simp [failed_of_none hget]
  | some l =>
      simp only [Option.map_some, Option.some.injEq, exists_eq_left']
      rcases Nat.lt_or_ge (l.consecutiveFailures + 1) book.policy.failureThreshold with
        hbelow | hreached
      · simp [(failed_below hget hbelow now).1, hbelow]
      · simp [(failed_reaching hget hreached hends).1, hreached]

theorem cooldown?_register (book : LoadBook) (agent other : String) (wanted : Option Nat) :
    (book.register agent wanted).cooldown? other = book.cooldown? other := by
  unfold cooldown?
  rw [get?_register]
  split
  next heq => cases hget : book.get? agent <;> simp [heq, hget]
  next => rfl

theorem cooldown?_succeeded (book : LoadBook) (agent other : String) :
    (book.succeeded agent).cooldown? other = book.cooldown? other := by
  unfold cooldown?
  rw [get?_succeeded]
  exact read_changed (Option.bind · AgentLoad.cooldownUntil) fun _ => by rfl

theorem cooldown?_release (book : LoadBook) (agent other : String) :
    (book.release agent).cooldown? other = book.cooldown? other := by
  unfold cooldown?
  rw [get?_release]
  exact read_changed (Option.bind · AgentLoad.cooldownUntil) fun _ => by rfl

theorem cooldown?_reserve (hreserve : book.reserve agent now = .ok (count, after))
    (other : String) : after.cooldown? other = book.cooldown? other := by
  unfold cooldown?
  rw [get?_reserve hreserve]
  exact read_changed (Option.bind · AgentLoad.cooldownUntil) fun _ => by rfl

theorem cooldown?_failed (book : LoadBook) (agent other : String) (now : Moment) :
    (book.failed agent now).1.cooldown? other =
      if other = agent ∧ (book.failed agent now).2 = .opened then now.add? book.policy.cooldown
      else book.cooldown? other := by
  unfold cooldown?
  rw [get?_failed]
  by_cases heq : other = agent
  · subst heq
    by_cases hopened : (book.failed other now).2 = .opened
    · obtain ⟨u, hends, hsome⟩ := add?_of_opened hopened
      obtain ⟨l, hl⟩ := Option.isSome_iff_exists.mp hsome
      simp [hopened, hl]
    · cases hl : book.get? other <;> simp [hopened]
  · simp [heq]

/-- The agent is being left alone. -/
def isCooling (book : LoadBook) (agent : String) (now : Moment) : Bool :=
  (book.get? agent).any fun l => l.isCooling now

theorem isCooling_iff :
    book.isCooling agent now ↔ ∃ u, book.cooldown? agent = some u ∧ now < u := by
  unfold isCooling cooldown?
  cases book.get? agent with
  | none => simp
  | some l =>
      simp only [Option.any_some, Option.bind_some, AgentLoad.isCooling, AgentLoad.coolingUntil?]
      cases l.cooldownUntil <;> simp [Option.isSome_filter]

/-- Whoever asks for a slot of an agent that is left alone is told until when. -/
theorem reserve_of_cooling (hcooldown : book.cooldown? agent = some u) (hcooling : now < u) :
    book.reserve agent now = .error (.coolingDown agent u) := by
  obtain ⟨l, hget, hends⟩ := Option.bind_eq_some_iff.mp hcooldown
  simp [reserve, hget, AgentLoad.coolingUntil?, hends, Option.filter_some, hcooling]

/-- The book after somebody asked for a slot, whether it was given or not. -/
def afterReserve (book : LoadBook) (agent : String) (now : Moment) : LoadBook :=
  match book.reserve agent now with
  | .ok (_, after) => after
  | .error _ => book

/-- What giving slots leaves alone nobody changes by asking for one. -/
theorem afterReserve_unchanged {α : Type} (read : LoadBook → α) (book : LoadBook) (agent : String)
    (now : Moment)
    (hreserve : ∀ count after, book.reserve agent now = .ok (count, after) →
      read after = read book) : read (book.afterReserve agent now) = read book := by
  unfold afterReserve
  split
  next count after hok => exact hreserve count after hok
  next => rfl

/-- An agent that can accept work has no cooldown to wait for. -/
theorem rested_of_canAccept (haccept : book.canAccept agent now)
    (hcooldown : book.cooldown? agent = some u) : ¬ now < u := by
  unfold canAccept at haccept
  split at haccept
  next l hl =>
    rw [cooldown?, hl, Option.bind_some] at hcooldown
    simp only [AgentLoad.canAccept, AgentLoad.isCooling, AgentLoad.coolingUntil?, hcooldown,
      Bool.and_eq_true, Bool.not_eq_true'] at haccept
    intro hlt
    simp [hlt] at haccept
  next => contradiction

end LoadBook

/-- What somebody says about the health of an agent. -/
inductive HealthMark where
  | heartbeat
  | degraded (reason : Option String)
  | unhealthy (reason : Option String)
  deriving DecidableEq

namespace HealthBook

variable {book : HealthBook} {agent other : String} {now : Moment}

/-- Writes down what somebody says about an agent. -/
def mark (book : HealthBook) (agent : String) (mark : HealthMark) (now : Moment) : HealthBook :=
  match mark with
  | .heartbeat => book.heartbeat agent now
  | .degraded reason => book.degraded agent reason now
  | .unhealthy reason => book.unhealthy agent reason now

/-- The last heartbeat of an agent whose record says that it is healthy. -/
def healthySince? (book : HealthBook) (agent : String) : Option Moment :=
  (book.get? agent).bind fun h => if h.status = .healthy then h.lastHeartbeat else none

theorem get?_update (book : HealthBook) (agent other : String) (now : Moment)
    (change : AgentHealth → AgentHealth) :
    (book.update agent now change).get? other =
      if other = agent then some (change ((book.get? agent).getD (.unknown agent now)))
      else book.get? other :=
  Table.get?_put ..

theorem get?_register (book : HealthBook) (agent other : String) (now : Moment) :
    (book.register agent now).get? other =
      if other = agent then some ((book.get? other).getD (.unknown agent now))
      else book.get? other :=
  Table.get?_putIfAbsent ..

theorem get?_checked (book : HealthBook) (agent other : String) (now : Moment) :
    (book.checked agent now).get? other =
      if other = agent then (book.get? other).map fun h => h.checked book.ttl now
      else book.get? other :=
  Table.get?_modify ..

theorem healthySince?_mark (book : HealthBook) (agent other : String) (said : HealthMark)
    (now : Moment) :
    (book.mark agent said now).healthySince? other =
      if other = agent then if said = .heartbeat then some now else none
      else book.healthySince? other := by
  unfold healthySince?
  cases said with
  | heartbeat =>
      rw [mark, heartbeat, get?_update]
      split <;> simp [AgentHealth.heartbeat]
  | degraded reason =>
      rw [mark, degraded, get?_update]
      split <;> simp [AgentHealth.marked]
  | unhealthy reason =>
      rw [mark, unhealthy, get?_update]
      split <;> simp [AgentHealth.marked]

theorem healthySince?_register (book : HealthBook) (agent other : String) (now : Moment) :
    (book.register agent now).healthySince? other = book.healthySince? other := by
  unfold healthySince?
  rw [get?_register]
  split
  next heq => cases hother : book.get? other <;> simp [AgentHealth.unknown]
  next => rfl

/-- Looking at the book takes away the health of an agent whose heartbeat is too old. -/
theorem healthySince?_checked (book : HealthBook) (agent other : String) (now : Moment) :
    (book.checked agent now).healthySince? other =
      if other = agent then
        (book.healthySince? other).filter fun heard => decide (now.since heard ≤ book.ttl)
      else book.healthySince? other := by
  unfold healthySince?
  rw [get?_checked]
  split
  next =>
    cases hget : book.get? other with
    | none => rfl
    | some record =>
        obtain ⟨name, alive, status, last, reason, updatedAt⟩ := record
        cases last with
        | none => simp [AgentHealth.checked, AgentHealth.isStale]
        | some heard =>
            have hfresh : now.since heard ≤ book.ttl ↔ ¬ book.ttl < now.since heard :=
              Int.not_lt.symm
            by_cases hstale : book.ttl < now.since heard
            · by_cases hstatus : status = .healthy <;>
                simp [AgentHealth.checked, AgentHealth.isStale, AgentHealth.marked, hstale, hfresh,
                  hstatus, Option.filter_some]
            · by_cases hstatus : status = .healthy <;>
                simp [AgentHealth.checked, AgentHealth.isStale, hstale, hfresh, hstatus,
                  Option.filter_some]
  next => rfl

/-- An agent is healthy while the heartbeat in its record is fresh. -/
theorem isHealthy_iff : book.isHealthy agent now ↔
    ∃ heard, book.healthySince? agent = some heard ∧ now.since heard ≤ book.ttl := by
  unfold isHealthy healthySince?
  cases hget : book.get? agent with
  | none => simp
  | some record =>
      cases hlast : record.lastHeartbeat with
      | none => simp [AgentHealth.isHealthy, hlast]
      | some heard =>
          have hfresh : ¬ book.ttl < now.since heard ↔ now.since heard ≤ book.ttl := Int.not_lt
          by_cases hstatus : record.status = .healthy
          · simp [AgentHealth.isHealthy, AgentHealth.isStale, hlast, hstatus, hfresh]
          · simp [AgentHealth.isHealthy, hlast, hstatus]

/-- Looking at the book never changes what it says about anybody's health at that moment. -/
theorem isHealthy_checked (book : HealthBook) (agent other : String) (now : Moment) :
    (book.checked agent now).isHealthy other now = book.isHealthy other now := by
  unfold isHealthy
  rw [get?_checked]
  split
  next heq =>
    split at heq
    next =>
      obtain ⟨before, hbefore, rfl⟩ := Option.map_eq_some_iff.mp heq
      rw [hbefore]
      simp only [AgentHealth.checked, HealthBook.checked]
      split
      next hstale => simp [AgentHealth.isHealthy, AgentHealth.marked, hstale]
      next => rfl
    next =>
      rw [heq]
      rfl
  next heq =>
    split at heq
    next =>
      rw [Option.map_eq_none_iff] at heq
      rw [heq]
    next => rw [heq]

end HealthBook

namespace IsolationBook

theorem isIsolated_isolate (book : IsolationBook) (agent other : String) (reason : Option String)
    (now : Moment) :
    (book.isolate agent reason now).isIsolated other =
      if other = agent then true else book.isIsolated other := by
  simp only [isIsolated, isolate, Table.contains, Table.get?_put]
  split <;> rfl

theorem isIsolated_release (book : IsolationBook) (agent other : String) :
    (book.release agent).isIsolated other =
      if other = agent then false else book.isIsolated other := by
  simp only [isIsolated, release, Table.contains, Table.get?_erase]
  split <;> rfl

end IsolationBook

namespace Fleet

variable {f : Fleet} {agent other : String} {now : Moment}

/-- A number of seconds that is too large for a span is replaced by a smaller one. -/
theorem nanos_spanOfMillis (seconds : Nat) :
    (spanOfMillis (1000 * seconds)).nanos =
      if seconds ≤ 9223372036854775 then (seconds : Int) * 1000000000
      else 4294967295 * 1000000000 := by
  have hmax : Span.maxMillis = 9223372036854775807 := by decide
  simp only [spanOfMillis, Span.ofMillis?, hmax]
  split
  next hle =>
    rw [if_pos (by omega), Option.getD_some, Span.ofMillis]
    push_cast
    ring
  next hlt =>
    rw [if_neg (by omega), Option.getD_none]
    decide

theorem isEligible_iff : f.isEligible agent now ↔ f.isolation.isIsolated agent = false ∧
    f.health.isHealthy agent now ∧ f.load.canAccept agent now := by
  simp [isEligible, and_assoc]

/-- Looking at an agent does not change who may be given work at that moment. -/
theorem isEligible_checked (f : Fleet) (agent other : String) (now : Moment) :
    (f.checked agent now).isEligible other now = f.isEligible other now := by
  unfold checked
  split
  · rfl
  · simp [isEligible, HealthBook.isHealthy_checked]

end Fleet

namespace Router

/-- The fleet after its agents were looked at one after the other. -/
def lookedAt (fleet : Fleet) (now : Moment) (agents : List String) : Fleet :=
  agents.foldl (fun f agent => f.checked agent now) fleet

theorem isEligible_lookedAt (fleet : Fleet) (now : Moment) (agents : List String) (other : String) :
    (lookedAt fleet now agents).isEligible other now = fleet.isEligible other now := by
  induction agents generalizing fleet with
  | nil => rfl
  | cons agent rest ih =>
      rw [lookedAt, List.foldl_cons, ← lookedAt, ih]
      exact fleet.isEligible_checked agent other now

theorem load_lookedAt (fleet : Fleet) (now : Moment) (agents : List String) :
    (lookedAt fleet now agents).load = fleet.load := by
  induction agents generalizing fleet with
  | nil => rfl
  | cons agent rest ih =>
      rw [lookedAt, List.foldl_cons, ← lookedAt, ih]
      unfold Fleet.checked
      split <;> rfl

/-- The search looks at some agents, and what it finds was offered and may be given work. -/
theorem firstEligible_cases (fleet : Fleet) (now : Moment) (candidates : List Registration) :
    ∃ agents found, firstEligible fleet now candidates = (lookedAt fleet now agents, found) ∧
      ∀ registration, found = some registration →
        registration ∈ candidates ∧ fleet.isEligible registration.name now := by
  induction candidates generalizing fleet with
  | nil => exact ⟨[], none, rfl, by simp⟩
  | cons first rest ih =>
      by_cases heligible : fleet.isEligible first.name now
      · exact ⟨[first.name], some first, by simp [firstEligible, heligible, lookedAt],
          by simp [heligible]⟩
      · obtain ⟨agents, found, hrest, hfound⟩ := ih (fleet.checked first.name now)
        refine ⟨first.name :: agents, found, ?_, ?_⟩
        · simp [firstEligible, heligible, hrest, lookedAt]
        · intro registration hregistration
          obtain ⟨hmem, hmay⟩ := hfound registration hregistration
          rw [Fleet.isEligible_checked] at hmay
          exact ⟨List.mem_cons_of_mem _ hmem, hmay⟩

end Router

end Gatehouse
