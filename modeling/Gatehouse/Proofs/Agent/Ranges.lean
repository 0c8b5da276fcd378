import Gatehouse.Proofs.Agent.Failures

/-! # The counters of the load book stay in range

Counts of slots and of failures are kept in words of 32 bits. Nothing tests that
there is room in a word before a count goes up: a slot is only tested against the
ceiling that is in force at the moment, which a registration may have lowered
below the slots that are taken, and a failure against the threshold after it was
counted. There always is room, since every ceiling and the threshold are words,
and since the count of failures starts afresh as soon as it gets there. It takes
neither a threshold nor a default ceiling above zero, and failures may be told in
any order.
-/

namespace Gatehouse

/-- An agent has one slot at least, and its count of failures is below the threshold, or zero where
the threshold is zero as well. -/
structure AgentLoad.InRange (policy : LoadPolicy) (l : AgentLoad) : Prop where
  ceiling : 1 ≤ l.maxConcurrency
  failures : l.consecutiveFailures < max policy.failureThreshold 1

/-- The slots of an agent, taken or not, are counted in words. -/
structure AgentLoad.InWords (l : AgentLoad) : Prop where
  taken : l.inFlight < pow2 32
  ceiling : l.maxConcurrency < pow2 32

namespace LoadBook

/-- The calendar shows the ends of the cooldowns that failures may open. -/
def Ending (policy : LoadPolicy) (actions : List Action) : Prop :=
  ∀ now ∈ failureTimes actions, now.add? policy.cooldown ≠ none

/-- The threshold and all ceilings that are asked for are words. -/
structure Worded (policy : LoadPolicy) (actions : List Action) : Prop where
  threshold : policy.failureThreshold < pow2 32
  ordinary : policy.defaultMaxConcurrency < pow2 32
  wanted : ∀ agent ceiling, .register agent (some ceiling) ∈ actions → ceiling < pow2 32

/-- What a call can make of the record of an agent. -/
inductive Renews (book : LoadBook) (agent : String) : Action → AgentLoad → Prop where
  | kept (action : Action) (l : AgentLoad) (hget : book.get? agent = some l) :
      Renews book agent action l
  | listed (wanted : Option Nat) (hget : book.get? agent = none) :
      Renews book agent (.register agent wanted) ⟨agent, 0, book.ceiling wanted, 0, none⟩
  | resized (wanted : Option Nat) (l : AgentLoad) (hget : book.get? agent = some l) :
      Renews book agent (.register agent wanted) { l with maxConcurrency := book.ceiling wanted }
  | taken (now : Moment) (l : AgentLoad) (hget : book.get? agent = some l)
      (hfree : l.inFlight < l.maxConcurrency) :
      Renews book agent (.reserve agent now) { l with inFlight := l.inFlight + 1 }
  | given (l : AgentLoad) (hget : book.get? agent = some l) :
      Renews book agent (.release agent) { l with inFlight := l.inFlight - 1 }
  | counted (now : Moment) (l : AgentLoad) (hget : book.get? agent = some l)
      (hbelow : l.consecutiveFailures + 1 < book.policy.failureThreshold) :
      Renews book agent (.fail agent now)
        { l with consecutiveFailures := l.consecutiveFailures + 1 }
  | opened (now : Moment) (l : AgentLoad) (u : Moment) (hget : book.get? agent = some l) :
      Renews book agent (.fail agent now)
        { l with consecutiveFailures := 0, cooldownUntil := some u }
  | praised (l : AgentLoad) (hget : book.get? agent = some l) :
      Renews book agent (.succeed agent) { l with consecutiveFailures := 0 }

section Renews

variable {policy : LoadPolicy} {book after : LoadBook} {actions : List Action} {action : Action}
  {agent : String} {l : AgentLoad}

theorem renews_register (book : LoadBook) {other : String} {wanted : Option Nat}
    (hget : (book.register other wanted).get? agent = some l) :
    Renews book agent (.register other wanted) l := by
  rw [get?_register] at hget
  split at hget
  next heq =>
    subst heq
    obtain rfl := Option.some.inj hget
    cases hbefore : book.get? agent with
    | none => exact .listed wanted hbefore
    | some before => exact .resized wanted before hbefore
  next => exact .kept _ l hget

theorem renews_reserve (book : LoadBook) {other : String} {now : Moment}
    (hget : (book.afterReserve other now).get? agent = some l) :
    Renews book agent (.reserve other now) l := by
  unfold afterReserve at hget
  split at hget
  next count after hok =>
    obtain ⟨before, hbefore, _, hfree, _, _⟩ := of_reserve_ok hok
    rw [get?_reserve hok] at hget
    split at hget
    next heq =>
      subst heq
      rw [hbefore] at hget
      obtain rfl := Option.some.inj hget
      exact .taken now before hbefore hfree
    next => exact .kept _ l hget
  next => exact .kept _ l hget

theorem renews_failed (book : LoadBook) {other : String} {now : Moment}
    (hends : now.add? book.policy.cooldown ≠ none)
    (hget : (book.failed other now).1.get? agent = some l) :
    Renews book agent (.fail other now) l := by
  by_cases heq : agent = other
  · subst heq
    cases hbefore : book.get? agent with
    | none =>
        rw [failed_of_none hbefore, hbefore] at hget
        contradiction
    | some before =>
        rcases Nat.lt_or_ge (before.consecutiveFailures + 1) book.policy.failureThreshold with
          hbelow | hreached
        · rw [(failed_below hbefore hbelow now).2] at hget
          obtain rfl := Option.some.inj hget
          exact .counted now before hbefore hbelow
        · obtain ⟨u, hu⟩ := Option.ne_none_iff_exists'.mp hends
          rw [(failed_reaching hbefore hreached hu).2] at hget
          obtain rfl := Option.some.inj hget
          exact .opened now before u hbefore
  · rw [get?_failed, if_neg heq] at hget
    exact .kept _ l hget

theorem perform_renews (book : LoadBook) (action : Action)
    (hends : ∀ now, action.failedAt? = some now → now.add? book.policy.cooldown ≠ none)
    (hget : (book.perform action).1.get? agent = some l) : Renews book agent action l := by
  cases action with
  | register other wanted => exact renews_register book hget
  | reserve other now => exact renews_reserve book hget
  | release other =>
      rw [perform, get?_release] at hget
      split at hget
      next heq =>
        subst heq
        obtain ⟨before, hbefore, rfl⟩ := Option.map_eq_some_iff.mp hget
        exact .given before hbefore
      next => exact .kept _ l hget
  | fail other now => exact renews_failed book (hends now rfl) hget
  | succeed other =>
      rw [perform, get?_succeeded] at hget
      split at hget
      next heq =>
        subst heq
        obtain ⟨before, hbefore, rfl⟩ := Option.map_eq_some_iff.mp hget
        exact .praised before hbefore
      next => exact .kept _ l hget

theorem one_le_ceiling (book : LoadBook) (wanted : Option Nat) : 1 ≤ book.ceiling wanted :=
  Nat.le_max_right ..

theorem ceiling_lt_pow2 {wanted : Option Nat}
    (hordinary : book.policy.defaultMaxConcurrency < pow2 32)
    (hwanted : ∀ ceiling, wanted = some ceiling → ceiling < pow2 32) :
    book.ceiling wanted < pow2 32 := by
  refine Nat.max_lt.mpr ⟨?_, by decide⟩
  cases wanted with
  | none => exact hordinary
  | some ceiling => exact hwanted ceiling rfl

/-- A count of failures that would reach the threshold starts afresh. -/
theorem Renews.inRange (hrenews : Renews book agent action l)
    (hrange : ∀ l, book.get? agent = some l → l.InRange book.policy) : l.InRange book.policy := by
  have hzero : 0 < max book.policy.failureThreshold 1 := lt_max_of_lt_right Nat.one_pos
  cases hrenews with
  | kept action l hget => exact hrange l hget
  | listed wanted hget => exact ⟨book.one_le_ceiling wanted, hzero⟩
  | resized wanted l hget => exact ⟨book.one_le_ceiling wanted, (hrange l hget).failures⟩
  | taken now l hget hfree => exact ⟨(hrange l hget).ceiling, (hrange l hget).failures⟩
  | given l hget => exact ⟨(hrange l hget).ceiling, (hrange l hget).failures⟩
  | counted now l hget hbelow => exact ⟨(hrange l hget).ceiling, lt_max_of_lt_left hbelow⟩
  | opened now l u hget => exact ⟨(hrange l hget).ceiling, hzero⟩
  | praised l hget => exact ⟨(hrange l hget).ceiling, hzero⟩

/-- A slot that is taken is below a ceiling, and that is a word. -/
theorem Renews.inWords (hrenews : Renews book agent action l)
    (hordinary : book.policy.defaultMaxConcurrency < pow2 32)
    (hwanted : ∀ ceiling, action = .register agent (some ceiling) → ceiling < pow2 32)
    (hwords : ∀ l, book.get? agent = some l → l.InWords) : l.InWords := by
  cases hrenews with
  | kept action l hget => exact hwords l hget
  | listed wanted hget =>
      refine ⟨pow2_pos 32, ceiling_lt_pow2 hordinary fun ceiling hceiling => ?_⟩
      exact hwanted ceiling (by rw [hceiling])
  | resized wanted l hget =>
      refine ⟨(hwords l hget).taken, ceiling_lt_pow2 hordinary fun ceiling hceiling => ?_⟩
      exact hwanted ceiling (by rw [hceiling])
  | taken now l hget hfree =>
      -- It was tested against the ceiling that is in the record now, however high others were.
      exact ⟨Nat.lt_of_le_of_lt hfree (hwords l hget).ceiling, (hwords l hget).ceiling⟩
  | given l hget =>
      exact ⟨Nat.lt_of_le_of_lt (Nat.sub_le ..) (hwords l hget).taken, (hwords l hget).ceiling⟩
  | counted now l hget hbelow => exact ⟨(hwords l hget).taken, (hwords l hget).ceiling⟩
  | opened now l u hget => exact ⟨(hwords l hget).taken, (hwords l hget).ceiling⟩
  | praised l hget => exact ⟨(hwords l hget).taken, (hwords l hget).ceiling⟩

end Renews

section Run

variable {policy : LoadPolicy} {actions : List Action} {action : Action} {agent : String}
  {l : AgentLoad}

theorem policy_run (book : LoadBook) (actions : List Action) :
    (book.run actions).policy = book.policy := by
  induction actions generalizing book with
  | nil => rfl
  | cons action rest ih => exact (ih (book.perform action).1).trans (policy_perform book action)

/-- In a run every record comes from one that was there before by the last call. -/
theorem renews_run (hending : Ending policy (actions ++ [action]))
    (hget : ((new policy).run (actions ++ [action])).get? agent = some l) :
    Renews ((new policy).run actions) agent action l := by
  rw [run_append] at hget
  refine perform_renews _ action (fun now hnow => ?_) hget
  rw [policy_run]
  apply hending now
  rw [failureTimes_append, List.mem_append]
  exact .inr (by simp [failureTimes, hnow])

theorem Ending.before {more : List Action} (hending : Ending policy (actions ++ more)) :
    Ending policy actions := by
  intro now hnow
  apply hending now
  rw [failureTimes_append]
  exact List.mem_append_left _ hnow

theorem Worded.before {more : List Action} (hworded : Worded policy (actions ++ more)) :
    Worded policy actions where
  threshold := hworded.threshold
  ordinary := hworded.ordinary
  wanted agent ceiling hmem := hworded.wanted agent ceiling (List.mem_append_left _ hmem)

theorem inRange_run (hending : Ending policy actions)
    (hget : ((new policy).run actions).get? agent = some l) : l.InRange policy := by
  induction actions using List.reverseRecOn generalizing l with
  | nil => contradiction
  | append_singleton actions action ih =>
      have hrange := (renews_run hending hget).inRange
      rw [policy_run] at hrange
      exact hrange fun before hbefore => ih hending.before hbefore

theorem inWords_run (hending : Ending policy actions) (hworded : Worded policy actions)
    (hget : ((new policy).run actions).get? agent = some l) : l.InWords := by
  induction actions using List.reverseRecOn generalizing l with
  | nil => contradiction
  | append_singleton actions action ih =>
      refine (renews_run hending hget).inWords ?_ (fun ceiling hceiling => ?_)
        fun before hbefore => ih hending.before hworded.before hbefore
      · rw [policy_run]
        exact hworded.ordinary
      · exact hworded.wanted agent ceiling (by simp [hceiling])

/-- The counters of a book that was used like this are in range and have room to go up. -/
structure StaysInRange (policy : LoadPolicy) (actions : List Action) : Prop where
  inRange : ∀ agent l, ((new policy).run actions).get? agent = some l → l.InRange policy
  /-- One failure more still fits into a word. -/
  failing : ∀ agent l, ((new policy).run actions).get? agent = some l →
    l.consecutiveFailures + 1 < pow2 32
  /-- So does one slot more where one is given, and then no more are taken than the ceiling is
  high. -/
  reserving : ∀ agent now count after,
    ((new policy).run actions).reserve agent now = .ok (count, after) →
    ∃ l, after.get? agent = some l ∧ l.inFlight = count ∧ 1 ≤ count ∧ count ≤ l.maxConcurrency ∧
      ((new policy).run actions).inFlight agent + 1 = count ∧ count < pow2 32
  /-- Giving back a slot that was not taken leaves none taken. -/
  releasing : ∀ agent, (((new policy).run actions).release agent).inFlight agent =
    max ((((new policy).run actions).inFlight agent : Int) - 1) 0
  /-- Lowering a ceiling leaves slots taken above it, but never more than a word counts. -/
  inWords : ∀ agent l, ((new policy).run actions).get? agent = some l → l.InWords

theorem lt_pow2_of_inRange (hworded : Worded policy actions) (hrange : l.InRange policy) :
    l.consecutiveFailures + 1 < pow2 32 :=
  Nat.lt_of_le_of_lt hrange.failures (Nat.max_lt.mpr ⟨hworded.threshold, by decide⟩)

/-- What a slot that is given leaves is a word, since the ceiling is one. -/
theorem taken_of_reserve {book after : LoadBook} {now : Moment} {count : Nat}
    (hwords : ∀ l, book.get? agent = some l → l.InWords)
    (hreserve : book.reserve agent now = .ok (count, after)) :
    ∃ l, after.get? agent = some l ∧ l.inFlight = count ∧ 1 ≤ count ∧ count ≤ l.maxConcurrency ∧
      book.inFlight agent + 1 = count ∧ count < pow2 32 := by
  obtain ⟨before, hbefore, _, hfree, rfl, _⟩ := of_reserve_ok hreserve
  have hafter := get?_reserve hreserve agent
  rw [if_pos rfl, hbefore, Option.map_some] at hafter
  have hword : before.inFlight + 1 < pow2 32 :=
    Nat.lt_of_le_of_lt hfree (hwords before hbefore).ceiling
  exact ⟨_, hafter, rfl, Nat.le_add_left .., hfree, by simp [inFlight, hbefore], hword⟩

/-- As long as the calendar shows the ends of its cooldowns, a book whose ceilings and threshold are
words never runs out of them. -/
theorem run_staysInRange (hending : Ending policy actions) (hworded : Worded policy actions) :
    StaysInRange policy actions where
  inRange agent l := inRange_run hending
  failing agent l hget := lt_pow2_of_inRange hworded (inRange_run hending hget)
  reserving agent now count after :=
    taken_of_reserve fun l hget => inWords_run hending hworded hget
  releasing agent := by
    rw [inFlight_release, if_pos rfl]
    omega
  inWords agent l := inWords_run hending hworded

/-- A policy with a threshold of no failures and a ceiling of no slots. -/
def careless : LoadPolicy := ⟨0, ⟨60⟩, 0⟩

/-- An agent is left with one slot while two are taken, and fails; a slot is then given back more
often than it was taken. Times go back and forth. -/
def dwindling : List Action := [
  .register "A" (some 4294967295),
  .reserve "A" (.ofNanos 9),
  .reserve "A" (.ofNanos 3),
  .register "A" none,
  .fail "A" (.ofNanos 8),
  .fail "A" (.ofNanos 2),
  .register "B" none,
  .release "B"]

theorem dwindling_staysInRange :
    Ending careless dwindling ∧ Worded careless dwindling ∧
    ((new careless).run dwindling).get? "A" = some ⟨"A", 2, 1, 0, some (.ofNanos 62)⟩ ∧
    ((new careless).run dwindling).get? "B" = some ⟨"B", 0, 1, 0, none⟩ ∧
    StaysInRange careless dwindling := by
  have hending : Ending careless dwindling := by
    unfold Ending
    decide
  have hworded : Worded careless dwindling := by
    refine ⟨by decide, by decide, ?_⟩
    intro agent ceiling hmem
    obtain ⟨_, rfl⟩ : agent = "A" ∧ ceiling = 4294967295 := by simpa [dwindling] using hmem
    decide
  exact ⟨hending, hworded, by decide +kernel, by decide +kernel,
    run_staysInRange hending hworded⟩

end Run

end LoadBook

end Gatehouse
