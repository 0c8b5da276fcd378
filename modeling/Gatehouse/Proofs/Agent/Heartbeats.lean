import Gatehouse.Proofs.Agent.Books

/-! # Heartbeats

Whoever looks at an agent whose heartbeat has grown too old writes down that it
is unhealthy. So the record of an agent depends on who looked at it and when;
but as the clock does not go back, nobody can tell. An agent is healthy if what
was said of it last was a heartbeat that is still fresh, whoever looked at it in
between and however often it was registered.

A run is any list of calls. The times of registrations and of marks do not have
to be in order; all that is asked is that nobody looked at a later moment than
the one in question.
-/

namespace Gatehouse

namespace AgentHealth

/-- The fields of a record go together. -/
structure Sound (h : AgentHealth) : Prop where
  alive : h.alive ↔ h.status = .healthy ∨ h.status = .degraded
  heard : h.status = .healthy → h.lastHeartbeat.isSome ∧ h.reason = none

theorem sound_unknown (agent : String) (now : Moment) : (unknown agent now).Sound where
  alive := by simp [unknown]
  heard := by simp [unknown]

theorem sound_heartbeat (h : AgentHealth) (now : Moment) : (h.heartbeat now).Sound where
  alive := by simp [heartbeat]
  heard := by simp [heartbeat]

theorem sound_unhealthy (h : AgentHealth) (reason : Option String) (now : Moment) :
    (h.marked .unhealthy false reason now).Sound where
  alive := by simp [marked]
  heard := by simp [marked]

theorem sound_degraded (h : AgentHealth) (reason : Option String) (now : Moment) :
    (h.marked .degraded true reason now).Sound where
  alive := by simp [marked]
  heard := by simp [marked]

theorem Sound.checked {h : AgentHealth} (hsound : h.Sound) (ttl : Span) (now : Moment) :
    (h.checked ttl now).Sound := by
  unfold AgentHealth.checked
  split
  · exact sound_unhealthy ..
  · exact hsound

end AgentHealth

namespace HealthBook

/-- What can be asked of the health book. -/
inductive Action where
  | register (agent : String) (now : Moment)
  | mark (agent : String) (said : HealthMark) (now : Moment)
  | look (agent : String) (now : Moment)
  deriving DecidableEq

namespace Action

/-- The call says something about the health of an agent. -/
def isMark : Action → Bool
  | .mark .. => true
  | .register .. | .look .. => false

/-- What a call says about the health of an agent. -/
def mark? (agent : String) : Action → Option (HealthMark × Moment)
  | .mark other said now => if agent = other then some (said, now) else none
  | .register .. | .look .. => none

/-- When somebody looks. -/
def lookedAt? : Action → Option Moment
  | .look _ now => some now
  | .register .. | .mark .. => none

end Action

/-- What a call makes of the book. A look is answered from what the book says before it. -/
def step (book : HealthBook) : Action → HealthBook
  | .register agent now => book.register agent now
  | .mark agent said now => book.mark agent said now
  | .look agent now => book.checked agent now

/-- What a list of calls makes of the book. -/
def run (book : HealthBook) (actions : List Action) : HealthBook :=
  actions.foldl step book

/-- What was said of an agent last. -/
def lastMark (agent : String) (actions : List Action) : Option (HealthMark × Moment) :=
  (actions.filterMap (Action.mark? agent)).getLast?

/-- Nobody has looked at a later moment. -/
def Passed (actions : List Action) (now : Moment) : Prop :=
  ∀ looked ∈ actions.filterMap Action.lookedAt?, looked ≤ now

variable {ttl : Span} {book : HealthBook} {actions others : List Action} {action : Action}
  {agent : String} {now heard : Moment}

theorem run_concat (book : HealthBook) (actions : List Action) (action : Action) :
    book.run (actions ++ [action]) = (book.run actions).step action := by
  simp [run]

theorem lastMark_concat :
    lastMark agent (actions ++ [action]) = (action.mark? agent).or (lastMark agent actions) := by
  rw [lastMark, List.filterMap_append]
  cases hmark : action.mark? agent <;> simp [lastMark, hmark]

/-- Only marks matter to what was said last. -/
theorem lastMark_filter (agent : String) (actions : List Action) :
    lastMark agent (actions.filter Action.isMark) = lastMark agent actions := by
  have hmark : ∀ action : Action,
      (if action.isMark then action.mark? agent else none) = action.mark? agent := by
    intro action
    cases action <;> rfl
  simp only [lastMark, List.filterMap_filter, hmark]

theorem passed_concat : Passed (actions ++ [action]) now ↔
    Passed actions now ∧ ∀ looked, action.lookedAt? = some looked → looked ≤ now := by
  simp only [Passed, List.filterMap_append, List.mem_append, or_imp, forall_and]
  cases action <;> simp [Action.lookedAt?]

/-- The book knows of the heartbeats that were the last thing said of an agent, apart from those
that somebody may have found too old. -/
structure Attends (ttl : Span) (actions : List Action) (book : HealthBook) : Prop where
  counted : book.ttl = ttl
  said : ∀ agent heard, book.healthySince? agent = some heard →
    lastMark agent actions = some (.heartbeat, heard)
  fresh : ∀ agent heard now, lastMark agent actions = some (.heartbeat, heard) →
    Passed actions now → now.since heard ≤ ttl → book.healthySince? agent = some heard

theorem attends_new (ttl : Span) : Attends ttl [] (new ttl) where
  counted := rfl
  said := by simp [healthySince?, get?, new]
  fresh := by simp [lastMark]

theorem ttl_step (book : HealthBook) (action : Action) : (book.step action).ttl = book.ttl := by
  cases action with
  | register | look => rfl
  | mark agent said now => cases said <;> rfl

theorem Attends.step (hattends : Attends ttl actions book) (action : Action) :
    Attends ttl (actions ++ [action]) (book.step action) where
  counted := (ttl_step book action).trans hattends.counted
  said := by
    intro agent heard hheard
    rw [lastMark_concat]
    cases action with
    | register other now =>
        rw [HealthBook.step, healthySince?_register] at hheard
        exact hattends.said agent heard hheard
    | mark other said now =>
        rw [HealthBook.step, healthySince?_mark] at hheard
        rw [Action.mark?]
        split at hheard
        next heq =>
          obtain ⟨hsaid, hnow⟩ := Option.ite_none_right_eq_some.mp hheard
          rw [if_pos heq, hsaid, Option.some.inj hnow]
          rfl
        next hne =>
          rw [if_neg hne]
          exact hattends.said agent heard hheard
    | look other now =>
        rw [HealthBook.step, healthySince?_checked] at hheard
        apply hattends.said agent heard
        split at hheard
        next => exact (Option.filter_eq_some_iff.mp hheard).1
        next => exact hheard
  fresh := by
    intro agent heard now hheard hpassed hfresh
    rw [lastMark_concat] at hheard
    obtain ⟨hbefore, hlooked⟩ := passed_concat.mp hpassed
    cases action with
    | register other registered =>
        rw [HealthBook.step, healthySince?_register]
        exact hattends.fresh agent heard now hheard hbefore hfresh
    | mark other said marked =>
        rw [HealthBook.step, healthySince?_mark]
        rw [Action.mark?] at hheard
        by_cases heq : agent = other
        · rw [if_pos heq, Option.some_or, Option.some.injEq, Prod.mk.injEq] at hheard
          rw [if_pos heq, if_pos hheard.1, hheard.2]
        · rw [if_neg heq, Option.none_or] at hheard
          rw [if_neg heq]
          exact hattends.fresh agent heard now hheard hbefore hfresh
    | look other looked =>
        -- What is fresh now was fresh when somebody looked.
        have hle : looked ≤ now := hlooked looked rfl
        have hearlier : looked.since heard ≤ ttl := by
          change looked.nanos ≤ now.nanos at hle
          change now.nanos - heard.nanos ≤ ttl.nanos at hfresh
          change looked.nanos - heard.nanos ≤ ttl.nanos
          omega
        rw [HealthBook.step, healthySince?_checked, hattends.counted,
          hattends.fresh agent heard now hheard hbefore hfresh]
        simp [Option.filter_some, hearlier]

theorem attends_run (ttl : Span) (actions : List Action) :
    Attends ttl actions ((new ttl).run actions) := by
  induction actions using List.reverseRecOn with
  | nil => exact attends_new ttl
  | append_singleton actions action ih =>
      rw [run_concat]
      exact ih.step action

theorem isHealthy_run_iff (hpassed : Passed actions now) :
    ((new ttl).run actions).isHealthy agent now ↔
      ∃ heard, lastMark agent actions = some (.heartbeat, heard) ∧ now.since heard ≤ ttl := by
  have hattends := attends_run ttl actions
  rw [isHealthy_iff, hattends.counted]
  constructor
  · rintro ⟨heard, hheard, hfresh⟩
    exact ⟨heard, hattends.said agent heard hheard, hfresh⟩
  · rintro ⟨heard, hlast, hfresh⟩
    exact ⟨heard, hattends.fresh agent heard now hlast hpassed hfresh, hfresh⟩

/-- The records of all agents are sound. -/
def Sound (book : HealthBook) : Prop :=
  ∀ agent record, book.get? agent = some record → record.Sound

theorem sound_update {change : AgentHealth → AgentHealth} (hsound : book.Sound)
    (hchange : ∀ record, (change record).Sound) : (book.update agent now change).Sound := by
  intro other record hrecord
  rw [get?_update] at hrecord
  split at hrecord
  · cases hrecord
    exact hchange _
  · exact hsound other record hrecord

theorem Sound.step (hsound : book.Sound) (action : Action) : (book.step action).Sound := by
  cases action with
  | register agent now =>
      intro other record hrecord
      rw [HealthBook.step, get?_register] at hrecord
      split at hrecord
      · cases hrecord
        cases hbefore : book.get? other with
        | none => exact AgentHealth.sound_unknown agent now
        | some before => exact hsound other before hbefore
      · exact hsound other record hrecord
  | mark agent said now =>
      cases said with
      | heartbeat => exact sound_update hsound (·.sound_heartbeat now)
      | degraded reason => exact sound_update hsound (·.sound_degraded reason now)
      | unhealthy reason => exact sound_update hsound (·.sound_unhealthy reason now)
  | look agent now =>
      intro other record hrecord
      rw [HealthBook.step, get?_checked] at hrecord
      split at hrecord
      · obtain ⟨before, hbefore, rfl⟩ := Option.map_eq_some_iff.mp hrecord
        exact (hsound other before hbefore).checked book.ttl now
      · exact hsound other record hrecord

theorem sound_run (ttl : Span) (actions : List Action) : ((new ttl).run actions).Sound := by
  induction actions using List.reverseRecOn with
  | nil => simp [Sound, run, get?, new]
  | append_singleton actions action ih =>
      rw [run_concat]
      exact ih.step action

/-- Nobody can tell who looked at an agent before. -/
structure Unobtrusive (ttl : Span) (actions : List Action) : Prop where
  /-- Whoever looks is told whether the last thing said of the agent is a fresh heartbeat. -/
  healthy : ∀ agent now, Passed actions now → (((new ttl).run actions).isHealthy agent now ↔
    ∃ heard, lastMark agent actions = some (.heartbeat, heard) ∧ now.since heard ≤ ttl)
  /-- Where the same is said of agents, other looks and registrations make no difference. -/
  unmoved : ∀ others, others.filter Action.isMark = actions.filter Action.isMark →
    ∀ agent now, Passed actions now → Passed others now →
      ((new ttl).run others).isHealthy agent now = ((new ttl).run actions).isHealthy agent now
  sound : ((new ttl).run actions).Sound

theorem run_unobtrusive (ttl : Span) (actions : List Action) : Unobtrusive ttl actions where
  healthy := fun _ _ hpassed => isHealthy_run_iff hpassed
  unmoved := by
    intro others hsame agent now hpassed hothers
    rw [Bool.eq_iff_iff, isHealthy_run_iff hpassed, isHealthy_run_iff hothers,
      ← lastMark_filter agent others, hsame, lastMark_filter]
  sound := sound_run ttl actions

/-- Looks at later moments are what cannot be allowed: they find a heartbeat too old that is not. -/
example :
    ((new ⟨10⟩).run [.mark "A" .heartbeat (.ofNanos 0), .look "A" (.ofNanos 11)]).isHealthy "A"
      (.ofNanos 5) = false ∧
    ((new ⟨10⟩).run [.mark "A" .heartbeat (.ofNanos 0), .look "A" (.ofNanos 4)]).isHealthy "A"
      (.ofNanos 10) := by
  decide +kernel

end HealthBook

end Gatehouse
