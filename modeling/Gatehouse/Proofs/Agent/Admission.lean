import Gatehouse.Proofs.Agent.Books

/-! # Admission

Whether an agent has room is asked twice: when an agent is chosen for a command,
and when one of its slots is taken. The two questions are put differently, the
first as whether the agent may be given work and the second as why it may not,
and the clock is read anew for each. They have the same answer at the same
moment, and room that was there is still there later, unless somebody else took
it. So whoever goes from the one to the other undisturbed is never turned away
in between.
-/

namespace Gatehouse

namespace LoadBook

variable {book : LoadBook} {agent : String} {now later : Moment}

theorem coolingUntil?_eq_none_iff {l : AgentLoad} :
    l.coolingUntil? now = none ↔ ∀ u, l.cooldownUntil = some u → u ≤ now := by
  rw [AgentLoad.coolingUntil?, Option.filter_eq_none_iff]
  simp only [decide_eq_true_eq]
  exact forall_congr' fun u => imp_congr_right fun _ => Int.not_lt

/-- An agent has room below its ceiling, from the moment on at which its cooldown ends. -/
theorem canAccept_iff : book.canAccept agent now ↔
    ∃ l, book.get? agent = some l ∧ (∀ u, l.cooldownUntil = some u → u ≤ now) ∧
      l.inFlight < l.maxConcurrency := by
  simp only [← coolingUntil?_eq_none_iff]
  unfold canAccept
  cases book.get? agent with
  | none => simp
  | some l => simp [AgentLoad.canAccept, AgentLoad.isCooling, and_comm]

/-- An agent can accept work when and only when a slot of it is given. -/
theorem canAccept_iff_reserve :
    book.canAccept agent now ↔ ∃ taken after, book.reserve agent now = .ok (taken, after) := by
  rw [canAccept_iff]
  constructor
  · rintro ⟨l, hget, hrested, hroom⟩
    simp only [reserve, hget, coolingUntil?_eq_none_iff.mpr hrested,
      if_neg (Nat.not_le.mpr hroom)]
    exact ⟨_, _, rfl⟩
  · rintro ⟨taken, after, hreserve⟩
    obtain ⟨l, hget, hcooling, hroom, -⟩ := of_reserve_ok hreserve
    exact ⟨l, hget, coolingUntil?_eq_none_iff.mp hcooling, hroom⟩

/-- Cooldowns end, so the same record has room at every later moment. -/
theorem canAccept_of_le {other : LoadBook} (hsame : other.get? agent = book.get? agent)
    (hle : now ≤ later) (haccept : book.canAccept agent now) : other.canAccept agent later := by
  obtain ⟨l, hget, hrested, hroom⟩ := canAccept_iff.mp haccept
  refine canAccept_iff.mpr ⟨l, hsame.trans hget, ?_, hroom⟩
  exact fun u hu => Int.le_trans (hrested u hu) hle

/-- Whoever is turned away leaves the book as it was. -/
theorem afterReserve_of_not_canAccept (hrefused : book.canAccept agent now = false) :
    book.afterReserve agent now = book := by
  unfold afterReserve
  split
  next taken after hreserve =>
    have haccept := canAccept_iff_reserve.mpr ⟨taken, after, hreserve⟩
    rw [hrefused] at haccept
    contradiction
  next => rfl

end LoadBook

/-- The reason that a report gives, if there is a report. -/
def Dispatch.reason? : Dispatch → Option String
  | .reported report => report.reason
  | .running _ => none

namespace Router

/-- What happens from the choice of an agent to the call of its adapter. -/
def engage (r : Router) (env : Environment) (stamp : Stamp) (command : String) (payload : Json)
    (agent : Registration) : Router × Dispatch :=
  match Binding.resolve env agent.executor with
  | .error fault =>
    (r, .reported
      ⟨false, none, some agent.name, none, some "executor_binding_unresolved", some fault.text⟩)
  | .ok target =>
    match r.fleet.load.reserve agent.name stamp.now with
    | .error e =>
      (r, .reported
        ⟨false, none, some agent.name, none, some "backpressure_rejected", some e.message⟩)
    | .ok (_, load) =>
      ({ r with fleet := { r.fleet with load := load } },
        .running ⟨⟨stamp.id, agent.name, command, payload⟩, target, agent.adapter⟩)

/-- Finds an agent for a payload at one moment, and takes one of its slots at the moment of the
stamp. -/
def executeFrom (r : Router) (env : Environment) (chosenAt : Moment) (stamp : Stamp)
    (payload : Json) : Router × Dispatch :=
  match commandOf payload with
  | none => (r, .reported (.rejected "missing_command"))
  | some command =>
    match r.select command chosenAt with
    | (r, none) => (r, .reported (.rejected "no_available_agent_or_backpressure"))
    | (r, some agent) => r.engage env stamp command payload agent

theorem execute_eq (r : Router) (env : Environment) (stamp : Stamp) (payload : Json) :
    r.execute env stamp payload = r.executeFrom env stamp.now stamp payload :=
  rfl

/-- What can become of a command whose agent has room: its binding is not resolved, or its adapter
is called. -/
inductive Engaged (r : Router) (env : Environment) (stamp : Stamp) (command : String)
    (payload : Json) (agent : Registration) : Router × Dispatch → Prop where
  | unresolved (fault : Fault) (hresolve : Binding.resolve env agent.executor = .error fault) :
      Engaged r env stamp command payload agent
        (r, .reported ⟨false, none, some agent.name, none, some "executor_binding_unresolved",
          some fault.text⟩)
  | called (target : String) (taken : Nat) (load : LoadBook)
      (hresolve : Binding.resolve env agent.executor = .ok target)
      (hreserve : r.fleet.load.reserve agent.name stamp.now = .ok (taken, load)) :
      Engaged r env stamp command payload agent
        ({ r with fleet := { r.fleet with load := load } },
          .running ⟨⟨stamp.id, agent.name, command, payload⟩, target, agent.adapter⟩)

/-- What can become of a payload while nobody interferes. -/
inductive Disposed (r : Router) (env : Environment) (chosenAt : Moment) (stamp : Stamp)
    (payload : Json) : Router × Dispatch → Prop where
  | uncommanded (hcommand : commandOf payload = none) :
      Disposed r env chosenAt stamp payload (r, .reported (.rejected "missing_command"))
  | unavailable (command : String) (agents : List String)
      (hcommand : commandOf payload = some command)
      (hnobody : ∀ agent ∈ r.agents.values, agent.handles command →
        r.fleet.isEligible agent.name chosenAt = false) :
      Disposed r env chosenAt stamp payload
        ({ r with fleet := lookedAt r.fleet chosenAt agents },
          .reported (.rejected "no_available_agent_or_backpressure"))
  | engaged (command : String) (agents : List String) (agent : Registration)
      (after : Router × Dispatch) (hcommand : commandOf payload = some command)
      (hlisted : agent ∈ r.agents.values) (hhandles : agent.handles command)
      (heligible : r.fleet.isEligible agent.name chosenAt)
      (hengaged : Engaged { r with fleet := lookedAt r.fleet chosenAt agents } env stamp command
        payload agent after) :
      Disposed r env chosenAt stamp payload after

variable {r other : Router} {env : Environment} {chosenAt : Moment} {stamp : Stamp}
  {command : String} {payload : Json} {agent : Registration} {after : Router × Dispatch}

/-- The search finds nobody only where nobody may be given work. -/
theorem nobody_of_firstEligible {fleet : Fleet} {candidates : List Registration} {now : Moment}
    (hnone : (firstEligible fleet now candidates).2 = none) :
    ∀ agent ∈ candidates, fleet.isEligible agent.name now = false := by
  induction candidates generalizing fleet with
  | nil => simp
  | cons first rest ih =>
      cases heligible : fleet.isEligible first.name now with
      | true => simp [firstEligible, heligible] at hnone
      | false =>
          simp only [firstEligible, heligible, Bool.false_eq_true, if_false] at hnone
          intro agent hagent
          rcases List.mem_cons.mp hagent with rfl | hrest
          · exact heligible
          · rw [← Fleet.isEligible_checked fleet first.name agent.name now]
            exact ih hnone agent hrest

/-- Where the record of an agent has room, and nobody touches it, the agent is not turned away. -/
theorem engaged (haccept : r.fleet.load.canAccept agent.name chosenAt)
    (hsame : other.fleet.load.get? agent.name = r.fleet.load.get? agent.name)
    (hclock : chosenAt ≤ stamp.now) :
    other.Engaged env stamp command payload agent
      (other.engage env stamp command payload agent) := by
  have hroom := LoadBook.canAccept_of_le hsame hclock haccept
  obtain ⟨taken, load, hreserve⟩ := LoadBook.canAccept_iff_reserve.mp hroom
  unfold engage
  cases hresolve : Binding.resolve env agent.executor with
  | error fault => exact .unresolved fault hresolve
  | ok target =>
      simp only [hreserve]
      exact .called target taken load hresolve hreserve

theorem disposed (r : Router) (env : Environment) (payload : Json)
    (hclock : chosenAt ≤ stamp.now) :
    r.Disposed env chosenAt stamp payload (r.executeFrom env chosenAt stamp payload) := by
  unfold executeFrom
  cases hcommand : commandOf payload with
  | none => exact .uncommanded hcommand
  | some command =>
      obtain ⟨agents, found, hfirst, hfound⟩ := firstEligible_cases r.fleet chosenAt
        (r.agents.values.filter fun a => a.handles command)
      have hselect : r.select command chosenAt =
          ({ r with fleet := lookedAt r.fleet chosenAt agents }, found) := by
        simp only [select, hfirst]
      simp only [hselect]
      cases found with
      | none =>
          refine .unavailable command agents hcommand fun agent hagent hhandles => ?_
          exact nobody_of_firstEligible (by rw [hfirst]) agent
            (List.mem_filter.mpr ⟨hagent, hhandles⟩)
      | some agent =>
          obtain ⟨hmem, heligible⟩ := hfound agent rfl
          obtain ⟨hlisted, hhandles⟩ := List.mem_filter.mp hmem
          refine .engaged command agents agent _ hcommand hlisted hhandles heligible ?_
          -- The search has looked at the health of agents, and not touched their load.
          refine engaged (Fleet.isEligible_iff.mp heligible).2.2 ?_ hclock
          rw [load_lookedAt]

theorem Engaged.reason (hengaged : r.Engaged env stamp command payload agent after) :
    after.2.reason? ≠ some "backpressure_rejected" := by
  cases hengaged with
  | unresolved => simp [Dispatch.reason?]
  | called => simp [Dispatch.reason?]

theorem Disposed.reason (hdisposed : r.Disposed env chosenAt stamp payload after) :
    after.2.reason? ≠ some "backpressure_rejected" := by
  cases hdisposed with
  | uncommanded => simp [Dispatch.reason?, ExecutionReport.rejected]
  | unavailable => simp [Dispatch.reason?, ExecutionReport.rejected]
  | engaged command agents agent after _ _ _ _ hengaged => exact hengaged.reason

/-- Nobody is turned away from an agent that was chosen because it has room. -/
structure Admits (r : Router) : Prop where
  room : ∀ agent now, r.fleet.load.canAccept agent now ↔
    ∃ l, r.fleet.load.get? agent = some l ∧ (∀ u, l.cooldownUntil = some u → u ≤ now) ∧
      l.inFlight < l.maxConcurrency
  agree : ∀ agent now, r.fleet.load.canAccept agent now ↔
    ∃ taken load, r.fleet.load.reserve agent now = .ok (taken, load)
  /-- There is room at every later moment, whatever else has changed in the book. -/
  lasts : ∀ agent now later (load : LoadBook), r.fleet.load.canAccept agent now →
    load.get? agent = r.fleet.load.get? agent → now ≤ later →
    ∃ taken after, load.reserve agent later = .ok (taken, after)
  refused : ∀ agent now, r.fleet.load.canAccept agent now = false →
    r.fleet.load.afterReserve agent now = r.fleet.load
  disposed : ∀ env chosenAt stamp payload, chosenAt ≤ stamp.now →
    r.Disposed env chosenAt stamp payload (r.executeFrom env chosenAt stamp payload)
  /-- It does not matter either what others do who leave the record of the chosen agent alone. -/
  undisturbed : ∀ env chosenAt stamp command payload agent (other : Router),
    r.fleet.load.canAccept agent.name chosenAt →
    other.fleet.load.get? agent.name = r.fleet.load.get? agent.name → chosenAt ≤ stamp.now →
    other.Engaged env stamp command payload agent (other.engage env stamp command payload agent)
  never : ∀ env chosenAt stamp payload, chosenAt ≤ stamp.now →
    (r.executeFrom env chosenAt stamp payload).2.reason? ≠ some "backpressure_rejected"
  /-- With one reading of the clock for both questions it is the same. -/
  once : ∀ env stamp payload,
    r.execute env stamp payload = r.executeFrom env stamp.now stamp payload

theorem admits (r : Router) : r.Admits where
  room := fun _ _ => LoadBook.canAccept_iff
  agree := fun _ _ => LoadBook.canAccept_iff_reserve
  lasts := fun _ _ _ _ haccept hsame hle =>
    LoadBook.canAccept_iff_reserve.mp (LoadBook.canAccept_of_le hsame hle haccept)
  refused := fun _ _ hrefused => LoadBook.afterReserve_of_not_canAccept hrefused
  disposed := fun env _ _ payload hclock => r.disposed env payload hclock
  undisturbed := fun _ _ _ _ _ _ _ haccept hsame hclock => engaged haccept hsame hclock
  never := fun env _ _ payload hclock => (r.disposed env payload hclock).reason
  once := r.execute_eq

/-- An agent that was left alone for a minute. -/
def rested : Router :=
  let r := (Router.new ⟨120000, 1, 60000, 1⟩).register
    ⟨"A", ["create_page"], "http://a.local", none, ⟨0⟩⟩ (.ofNanos 0)
  { r with fleet := { r.fleet with
    health := r.fleet.health.heartbeat "A" (.ofNanos 0)
    load := (r.fleet.load.failed "A" (.ofNanos 0)).1 } }

/-- If the clock goes back into the cooldown after the choice, there is no slot any more. -/
example :
    (rested.executeFrom (.ofList []) (.ofNanos 60000000000)
      ⟨.ofNanos 60000000000, "id", "event", "token"⟩
      (.obj [("command", .str "create_page")])).2.reason? = none ∧
    (rested.executeFrom (.ofList []) (.ofNanos 60000000000)
      ⟨.ofNanos 59999999999, "id", "event", "token"⟩
      (.obj [("command", .str "create_page")])).2.reason? = some "backpressure_rejected" := by
  decide +kernel

end Router

end Gatehouse
