import Gatehouse.Proofs.Agent.Admission
import Gatehouse.Proofs.Agent.Deployment

/-! # Routing

Which agent a command goes to is decided by the registrations alone and by what
the books say at the moment. Among the names, in the order in which each of them
was first registered, it is the first whose latest registration lists the
command and which may be given work. The search looks at one agent after the
other and writes down that a heartbeat is too old where it comes upon one; this
answers nothing differently for the agents that come after.

`Fits` and `FirstFit` say who is meant without a search, and `Routes` that the
search finds it, that an execution uses the registration that was found, and
that looking changes nothing else.
-/

namespace Gatehouse

namespace AgentHealth

theorem checked_of_stale {h : AgentHealth} {ttl : Span} {now : Moment}
    (hstale : h.isStale ttl now) :
    h.checked ttl now = h.marked .unhealthy false (some "heartbeat_ttl_expired") now :=
  if_pos hstale

theorem isStale_iff {h : AgentHealth} {ttl : Span} {now : Moment} : h.isStale ttl now ↔
    ∃ heard, h.lastHeartbeat = some heard ∧ ttl < now.since heard := by
  unfold isStale
  cases h.lastHeartbeat <;> simp

end AgentHealth

/-- Nothing changes from one fleet to the other except that records of health whose heartbeat has
expired say so. -/
structure Fleet.OnlyDemotes (before after : Fleet) (now : Moment) : Prop where
  load : after.load = before.load
  isolation : after.isolation = before.isolation
  ttl : after.health.ttl = before.health.ttl
  recorded : after.health.records.keys = before.health.records.keys
  records : ∀ agent h, before.health.get? agent = some h →
    after.health.get? agent = some h ∨
    ∃ heard, h.lastHeartbeat = some heard ∧ before.health.ttl < now.since heard ∧
      after.health.get? agent =
        some (h.marked .unhealthy false (some "heartbeat_ttl_expired") now)

namespace Fleet

variable {before between after : Fleet} {now : Moment}

theorem OnlyDemotes.refl (fleet : Fleet) (now : Moment) : fleet.OnlyDemotes fleet now where
  load := rfl
  isolation := rfl
  ttl := rfl
  recorded := rfl
  records := fun _ _ hget => .inl hget

theorem OnlyDemotes.trans (hfirst : before.OnlyDemotes between now)
    (hsecond : between.OnlyDemotes after now) : before.OnlyDemotes after now where
  load := hsecond.load.trans hfirst.load
  isolation := hsecond.isolation.trans hfirst.isolation
  ttl := hsecond.ttl.trans hfirst.ttl
  recorded := hsecond.recorded.trans hfirst.recorded
  records := by
    intro agent h hget
    rcases hfirst.records agent h hget with hsame | ⟨heard, hheard, hlate, hmarked⟩
    · have hlater := hsecond.records agent h hsame
      rwa [hfirst.ttl] at hlater
    · -- To be marked in the same way once more at the same moment makes no difference.
      refine .inr ⟨heard, hheard, hlate, ?_⟩
      rcases hsecond.records agent _ hmarked with hkept | ⟨_, _, _, hagain⟩
      · exact hkept
      · exact hagain

theorem onlyDemotes_checked (fleet : Fleet) (agent : String) (now : Moment) :
    fleet.OnlyDemotes (fleet.checked agent now) now := by
  unfold checked
  split
  · exact .refl fleet now
  · constructor
    case load | isolation | ttl => rfl
    case recorded => exact Table.keys_modify ..
    case records =>
      intro other h hget
      rw [HealthBook.get?_checked, hget]
      by_cases hlooked : other = agent ∧ h.isStale fleet.health.ttl now
      · obtain ⟨heard, hheard, hlate⟩ := AgentHealth.isStale_iff.mp hlooked.2
        refine .inr ⟨heard, hheard, hlate, ?_⟩
        rw [if_pos hlooked.1, Option.map_some, AgentHealth.checked_of_stale hlooked.2]
      · left
        split
        next hother => simp [AgentHealth.checked, (not_and.mp hlooked) hother]
        next => rfl

end Fleet

namespace Router

/-- The table of agents after registrations one after the other. -/
def listing (registrations : List Registration) : Table String Registration :=
  registrations.foldl (fun agents registration => agents.put registration.name registration) .empty

/-- The latest registration of a name. -/
def latestOf (registrations : List Registration) (name : String) : Option Registration :=
  (registrations.filter fun registration => registration.name = name).getLast?

/-- The agent that a command would go to. -/
def route (r : Router) (command : String) (now : Moment) : Option String :=
  (r.select command now).2.map Registration.name

/-- A payload asks for a command, up to blanks around it. -/
def Asks (payload : Json) (command : String) : Prop :=
  ∃ text, payload.get? "command" = some (.str text) ∧ Text.trim text = command

/-- An agent as it was last registered, which lists the command and may be given work. -/
structure Fits (registrations : List Registration) (fleet : Fleet) (command : String)
    (now : Moment) (agent : Registration) : Prop where
  latest : latestOf registrations agent.name = some agent
  capable : command ∈ agent.capabilities
  eligible : fleet.isEligible agent.name now

/-- The agent that fits and before which no other is listed that does. -/
structure FirstFit (registrations : List Registration) (r : Router) (command : String)
    (now : Moment) (agent : Registration) : Prop where
  fits : Fits registrations r.fleet command now agent
  first : ∃ before after, r.names = before ++ agent.name :: after ∧
    ∀ other, other.name ∈ before → ¬ Fits registrations r.fleet command now other

section Listing

variable {registrations : List Registration}

theorem listing_concat (registrations : List Registration) (last : Registration) :
    listing (registrations ++ [last]) = (listing registrations).put last.name last := by
  simp [listing]

theorem get?_listing (registrations : List Registration) (name : String) :
    (listing registrations).get? name = latestOf registrations name := by
  induction registrations using List.reverseRecOn with
  | nil => rfl
  | append_singleton before last ih =>
      rw [listing_concat, Table.get?_put, ih, latestOf, latestOf, List.filter_append]
      by_cases hname : name = last.name
      · simp [hname]
      · simp [hname, Ne.symm hname]

theorem mem_keys_listing {name : String} : name ∈ (listing registrations).keys ↔
    ∃ registration ∈ registrations, registration.name = name := by
  rw [← not_iff_not, ← Table.get?_eq_none_iff, get?_listing, latestOf, List.getLast?_eq_none_iff,
    List.filter_eq_nil_iff]
  simp

/-- An agent is listed where its name was first registered. -/
theorem ordered_listing (registrations : List Registration) :
    (listing registrations).keys.Pairwise fun a b =>
      (registrations.map Registration.name).idxOf a <
        (registrations.map Registration.name).idxOf b := by
  induction registrations using List.reverseRecOn with
  | nil => exact List.Pairwise.nil
  | append_singleton before last ih =>
      have hknown : ∀ {name : String}, name ∈ (listing before).keys →
          name ∈ before.map Registration.name := by
        intro name hname
        obtain ⟨registration, hmem, hsame⟩ := mem_keys_listing.mp hname
        exact List.mem_map.mpr ⟨registration, hmem, hsame⟩
      -- The names that were known before are still where they first came.
      have hkept : (listing before).keys.Pairwise fun a b =>
          ((before ++ [last]).map Registration.name).idxOf a <
            ((before ++ [last]).map Registration.name).idxOf b := by
        refine ih.imp_of_mem ?_
        intro a b ha hb hlt
        rwa [List.map_append, List.idxOf_append_of_mem (hknown ha),
          List.idxOf_append_of_mem (hknown hb)]
      rw [listing_concat]
      by_cases hlast : last.name ∈ (listing before).keys
      · rwa [Table.keys_put_of_mem hlast]
      · rw [Table.keys_put_of_not_mem hlast, List.pairwise_append]
        refine ⟨hkept, List.pairwise_singleton .., ?_⟩
        intro a ha b hb
        have hnew : last.name ∉ before.map Registration.name := by
          intro hmem
          obtain ⟨registration, hbefore, hsame⟩ := List.mem_map.mp hmem
          exact hlast (mem_keys_listing.mpr ⟨registration, hbefore, hsame⟩)
        rw [List.mem_singleton.mp hb, List.map_append, List.idxOf_append_of_mem (hknown ha),
          List.idxOf_append_of_notMem hnew]
        exact Nat.lt_add_right _ (List.idxOf_lt_length_of_mem (hknown ha))

theorem name_of_latestOf {name : String} {registration : Registration}
    (hlatest : latestOf registrations name = some registration) : registration.name = name := by
  simpa using List.of_mem_filter (List.mem_of_getLast? hlatest)

/-- Every agent stands under its own name. -/
theorem keys_listing (registrations : List Registration) :
    (listing registrations).keys = (listing registrations).values.map Registration.name := by
  rw [Table.keys, Table.values, List.map_map]
  refine List.map_congr_left ?_
  rintro ⟨name, registration⟩ hentry
  have hget := Table.get?_eq_some_iff.mpr hentry
  rw [get?_listing] at hget
  exact (name_of_latestOf hget).symm

theorem mem_values_listing {agent : Registration} :
    agent ∈ (listing registrations).values ↔ latestOf registrations agent.name = some agent := by
  rw [← get?_listing, Table.get?_eq_some_iff, Table.values, List.mem_map]
  constructor
  · rintro ⟨⟨name, registration⟩, hentry, rfl⟩
    have hget := Table.get?_eq_some_iff.mpr hentry
    rw [get?_listing] at hget
    rwa [name_of_latestOf hget]
  · intro hentry
    exact ⟨(agent.name, agent), hentry, rfl⟩

end Listing

section Search

variable {r : Router} {fleet : Fleet} {command : String} {now : Moment} {agent : Registration}
  {registrations : List Registration}

/-- What the search writes down does not change what it finds. -/
theorem found_firstEligible (fleet : Fleet) (now : Moment) (candidates : List Registration) :
    (firstEligible fleet now candidates).2 =
      candidates.find? fun agent => fleet.isEligible agent.name now := by
  induction candidates generalizing fleet with
  | nil => rfl
  | cons first rest ih =>
      cases heligible : fleet.isEligible first.name now with
      | true => simp [firstEligible, heligible]
      | false => simp [firstEligible, heligible, ih, Fleet.isEligible_checked]

theorem found_select (r : Router) (command : String) (now : Moment) :
    (r.select command now).2 = r.agents.values.find? fun agent =>
      agent.handles command && r.fleet.isEligible agent.name now := by
  simp [select, found_firstEligible, List.find?_filter]

theorem fits_iff (hagents : r.agents = listing registrations) :
    Fits registrations r.fleet command now agent ↔ agent ∈ r.agents.values ∧
      (agent.handles command && r.fleet.isEligible agent.name now) = true := by
  rw [hagents, mem_values_listing, Registration.handles, Bool.and_eq_true, List.contains_iff_mem]
  exact ⟨fun hfits => ⟨hfits.latest, hfits.capable, hfits.eligible⟩,
    fun ⟨hlatest, hcapable, heligible⟩ => ⟨hlatest, hcapable, heligible⟩⟩

/-- Of each name only the latest registration is listed. -/
theorem Fits.eq_of_name {same : Registration}
    (hfits : Fits registrations fleet command now agent)
    (hagents : r.agents = listing registrations) (hmem : same ∈ r.agents.values)
    (hname : same.name = agent.name) : same = agent := by
  rw [hagents, mem_values_listing, hname, hfits.latest] at hmem
  exact (Option.some.inj hmem).symm

theorem select_eq_some_iff (hagents : r.agents = listing registrations) :
    (r.select command now).2 = some agent ↔ FirstFit registrations r command now agent := by
  have hnames : r.names = r.agents.values.map Registration.name := by
    rw [names, hagents, keys_listing]
  rw [found_select, List.find?_eq_some_iff_append]
  constructor
  · rintro ⟨hpasses, before, after, hvalues, hbefore⟩
    have hmem : agent ∈ r.agents.values := by simp [hvalues]
    refine ⟨(fits_iff hagents).mpr ⟨hmem, hpasses⟩, before.map Registration.name,
      after.map Registration.name, by simp [hnames, hvalues], ?_⟩
    intro other hother hfits
    obtain ⟨same, hsame, hname⟩ := List.mem_map.mp hother
    obtain rfl := hfits.eq_of_name hagents (by simp [hvalues, hsame]) hname
    have hfails := hbefore same hsame
    rw [((fits_iff hagents).mp hfits).2] at hfails
    contradiction
  · rintro ⟨hfits, before, after, hsplit, hbefore⟩
    refine ⟨((fits_iff hagents).mp hfits).2, ?_⟩
    rw [hnames, List.map_eq_append_iff] at hsplit
    obtain ⟨others, rest, hvalues, rfl, hrest⟩ := hsplit
    obtain ⟨same, behind, rfl, hname, -⟩ := List.map_eq_cons_iff.mp hrest
    obtain rfl := hfits.eq_of_name hagents (by simp [hvalues]) hname
    refine ⟨others, behind, hvalues, ?_⟩
    intro other hother
    have hlisted : other ∈ r.agents.values := by simp [hvalues, hother]
    have hunfit := hbefore other (List.mem_map_of_mem hother)
    rw [fits_iff hagents, not_and] at hunfit
    simpa only [Bool.not_eq_true', Bool.not_eq_true] using hunfit hlisted

theorem select_eq_none_iff (hagents : r.agents = listing registrations) :
    (r.select command now).2 = none ↔
      ∀ agent, ¬ Fits registrations r.fleet command now agent := by
  rw [found_select, List.find?_eq_none]
  exact forall_congr' fun agent => by rw [fits_iff hagents, not_and]

end Search

theorem onlyDemotes_lookedAt (fleet : Fleet) (now : Moment) (agents : List String) :
    fleet.OnlyDemotes (lookedAt fleet now agents) now := by
  induction agents generalizing fleet with
  | nil => exact .refl fleet now
  | cons agent rest ih =>
      exact (fleet.onlyDemotes_checked agent now).trans (ih (fleet.checked agent now))

/-- Choosing an agent changes nothing except that it writes down expired heartbeats. -/
theorem exists_onlyDemotes_select (r : Router) (command : String) (now : Moment) :
    ∃ fleet, (r.select command now).1 = { r with fleet := fleet } ∧
      r.fleet.OnlyDemotes fleet now := by
  obtain ⟨agents, found, hfirst, -⟩ := firstEligible_cases r.fleet now
    (r.agents.values.filter fun agent => agent.handles command)
  refine ⟨lookedAt r.fleet now agents, by simp [select, hfirst], ?_⟩
  exact onlyDemotes_lookedAt r.fleet now agents

section Execution

variable {r : Router} {env : Environment} {chosenAt : Moment} {stamp : Stamp} {command : String}
  {payload : Json} {agent : Registration}

/-- An agent is the one that a command went to: what is reported names it, and what is called is its
adapter at the target of its binding. -/
inductive Employs (env : Environment) (stamp : Stamp) (command : String) (payload : Json)
    (agent : Registration) : Dispatch → Prop where
  | unresolved (fault : Fault) (hresolve : Binding.resolve env agent.executor = .error fault) :
      Employs env stamp command payload agent
        (.reported ⟨false, none, some agent.name, none, some "executor_binding_unresolved",
          some fault.text⟩)
  | refused (target : String) (error : LoadError)
      (hresolve : Binding.resolve env agent.executor = .ok target) :
      Employs env stamp command payload agent
        (.reported ⟨false, none, some agent.name, none, some "backpressure_rejected",
          some error.message⟩)
  | called (target : String) (hresolve : Binding.resolve env agent.executor = .ok target) :
      Employs env stamp command payload agent
        (.running ⟨⟨stamp.id, agent.name, command, payload⟩, target, agent.adapter⟩)

theorem employs_engage (r : Router) (env : Environment) (stamp : Stamp) (command : String)
    (payload : Json) (agent : Registration) :
    Employs env stamp command payload agent (r.engage env stamp command payload agent).2 := by
  unfold engage
  cases hresolve : Binding.resolve env agent.executor with
  | error fault => exact .unresolved fault hresolve
  | ok target =>
      cases hreserve : r.fleet.load.reserve agent.name stamp.now with
      | error e => exact .refused target e hresolve
      | ok given => exact .called target hresolve

theorem commandOf_of_asks (hasks : Asks payload command) (hcommand : command ≠ "") :
    commandOf payload = some command := by
  obtain ⟨text, hfield, rfl⟩ := hasks
  simp [commandOf, hfield, Json.text?, hcommand]

theorem commandOf_of_blank (hblank : Asks payload "") : commandOf payload = none := by
  obtain ⟨text, hfield, htrim⟩ := hblank
  simp [commandOf, hfield, Json.text?, htrim]

/-- How a router goes about a command after some registrations. -/
structure Routes (registrations : List Registration) (r : Router) : Prop where
  nodup : r.names.Nodup
  listed : ∀ name, name ∈ r.names ↔ ∃ registration ∈ registrations, registration.name = name
  /-- The names stand in the order in which they first came. -/
  ordered : r.names.Pairwise fun a b =>
    (registrations.map Registration.name).idxOf a < (registrations.map Registration.name).idxOf b
  chosen : ∀ command now agent,
    (r.select command now).2 = some agent ↔ FirstFit registrations r command now agent
  nobody : ∀ command now,
    (r.select command now).2 = none ↔ ∀ agent, ¬ Fits registrations r.fleet command now agent
  routed : ∀ command now name, r.route command now = some name ↔
    ∃ agent, agent.name = name ∧ FirstFit registrations r command now agent
  /-- An execution goes on with the registration that was chosen. -/
  called : ∀ env chosenAt stamp payload command agent, Asks payload command → command ≠ "" →
    FirstFit registrations r command chosenAt agent →
    r.executeFrom env chosenAt stamp payload =
      (r.select command chosenAt).1.engage env stamp command payload agent
  /-- Whatever others do in between, it is this agent that is called or reported on. -/
  employed : ∀ (interim : Router) env stamp command payload agent,
    Employs env stamp command payload agent (interim.engage env stamp command payload agent).2
  /-- If nobody does anything in between, the agent is not turned away from. -/
  prompt : ∀ env chosenAt stamp payload command agent, Asks payload command → command ≠ "" →
    FirstFit registrations r command chosenAt agent → chosenAt ≤ stamp.now →
    Engaged (r.select command chosenAt).1 env stamp command payload agent
      (r.executeFrom env chosenAt stamp payload)
  uncalled : ∀ env chosenAt stamp payload command, Asks payload command → command ≠ "" →
    (∀ agent, ¬ Fits registrations r.fleet command chosenAt agent) →
    r.executeFrom env chosenAt stamp payload = ((r.select command chosenAt).1,
      .reported (.rejected "no_available_agent_or_backpressure"))
  blank : ∀ env chosenAt stamp payload, Asks payload "" →
    r.executeFrom env chosenAt stamp payload = (r, .reported (.rejected "missing_command"))
  once : ∀ env stamp payload,
    r.execute env stamp payload = r.executeFrom env stamp.now stamp payload
  demotes : ∀ command now, ∃ fleet, (r.select command now).1 = { r with fleet := fleet } ∧
    r.fleet.OnlyDemotes fleet now

variable {registrations : List Registration}

theorem executeFrom_of_asks (r : Router) (env : Environment) (chosenAt : Moment) (stamp : Stamp)
    (hasks : Asks payload command) (hcommand : command ≠ "") :
    r.executeFrom env chosenAt stamp payload =
      match (r.select command chosenAt).2 with
      | none => ((r.select command chosenAt).1,
          .reported (.rejected "no_available_agent_or_backpressure"))
      | some agent =>
        (r.select command chosenAt).1.engage env stamp command payload agent := by
  simp only [executeFrom, commandOf_of_asks hasks hcommand]
  rcases r.select command chosenAt with ⟨after, _ | agent⟩ <;> rfl

/-- Whoever is eligible can accept work, and choosing does not touch anybody's load. -/
theorem engaged_select (heligible : r.fleet.isEligible agent.name chosenAt)
    (hclock : chosenAt ≤ stamp.now) :
    Engaged (r.select command chosenAt).1 env stamp command payload agent
      ((r.select command chosenAt).1.engage env stamp command payload agent) := by
  obtain ⟨fleet, hselect, hdemotes⟩ := r.exists_onlyDemotes_select command chosenAt
  refine engaged (Fleet.isEligible_iff.mp heligible).2.2 ?_ hclock
  rw [hselect, hdemotes.load]

theorem routes_of_agents (hagents : r.agents = listing registrations) :
    Routes registrations r where
  nodup := r.agents.nodup
  listed := by
    intro name
    rw [names, hagents]
    exact mem_keys_listing
  ordered := by
    rw [names, hagents]
    exact ordered_listing registrations
  chosen := fun _ _ _ => select_eq_some_iff hagents
  nobody := fun _ _ => select_eq_none_iff hagents
  routed := by
    intro command now name
    rw [route, Option.map_eq_some_iff]
    exact exists_congr fun agent => by rw [select_eq_some_iff hagents, and_comm]
  called := by
    intro env chosenAt stamp payload command agent hasks hcommand hfirst
    rw [r.executeFrom_of_asks env chosenAt stamp hasks hcommand,
      (select_eq_some_iff hagents).mpr hfirst]
  employed := employs_engage
  prompt := by
    intro env chosenAt stamp payload command agent hasks hcommand hfirst hclock
    rw [r.executeFrom_of_asks env chosenAt stamp hasks hcommand,
      (select_eq_some_iff hagents).mpr hfirst]
    exact engaged_select hfirst.fits.eligible hclock
  uncalled := by
    intro env chosenAt stamp payload command hasks hcommand hnobody
    rw [r.executeFrom_of_asks env chosenAt stamp hasks hcommand,
      (select_eq_none_iff hagents).mpr hnobody]
  blank := by
    intro env chosenAt stamp payload hblank
    rw [executeFrom, commandOf_of_blank hblank]
  once := r.execute_eq
  demotes := r.exists_onlyDemotes_select

end Execution

end Router

namespace Deployment

open Router (listing)

/-- The registration that an action makes. -/
def Action.registration? : Action → Option Registration
  | .register registration _ => some registration
  | _ => none

theorem agents_nextProbe (env : Environment) (now : Moment) (answered : Nat)
    (remaining : List Registration) (r : Router) :
    (Router.nextProbe env now answered remaining r).1.agents = r.agents := by
  induction remaining generalizing r with
  | nil => rfl
  | cons agent rest ih =>
      rw [Router.nextProbe]
      split
      · rfl
      · exact ih _

theorem agents_markProbe (r : Router) (agent : String) (now : Moment)
    (answer : Except Fault Unit) : (r.markProbe agent now answer).agents = r.agents := by
  cases answer <;> rfl

theorem agents_finished (r : Router) (execution : Execution) (now : Moment)
    (answer : Except Fault Json) : (r.finished execution now answer).1.agents = r.agents := by
  cases answer with
  | ok result => rfl
  | error fault =>
      simp only [Router.finished]
      split <;> rfl

theorem agents_execute (r : Router) (env : Environment) (stamp : Stamp) (payload : Json) :
    (r.execute env stamp payload).1.agents = r.agents := by
  have hexecuted := r.executed env stamp payload
  generalize r.execute env stamp payload = after at hexecuted ⊢
  cases hexecuted <;> rfl

/-- Only a registration changes what is known about agents apart from the books. -/
theorem agents_step (d : Deployment) (action : Action) :
    (d.step action).router.agents =
      action.registration?.elim d.router.agents fun registration =>
        d.router.agents.put registration.name registration := by
  cases action with
  | execute ticket env stamp payload =>
      simp only [step, Action.registration?, Option.elim_none]
      have hkept := agents_execute d.router env stamp payload
      split
      · split
        next router report heq => rw [← hkept, heq]
        next router execution heq => rw [← hkept, heq]
      · rfl
  | answer ticket now answer =>
      simp only [step]
      split
      · exact agents_finished ..
      · rfl
  | drop =>
      simp only [step]
      split <;> rfl
  | probe =>
      simp only [step]
      split
      · rfl
      · exact agents_nextProbe ..
  | probed =>
      simp only [step]
      split
      · exact (agents_nextProbe ..).trans (agents_markProbe ..)
      · rfl
  | route command now =>
      obtain ⟨fleet, hselect, -⟩ := d.router.exists_onlyDemotes_select command now
      change (d.router.select command now).1.agents = d.router.agents
      rw [hselect]
  | _ => rfl

theorem agents_run (ttl : Span) (policy : LoadPolicy) (actions : List Action) :
    ((start ttl policy).run actions).router.agents =
      listing (actions.filterMap Action.registration?) := by
  induction actions using List.reverseRecOn with
  | nil => rfl
  | append_singleton before last ih =>
      have hrun : (start ttl policy).run (before ++ [last]) =
          ((start ttl policy).run before).step last := by simp [run]
      rw [hrun, agents_step, ih, List.filterMap_append]
      cases hlast : last.registration? with
      | none => simp [hlast]
      | some registration => simp [hlast, Router.listing_concat]

/-- After any run, and whatever the books say, commands go to the agents that were registered
first. -/
theorem run_routes (ttl : Span) (policy : LoadPolicy) (actions : List Action) (fleet : Fleet) :
    Router.Routes (actions.filterMap Action.registration?)
      { ((start ttl policy).run actions).router with fleet := fleet } :=
  Router.routes_of_agents (agents_run ttl policy actions)

/-- Of two agents the first is registered once more, at another place and for another command. It
keeps its rank, and the command that it no longer lists goes to the second. -/
example :
    let router := ((start (.ofSeconds 120) ⟨1, .ofSeconds 60, 1⟩).run [
      .register ⟨"B", ["create_page"], "http://b.local", none, ⟨0⟩⟩ (.ofNanos 0),
      .register ⟨"A", ["create_page", "notify"], "http://a.local", none, ⟨1⟩⟩ (.ofNanos 0),
      .register ⟨"B", ["notify"], "http://b.other", none, ⟨2⟩⟩ (.ofNanos 0),
      .mark "A" .heartbeat (.ofNanos 0), .mark "B" .heartbeat (.ofNanos 0)]).router
    router.names = ["B", "A"] ∧ router.route "create_page" (.ofNanos 1) = some "A" ∧
    (router.execute (.ofList []) ⟨.ofNanos 1, "id", "event", "token"⟩
      (.obj [("command", .str " notify ")])).2 = .running
        ⟨⟨"id", "B", "notify", .obj [("command", .str " notify ")]⟩, "http://b.other", ⟨2⟩⟩ := by
  decide +kernel

end Deployment

end Gatehouse
