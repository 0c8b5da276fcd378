import Gatehouse.Application
import Gatehouse.Proofs.Agent.Fitness
import Gatehouse.Proofs.Agent.Routing
import Gatehouse.Proofs.Steps
import Gatehouse.Proofs.Tables

/-! # From settings to a system

Settings are checked by trimmed names and trimmed bindings; agents are
registered, and found again, by the names and bindings as they are. Both agree.
Names that differ when trimmed differ, so that no agent takes the place of
another; and a binding that passes is resolved to what it was checked for: a
target of the web, or the variable whose name was not blank.
-/

namespace Gatehouse

theorem ConfigRule.kept_iff {rule : ConfigRule} {kept : Prop} [Decidable kept] :
    rule.unless kept = .ok () ↔ kept := by
  unfold ConfigRule.unless
  split <;> simp [*]

namespace AgentConfig

variable {a : AgentConfig} {agents others : List AgentConfig}

/-- An agent that keeps the rules, apart from those about other agents. -/
structure Valid (a : AgentConfig) : Prop where
  named : a.trimmedName ≠ ""
  capable : a.capabilities.any fun capability => !Text.isBlankText capability
  reachable : a.hasValidExecutor
  roomy : a.maxConcurrency ≠ some 0
  secretive : a.authToken.all fun token => !Text.isBlankText token

theorem validate_eq_ok_iff {seen : List String} :
    a.validate seen = .ok () ↔ a.Valid ∧ a.trimmedName ∉ seen := by
  simp only [validate, seq_eq_ok_iff, ConfigRule.kept_iff]
  exact ⟨fun ⟨hnamed, hnew, hcapable, hreachable, hroomy, hsecretive⟩ =>
      ⟨⟨hnamed, hcapable, hreachable, hroomy, hsecretive⟩, hnew⟩,
    fun ⟨⟨hnamed, hcapable, hreachable, hroomy, hsecretive⟩, hnew⟩ =>
      ⟨hnamed, hnew, hcapable, hreachable, hroomy, hsecretive⟩⟩

theorem validateAll_eq_ok_iff {seen : List String} : validateAll seen agents = .ok () ↔
    (∀ a ∈ agents, a.Valid) ∧ (agents.map trimmedName).Nodup ∧
      ∀ a ∈ agents, a.trimmedName ∉ seen := by
  induction agents generalizing seen with
  | nil => simp [validateAll]
  | cons first rest ih =>
      rw [validateAll, seq_eq_ok_iff, validate_eq_ok_iff, ih, List.forall_mem_cons,
        List.forall_mem_cons, List.map_cons, List.nodup_cons]
      simp only [List.mem_cons, not_or, List.mem_map, not_exists, not_and]
      constructor
      · rintro ⟨⟨hfirst, hnew⟩, hrest, hdistinct, hseen⟩
        exact ⟨⟨hfirst, hrest⟩, ⟨fun a ha => (hseen a ha).1, hdistinct⟩, hnew,
          fun a ha => (hseen a ha).2⟩
      · rintro ⟨⟨hfirst, hrest⟩, ⟨hother, hdistinct⟩, hnew, hseen⟩
        exact ⟨⟨hfirst, hnew⟩, hrest, hdistinct, fun a ha => ⟨hother a ha, hseen a ha⟩⟩

theorem validateAll_perm (hperm : agents.Perm others) :
    validateAll [] agents = .ok () ↔ validateAll [] others = .ok () := by
  simp only [validateAll_eq_ok_iff, hperm.mem_iff, (hperm.map trimmedName).nodup_iff]

/-- What the binding of an agent can come to while its variables are what they are. -/
inductive Resolves (a : AgentConfig) (env : Environment) : Except Fault String → Prop where
  | literal (hweb : "http://".toList <+: (Text.trim a.executor).toList ∨
      "https://".toList <+: (Text.trim a.executor).toList) :
      Resolves a env (.ok (Text.trim a.executor))
  | fetched (name value : String) (hbinding : Text.trim a.executor = "ENV:" ++ name)
      (hname : Text.trim name ≠ "") (hset : env.get? (Text.trim name) = some value)
      (hvalue : Text.trim value ≠ "") : Resolves a env (.ok (Text.trim value))
  | unresolved (name : String) (hbinding : Text.trim a.executor = "ENV:" ++ name)
      (hname : Text.trim name ≠ "")
      (hunset : ∀ value, env.get? (Text.trim name) = some value → Text.trim value = "") :
      Resolves a env (.error ⟨"BindingUnresolved",
        "environment variable `" ++ Text.trim name ++ "` is not set"⟩)

theorem Valid.resolves (hvalid : a.Valid) (env : Environment) :
    a.Resolves env (Binding.resolve env a.executor) := by
  have hreachable := hvalid.reachable
  unfold Binding.resolve
  unfold hasValidExecutor at hreachable
  cases hparse : Binding.parse a.executor with
  | literal target =>
      simp only [hparse, Bool.or_eq_true, List.isPrefixOf_iff_prefix] at hreachable
      have htarget : target = Text.trim a.executor := by
        unfold Binding.parse at hparse
        split at hparse
        next => contradiction
        next => exact (Binding.literal.inj hparse).symm
      subst htarget
      exact .literal hreachable
  | variableNamed name =>
      have hbinding : ∃ raw, Text.trim a.executor = "ENV:" ++ raw ∧ Text.trim raw = name := by
        unfold Binding.parse at hparse
        split at hparse
        next raw htrimmed =>
          refine ⟨String.ofList raw, ?_, ?_⟩
          · rw [Text.trim, htrimmed, ← String.toList_inj]
            simp
          · rw [← Binding.variableNamed.inj hparse, Text.trim, String.toList_ofList]
        next => contradiction
      obtain ⟨raw, hbinding, rfl⟩ := hbinding
      have hname : Text.trim raw ≠ "" := by
        simpa [hparse] using hreachable
      rw [Binding.target]
      cases hset : env.get? (Text.trim raw) with
      | none => exact .unresolved raw hbinding hname (by simp [hset])
      | some value =>
          simp only [Option.map_some]
          split
          next hblank => exact .unresolved raw hbinding hname (by simp [hset, hblank])
          next hvalue => exact .fetched raw value hbinding hname hset hvalue

end AgentConfig

/-- Agents with different names are listed as they were registered. -/
theorem Router.entries_listing {registrations : List Registration}
    (hdistinct : (registrations.map Registration.name).Nodup) :
    (listing registrations).entries = registrations.map fun agent => (agent.name, agent) := by
  induction registrations using List.reverseRecOn with
  | nil => rfl
  | append_singleton before last ih =>
      rw [List.map_append, List.nodup_append] at hdistinct
      obtain ⟨hbefore, -, hother⟩ := hdistinct
      have hnew : last.name ∉ (listing before).keys := by
        intro hmem
        obtain ⟨agent, hagent, hname⟩ := mem_keys_listing.mp hmem
        exact hother _ (List.mem_map_of_mem hagent) _ (by simp) hname
      rw [listing_concat, Table.entries_put_of_not_mem hnew, ih hbefore, List.map_append]
      rfl

namespace Deployment

variable {d : Deployment} {registrations : List Registration} {now : Moment}

/-- Registers agents one after the other. -/
def enrolled (d : Deployment) (registrations : List Registration) (now : Moment) : Deployment :=
  d.run (registrations.map fun registration => .register registration now)

theorem enrolled_concat (d : Deployment) (registrations : List Registration)
    (last : Registration) (now : Moment) :
    d.enrolled (registrations ++ [last]) now =
      (d.enrolled registrations now).step (.register last now) := by
  simp [enrolled, run]

/-- The ceiling of an agent is the one it was registered with, if no other agent has its name. -/
theorem ceiling?_enrolled (d : Deployment) (now : Moment)
    (hdistinct : (registrations.map Registration.name).Nodup) {agent : Registration}
    (hagent : agent ∈ registrations) :
    (d.enrolled registrations now).load.ceiling? agent.name =
      some (d.load.ceiling agent.maxConcurrency) := by
  induction registrations using List.reverseRecOn with
  | nil => contradiction
  | append_singleton before last ih =>
      rw [List.map_append, List.nodup_append] at hdistinct
      obtain ⟨hbefore, -, hother⟩ := hdistinct
      rw [enrolled_concat]
      refine (LoadBook.ceiling?_register ..).trans ?_
      rcases List.mem_append.mp hagent with hearlier | hlast
      · rw [if_neg (hother _ (List.mem_map_of_mem hearlier) _ (by simp))]
        exact ih hbefore hearlier
      · obtain rfl := List.mem_singleton.mp hlast
        rw [if_pos rfl, LoadBook.ceiling, LoadBook.ceiling]
        have hpolicy := d.policy_run (before.map fun registration => .register registration now)
        exact congrArg (fun policy : LoadPolicy =>
          some (max (agent.maxConcurrency.getD policy.defaultMaxConcurrency) 1)) hpolicy

/-- Nobody is healthy without a heartbeat. -/
theorem Known.isHealthy_eq_false {ttl : Span} (hknown : d.Known ttl) {agent : String}
    (hunheard : ∀ heard, .marked agent .heartbeat heard ∉ d.history) (now : Moment) :
    d.health.isHealthy agent now = false := by
  rw [Bool.eq_false_iff]
  intro hhealthy
  obtain ⟨heard, hsince, -⟩ := HealthBook.isHealthy_iff.mp hhealthy
  obtain ⟨event, hevent, hmark⟩ :=
    List.mem_filterMap.mp (List.mem_of_getLast? (hknown.healthy agent heard hsince))
  cases event with
  | marked other said moment =>
      simp only [AgentEvent.mark?, Option.ite_none_right_eq_some, Option.some.injEq,
        Prod.mk.injEq] at hmark
      obtain ⟨rfl, rfl, rfl⟩ := hmark
      exact hunheard _ hevent
  | _ => contradiction

end Deployment

namespace Config

variable {c : Config} {now : Moment}

/-- The configured agents as they are registered. -/
def registrations (c : Config) : List Registration :=
  c.agents.zipIdx.map fun (a, place) => a.registration place

/-- The router of the system before anybody has used it. -/
def deployment (c : Config) (now : Moment) : Deployment :=
  (Deployment.start (Fleet.spanOfMillis c.fleetSettings.heartbeatTtlMillis)
    (Fleet.new c.fleetSettings).load.policy).enrolled c.registrations now

theorem router_deployment (c : Config) (now : Moment) :
    (c.deployment now).router = (Application.wire c now).workshop.router := by
  have henrolled : ∀ (agents : List (AgentConfig × Nat)) (d : Deployment),
      (d.enrolled (agents.map fun (a, place) => a.registration place) now).router =
        agents.foldl (fun r (a, place) => r.register (a.registration place) now) d.router := by
    intro agents
    induction agents with
    | nil => exact fun d => rfl
    | cons first rest ih =>
        exact fun d => ih (d.step (.register (first.1.registration first.2) now))
  exact henrolled c.agents.zipIdx _

theorem names_registrations (c : Config) :
    c.registrations.map Registration.name = c.agents.map AgentConfig.name := by
  rw [registrations, List.map_map]
  have hplaced : (c.agents.zipIdx.map Prod.fst).map AgentConfig.name =
      c.agents.map AgentConfig.name := by rw [List.zipIdx_map_fst]
  rw [← hplaced, List.map_map]
  rfl

theorem exists_registration {a : AgentConfig} (ha : a ∈ c.agents) :
    ∃ place, a.registration place ∈ c.registrations := by
  rw [← List.zipIdx_map_fst 0 c.agents] at ha
  obtain ⟨⟨found, place⟩, hfound, rfl⟩ := List.mem_map.mp ha
  exact ⟨place, List.mem_map_of_mem hfound⟩

theorem of_validate (hvalid : c.validate = .ok ()) :
    0 < c.defaultMaxConcurrency ∧ AgentConfig.validateAll [] c.agents = .ok () := by
  simp only [validate, seq_eq_ok_iff, ConfigRule.kept_iff] at hvalid
  obtain ⟨-, -, -, -, -, -, -, -, hdefault, -, -, hagents, -⟩ := hvalid
  exact ⟨hdefault, hagents⟩

/-- Whether settings are accepted has to do with the order of the agents in nothing. -/
theorem validate_perm {agents : List AgentConfig} (hperm : agents.Perm c.agents) :
    ({ c with agents := agents } : Config).validate = .ok () ↔ c.validate = .ok () := by
  simp only [validate, seq_eq_ok_iff, AgentConfig.validateAll_perm hperm]

theorem distinct_names (hvalid : c.validate = .ok ()) :
    (c.registrations.map Registration.name).Nodup := by
  rw [names_registrations]
  obtain ⟨-, hdistinct, -⟩ := AgentConfig.validateAll_eq_ok_iff.mp (of_validate hvalid).2
  -- Names that are equal would be equal when trimmed.
  exact List.Nodup.of_map Text.trim (by rwa [List.map_map])

/-- What settings say about agents holds of the system that is made from them. -/
structure Carried (c : Config) (now : Moment) (app : Application) : Prop where
  /-- All configured agents are there, each as it is configured and in its place. -/
  listed : app.workshop.router.agents.values = c.registrations
  named : app.workshop.router.names = c.agents.map AgentConfig.name
  ceiled : ∀ a ∈ c.agents,
    app.workshop.router.fleet.load.ceiling? a.name =
      some (a.maxConcurrency.getD c.defaultMaxConcurrency) ∧
    1 ≤ a.maxConcurrency.getD c.defaultMaxConcurrency
  unused : (c.deployment now).router = app.workshop.router
  /-- Whatever the router is used for, an agent gets nothing to do before its first heartbeat. -/
  asleep : ∀ (actions : List Deployment.Action) (agent : String) (moment : Moment),
    (∀ heard, .marked agent .heartbeat heard ∉ ((c.deployment now).run actions).history) →
    ((c.deployment now).run actions).router.fleet.isEligible agent moment = false
  resolved : ∀ a ∈ c.agents, ∀ env, a.Resolves env (Binding.resolve env a.executor)

theorem carried_wire (hvalid : c.validate = .ok ()) (now : Moment) :
    c.Carried now (Application.wire c now) := by
  have hdistinct := distinct_names hvalid
  obtain ⟨hdefault, hagents⟩ := of_validate hvalid
  obtain ⟨hkept, -, -⟩ := AgentConfig.validateAll_eq_ok_iff.mp hagents
  have hlisting : (Application.wire c now).workshop.router.agents =
      Router.listing c.registrations := by
    have hregistered := Deployment.agents_run
      (Fleet.spanOfMillis c.fleetSettings.heartbeatTtlMillis)
      (Fleet.new c.fleetSettings).load.policy
      (c.registrations.map fun registration => .register registration now)
    rw [List.filterMap_map] at hregistered
    rw [← router_deployment]
    refine hregistered.trans (congrArg Router.listing ?_)
    exact List.filterMap_some
  have hentries := Router.entries_listing hdistinct
  constructor
  case listed =>
    rw [hlisting, Table.values, hentries, List.map_map]
    exact List.map_id _
  case named =>
    rw [Router.names, hlisting, Table.keys, hentries, List.map_map, ← names_registrations]
    rfl
  case ceiled =>
    intro a ha
    have hasked : 1 ≤ a.maxConcurrency.getD c.defaultMaxConcurrency := by
      have hroomy := (hkept a ha).roomy
      cases hwanted : a.maxConcurrency with
      | none => exact hdefault
      | some wanted =>
          rw [hwanted] at hroomy
          exact Nat.one_le_iff_ne_zero.mpr fun hzero => hroomy (congrArg some hzero)
    obtain ⟨place, hplace⟩ := exists_registration ha
    have hceiling := Deployment.ceiling?_enrolled (.start
      (Fleet.spanOfMillis c.fleetSettings.heartbeatTtlMillis)
      (Fleet.new c.fleetSettings).load.policy) now hdistinct hplace
    rw [← router_deployment]
    refine ⟨hceiling.trans (congrArg some ?_), hasked⟩
    change max (a.maxConcurrency.getD (max c.defaultMaxConcurrency 1)) 1 = _
    rw [Nat.max_eq_left hdefault, Nat.max_eq_left hasked]
  case unused => exact router_deployment c now
  case asleep =>
    intro actions agent moment hunheard
    have hknown : ((c.deployment now).run actions).Known _ :=
      Deployment.run_keeps Deployment.known_change
        (Deployment.run_keeps Deployment.known_change (Deployment.known_start _ _) _) actions
    have hunhealthy := hknown.isHealthy_eq_false hunheard moment
    change ((c.deployment now).run actions).router.fleet.health.isHealthy agent moment = _
      at hunhealthy
    rw [Fleet.isEligible, hunhealthy, Bool.and_false, Bool.false_and]
  case resolved => exact fun a ha env => (hkept a ha).resolves env

/-- Checking settings and making a system from them agree. -/
structure Faithful (c : Config) (now : Moment) : Prop where
  accepted : (∃ app, Application.ofConfig c now = .ok app) ↔ c.validate = .ok ()
  refused : ∀ rule, Application.ofConfig c now = .error rule ↔ c.validate = .error rule
  unordered : ∀ agents, agents.Perm c.agents →
    (({ c with agents := agents } : Config).validate = .ok () ↔ c.validate = .ok ())
  carried : ∀ app, Application.ofConfig c now = .ok app → c.Carried now app

/-- A system is made from exactly the settings that are accepted, in whatever order they list the
agents, and what they say about agents holds of it. -/
theorem ofConfig_faithful (c : Config) (now : Moment) : c.Faithful now where
  accepted := by
    constructor
    · rintro ⟨app, happ⟩
      exact (Application.ofConfig_eq_ok_iff.mp happ).1
    · intro hvalid
      exact ⟨_, Application.ofConfig_eq_ok_iff.mpr ⟨hvalid, rfl⟩⟩
  refused _ := Application.ofConfig_eq_error_iff
  unordered _ hperm := validate_perm hperm
  carried := by
    intro app happ
    obtain ⟨hvalid, rfl⟩ := Application.ofConfig_eq_ok_iff.mp happ
    exact carried_wire hvalid now

end Config

end Gatehouse
