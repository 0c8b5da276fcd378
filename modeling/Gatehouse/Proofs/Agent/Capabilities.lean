import Gatehouse.Proofs.Agent.Wiring

/-! # Capabilities

A capability counts as declared when it is not blank, whatever blanks stand
around it, and it is registered as it is. A command is looked for as it is when
somebody only asks where it would go, and without the blanks around it when it
is executed; either way it is compared with capabilities exactly. So a
capability with blanks around it can be asked for and not be executed: the text
that an execution looks for is one that the agent does not list, unless it
happens to list that one as well.
-/

namespace Gatehouse

theorem Text.isBlankText_eq_false_iff {s : String} : isBlankText s = false ↔ trim s ≠ "" := by
  rw [isBlankText, trim, Bool.eq_false_iff, Ne, List.isEmpty_iff, not_iff_not,
    ← String.toList_inj, String.toList_ofList]
  rfl

/-- A dispatch has to do with an agent: its adapter is called, or the report names it. -/
def Dispatch.Concerns (name : String) : Dispatch → Prop
  | .reported report => report.agent = some name
  | .running execution => execution.task.agent = name

namespace Router

variable {r : Router} {fleet : Fleet} {env : Environment} {chosenAt : Moment} {stamp : Stamp}
  {command name : String} {payload : Json} {agent : Registration}

theorem concerns_engage : (r.engage env stamp command payload agent).2.Concerns name ↔
    agent.name = name := by
  have hemploys := r.employs_engage env stamp command payload agent
  generalize (r.engage env stamp command payload agent).2 = dispatch at hemploys ⊢
  cases hemploys <;> simp [Dispatch.Concerns]

/-- An agent before which nobody is eligible is chosen for whatever it lists. -/
theorem select_of_first {before after : List Registration}
    (hvalues : r.agents.values = before ++ agent :: after) (hhandles : agent.handles command)
    (heligible : r.fleet.isEligible agent.name chosenAt)
    (hbefore : ∀ other ∈ before, r.fleet.isEligible other.name chosenAt = false) :
    (r.select command chosenAt).2 = some agent := by
  rw [found_select, List.find?_eq_some_iff_append]
  refine ⟨by simp [hhandles, heligible], before, after, hvalues, ?_⟩
  intro other hother
  simp [hbefore other hother]

/-- Whoever is chosen is listed and lists the command. -/
theorem of_select (hselect : (r.select command chosenAt).2 = some agent) :
    agent ∈ r.agents.values ∧ agent.handles command ∧
      r.fleet.isEligible agent.name chosenAt := by
  rw [found_select] at hselect
  have hfits := List.find?_some hselect
  rw [Bool.and_eq_true] at hfits
  exact ⟨List.mem_of_find?_eq_some hselect, hfits.1, hfits.2⟩

/-- Nobody is found when and only when nobody who lists the command is eligible. -/
theorem rejected_iff (hasks : Asks payload command) (hsome : command ≠ "") :
    (r.executeFrom env chosenAt stamp payload).2 =
        .reported (.rejected "no_available_agent_or_backpressure") ↔
      ∀ agent ∈ r.agents.values, agent.handles command →
        r.fleet.isEligible agent.name chosenAt = false := by
  have hnone : (r.select command chosenAt).2 = none ↔
      ∀ agent ∈ r.agents.values, agent.handles command →
        r.fleet.isEligible agent.name chosenAt = false := by
    rw [found_select, List.find?_eq_none]
    simp only [Bool.and_eq_true, not_and, Bool.not_eq_true]
  rw [← hnone, executeFrom_of_asks r env chosenAt stamp hasks hsome]
  cases hchosen : (r.select command chosenAt).2 with
  | none => simp
  | some agent =>
      have hconcerns : ((r.select command chosenAt).1.engage env stamp command payload
          agent).2.Concerns agent.name := concerns_engage.mpr rfl
      refine iff_of_false (fun hrejected => ?_) (by simp)
      simp only at hrejected
      rw [hrejected] at hconcerns
      contradiction

end Router

namespace Config

variable {c : Config} {now : Moment} {app : Application}

/-- An agent of the settings that is eligible while none before it is. -/
structure FirstEligible (c : Config) (fleet : Fleet) (moment : Moment) (a : AgentConfig) :
    Prop where
  eligible : fleet.isEligible a.name moment
  first : ∃ before after, c.agents = before ++ a :: after ∧
    ∀ other ∈ before, fleet.isEligible other.name moment = false

/-- Where the first eligible agent stands among the registrations. -/
theorem FirstEligible.registrations {fleet : Fleet} {moment : Moment} {a : AgentConfig}
    (hfirst : c.FirstEligible fleet moment a) :
    ∃ before place after, c.registrations = before ++ a.registration place :: after ∧
      ∀ other ∈ before, fleet.isEligible other.name moment = false := by
  obtain ⟨before, after, hagents, hbefore⟩ := hfirst.first
  have hplaced : c.agents.zipIdx =
      before.zipIdx ++ (a, before.length) :: after.zipIdx (before.length + 1) := by
    simp [hagents, List.zipIdx_append, List.zipIdx_cons]
  rw [Config.registrations, hplaced, List.map_append, List.map_cons]
  refine ⟨_, before.length, _, rfl, ?_⟩
  intro other hother
  obtain ⟨⟨earlier, place⟩, hearlier, rfl⟩ := List.mem_map.mp hother
  exact hbefore earlier (List.fst_mem_of_mem_zipIdx hearlier)

/-- A router with the agents of some settings exercises a capability by the text that an execution
looks for. -/
structure Exercised (c : Config) (r : Router) : Prop where
  /-- Every agent has a capability that is more than blanks. -/
  capable : ∀ a ∈ c.agents, ∃ capability ∈ a.capabilities, Text.trim capability ≠ ""
  /-- Whoever asks where a capability would go is told the first eligible agent that lists it. -/
  found : ∀ moment a capability, c.FirstEligible r.fleet moment a → capability ∈ a.capabilities →
    r.route capability moment = some a.name
  /-- To ask an agent for one of its capabilities has to do with the agent only if it lists the
  text without the blanks as well. -/
  reached_iff : ∀ env chosenAt stamp payload a capability, c.FirstEligible r.fleet chosenAt a →
    capability ∈ a.capabilities → Text.trim capability ≠ "" →
    Router.Asks payload (Text.trim capability) →
    ((r.executeFrom env chosenAt stamp payload).2.Concerns a.name ↔
      Text.trim capability ∈ a.capabilities)
  /-- If it does, its adapter is called or its binding is not resolved. -/
  engaged : ∀ env chosenAt stamp payload a command, c.FirstEligible r.fleet chosenAt a →
    command ∈ a.capabilities → command ≠ "" → Router.Asks payload command →
    chosenAt ≤ stamp.now →
    ∃ place, a.registration place ∈ c.registrations ∧
      (r.select command chosenAt).1.Engaged env stamp command payload (a.registration place)
        (r.executeFrom env chosenAt stamp payload)
  /-- Nobody is found when and only when no eligible agent lists the text without the blanks. -/
  refused_iff : ∀ env chosenAt stamp payload command, Router.Asks payload command →
    command ≠ "" →
    ((r.executeFrom env chosenAt stamp payload).2 =
        .reported (.rejected "no_available_agent_or_backpressure") ↔
      ∀ a ∈ c.agents, command ∈ a.capabilities → r.fleet.isEligible a.name chosenAt = false)

variable {r : Router}

theorem FirstEligible.select {moment : Moment} {a : AgentConfig} {capability : String}
    (hlisted : r.agents.values = c.registrations) (hfirst : c.FirstEligible r.fleet moment a)
    (hcapability : capability ∈ a.capabilities) :
    ∃ place, a.registration place ∈ c.registrations ∧
      (r.select capability moment).2 = some (a.registration place) := by
  obtain ⟨before, place, after, hvalues, hbefore⟩ := hfirst.registrations
  refine ⟨place, by simp [hvalues], ?_⟩
  exact Router.select_of_first (hlisted.trans hvalues) (List.contains_iff_mem.mpr hcapability)
    hfirst.eligible hbefore

theorem exercised (hvalid : c.validate = .ok ()) (hlisted : r.agents.values = c.registrations) :
    c.Exercised r := by
  obtain ⟨hkept, -, -⟩ := AgentConfig.validateAll_eq_ok_iff.mp (of_validate hvalid).2
  constructor
  case capable =>
    intro a ha
    obtain ⟨capability, hmem, hblank⟩ := List.any_eq_true.mp (hkept a ha).capable
    rw [Bool.not_eq_true'] at hblank
    exact ⟨capability, hmem, Text.isBlankText_eq_false_iff.mp hblank⟩
  case found =>
    intro moment a capability hfirst hcapability
    obtain ⟨place, -, hchosen⟩ := hfirst.select hlisted hcapability
    rw [Router.route, hchosen]
    rfl
  case reached_iff =>
    intro env chosenAt stamp payload a capability hfirst hcapability hsome hasks
    rw [Router.executeFrom_of_asks _ env chosenAt stamp hasks hsome]
    constructor
    · intro hconcerns
      split at hconcerns
      next => simp [Dispatch.Concerns, ExecutionReport.rejected] at hconcerns
      next agent hchosen =>
        -- Whoever was chosen lists the text, and there is one agent of that name.
        obtain ⟨hmem, hhandles, -⟩ := Router.of_select hchosen
        obtain ⟨place, hplace, -⟩ := hfirst.select hlisted hcapability
        have hsame := List.inj_on_of_nodup_map (distinct_names hvalid) (hlisted ▸ hmem) hplace
          (Router.concerns_engage.mp hconcerns)
        rw [hsame] at hhandles
        exact List.contains_iff_mem.mp hhandles
    · intro htrimmed
      obtain ⟨place, -, hchosen⟩ := hfirst.select hlisted htrimmed
      rw [hchosen]
      exact Router.concerns_engage.mpr rfl
  case engaged =>
    intro env chosenAt stamp payload a command hfirst hcommand hsome hasks hclock
    obtain ⟨place, hplace, hchosen⟩ := hfirst.select hlisted hcommand
    refine ⟨place, hplace, ?_⟩
    rw [Router.executeFrom_of_asks _ env chosenAt stamp hasks hsome, hchosen]
    exact Router.engaged_select hfirst.eligible hclock
  case refused_iff =>
    intro env chosenAt stamp payload command hasks hsome
    rw [Router.rejected_iff hasks hsome, hlisted]
    simp only [Registration.handles, List.contains_iff_mem]
    constructor
    · intro hnobody a ha
      obtain ⟨place, hplace⟩ := exists_registration ha
      exact hnobody _ hplace
    · intro hnobody agent hagent
      obtain ⟨⟨a, place⟩, hplaced, rfl⟩ := List.mem_map.mp hagent
      exact hnobody a (List.fst_mem_of_mem_zipIdx hplaced)

/-- In a system that is made from settings, whatever its books say, a capability is exercised
exactly if its agent lists it without blanks around it. -/
theorem exercised_ofConfig (happ : Application.ofConfig c now = .ok app) (fleet : Fleet) :
    c.Exercised { app.workshop.router with fleet := fleet } :=
  exercised (Application.ofConfig_eq_ok_iff.mp happ).1
    ((ofConfig_faithful c now).carried app happ).listed

/-- Two agents: the first has blanks around its one capability, and the second lists one of its two
both with and without them. -/
def padded : Config :=
  { Config.standard with agents := [
    ⟨"A", [" create_page "], "ENV:OD_UNSET_AGENT", none, none⟩,
    ⟨"B", ["notify ", "notify"], "http://b.local", none, none⟩] }

/-- The application under these settings. -/
def paddedApp : Application :=
  .wire padded (.ofNanos 0)

/-- The books once both agents have been heard from. -/
def paddedFleet : Fleet :=
  let fleet := paddedApp.workshop.router.fleet
  { fleet with health := (fleet.health.heartbeat "A" (.ofNanos 0)).heartbeat "B" (.ofNanos 0) }

theorem padded_exercised :
    Application.ofConfig padded (.ofNanos 0) = .ok paddedApp ∧
    padded.Exercised { paddedApp.workshop.router with fleet := paddedFleet } := by
  have happ : Application.ofConfig padded (.ofNanos 0) = .ok paddedApp := by decide +kernel
  exact ⟨happ, exercised_ofConfig happ paddedFleet⟩

/-- The one capability of the first agent is accepted and leads to it, and an execution that asks
for it finds nobody. -/
theorem padded_unreached :
    let r : Router := { paddedApp.workshop.router with fleet := paddedFleet }
    Application.ofConfig padded (.ofNanos 0) = .ok paddedApp ∧
    padded.agents.head?.map AgentConfig.capabilities = some [" create_page "] ∧
    Text.trim " create_page " = "create_page" ∧
    paddedFleet.isEligible "A" (.ofNanos 1) ∧
    r.route " create_page " (.ofNanos 1) = some "A" ∧
    (r.execute (.ofList []) ⟨.ofNanos 1, "id", "event", "token"⟩
      (.obj [("command", .str " create_page ")])).2 =
        .reported (.rejected "no_available_agent_or_backpressure") := by
  decide +kernel

end Config

end Gatehouse
