import Gatehouse.Proofs.Agent.Probing
import Gatehouse.Proofs.Agent.Wiring

/-! # Probing at intervals

The prober starts a round at once and another after every interval. Settings are
accepted only if the interval is shorter than the time that a heartbeat counts,
so an agent that answers is healthy from one round to the next, whatever others
answer: its heartbeat is fresh for longer than that, and looks at it in between
change nothing. A time to live that is too long for a span is replaced by a
shorter one, however, and the interval is not compared with that. So there are
settings that are accepted and leave gaps.
-/

namespace Gatehouse

namespace AgentEvent

variable {agent : String} {events : List AgentEvent}

/-- Nothing is said about the health of an agent. -/
def Unmentioned (agent : String) (events : List AgentEvent) : Prop :=
  ∀ said moment, .marked agent said moment ∉ events

/-- Whatever is said about the health of an agent is that it was heard from. -/
def Uncontested (agent : String) (events : List AgentEvent) : Prop :=
  ∀ said moment, .marked agent said moment ∈ events → said = .heartbeat

theorem Unmentioned.uncontested (hunmentioned : Unmentioned agent events) :
    Uncontested agent events :=
  fun said moment hmem => absurd hmem (hunmentioned said moment)

theorem Unmentioned.mark?_eq_none (hunmentioned : Unmentioned agent events) {event : AgentEvent}
    (hevent : event ∈ events) : mark? agent event = none := by
  cases event with
  | marked other said moment =>
      refine if_neg fun hsame => hunmentioned said moment ?_
      rwa [← hsame]
  | _ => rfl

end AgentEvent

open AgentEvent (Uncontested Unmentioned latest mark?)

/-- A round of the prober, and what happens until the next one or so far. -/
structure Beat where
  sounding : Sounding
  interim : List Deployment.Action

/-- Whatever happens after the round happens between these moments. -/
def Beat.During (beat : Beat) (start finish : Moment) : Prop :=
  ∀ action ∈ beat.interim, start ≤ action.now ∧ action.now ≤ finish

namespace Deployment

variable {d next : Deployment} {ttl : Span} {before : List AgentEvent} {agent other : String}
  {heard now moment : Moment} {action : Action} {actions : List Action}

/-- What actions add to what is written down. -/
def writtenBy (d : Deployment) (actions : List Action) : List AgentEvent :=
  (d.run actions).history.drop d.history.length

/-- Since so much was written down, an agent has been in good health from some heartbeat on, if
nobody said otherwise. -/
structure Upheld (ttl : Span) (before : List AgentEvent) (agent : String) (heard : Moment)
    (d : Deployment) : Prop where
  known : d.Known ttl
  grown : before <+: d.history
  healthy : Uncontested agent (d.history.drop before.length) →
    ∃ later, heard ≤ later ∧ d.health.healthySince? agent = some later

theorem Upheld.quiet (hupheld : d.Upheld ttl before agent heard) (hknown : next.Known ttl)
    {added : List AgentEvent} (hhistory : next.history = d.history ++ added)
    (hhealth : next.health.healthySince? agent = d.health.healthySince? agent) :
    next.Upheld ttl before agent heard where
  known := hknown
  grown := hhistory ▸ hupheld.grown.trans (List.prefix_append ..)
  healthy := by
    intro hsaid
    rw [hhealth]
    refine hupheld.healthy fun said moment hmem => hsaid said moment ?_
    rw [hhistory, List.drop_append_of_le_length hupheld.grown.length_le]
    exact List.mem_append_left _ hmem

theorem Upheld.marked (hupheld : d.Upheld ttl before agent heard) (hheard : heard ≤ now)
    (other : String) (said : HealthMark) :
    (d.marking other said now).Upheld ttl before agent heard := by
  by_cases hsame : agent = other
  · refine ⟨hupheld.known.marking other said now, hupheld.grown.trans (List.prefix_append ..), ?_⟩
    intro hsaid
    have hmem : AgentEvent.marked agent said now ∈
        (d.marking other said now).history.drop before.length := by
      change _ ∈ (d.history ++ [AgentEvent.marked other said now]).drop before.length
      rw [List.drop_append_of_le_length hupheld.grown.length_le, hsame]
      simp
    refine ⟨now, hheard, ?_⟩
    change (d.health.mark other said now).healthySince? agent = _
    rw [HealthBook.healthySince?_mark, if_pos hsame, if_pos (hsaid said now hmem)]
  · exact hupheld.quiet (hupheld.known.marking other said now) rfl
      ((HealthBook.healthySince?_mark ..).trans (if_neg hsame))

/-- Nobody who looks finds the heartbeat too old. -/
theorem Upheld.looked (hupheld : d.Upheld ttl before agent heard)
    (hfresh : now.since heard ≤ ttl)
    (hknown : (d.withHealth (d.health.checked other now)).Known ttl) :
    (d.withHealth (d.health.checked other now)).Upheld ttl before agent heard := by
  refine ⟨hknown, hupheld.grown, fun hsaid => ?_⟩
  obtain ⟨later, hlater, hsince⟩ := hupheld.healthy hsaid
  refine ⟨later, hlater, ?_⟩
  change (d.health.checked other now).healthySince? agent = _
  rw [HealthBook.healthySince?_checked, hsince]
  have hstill : now.since later ≤ d.health.ttl := by
    rw [hupheld.known.counted]
    exact Int.le_trans (Int.sub_le_sub_left hlater _) hfresh
  split
  · exact Option.filter_some_pos (decide_eq_true hstill)
  · rfl

/-- An agent stays in good health, as far as it is up to the clock, while its heartbeat counts. -/
theorem upheld_change (hheard : heard ≤ now) (hfresh : now.since heard ≤ ttl)
    (hchange : Change now d next) (hupheld : d.Upheld ttl before agent heard) :
    next.Upheld ttl before agent heard := by
  have hknown := known_change hchange hupheld.known
  cases hchange with
  | looked other => exact hupheld.looked hfresh hknown
  | met other =>
      exact hupheld.quiet hknown (List.append_nil _).symm (HealthBook.healthySince?_register ..)
  | marked other said => exact hupheld.marked hheard other said
  | recovered | probing => exact hupheld.quiet hknown (List.append_nil _).symm rfl
  | _ => exact hupheld.quiet hknown rfl rfl

theorem upheld_run (hupheld : d.Upheld ttl before agent heard)
    (hactions : ∀ action ∈ actions, heard ≤ action.now ∧ action.now.since heard ≤ ttl) :
    (d.run actions).Upheld ttl before agent heard := by
  induction actions generalizing d with
  | nil => exact hupheld
  | cons action rest ih =>
      obtain ⟨hheard, hfresh⟩ := hactions action (by simp)
      have hstep : (d.step action).Upheld ttl before agent heard :=
        step_keeps (fun hchange hholds => upheld_change hheard hfresh hchange hholds) hupheld
      exact ih hstep fun later hlater => hactions later (List.mem_cons_of_mem _ hlater)

theorem Upheld.isHealthy (hupheld : d.Upheld ttl before agent heard)
    (huncontested : Uncontested agent (d.history.drop before.length))
    (hfresh : now.since heard ≤ ttl) : d.health.isHealthy agent now := by
  obtain ⟨later, hlater, hsince⟩ := hupheld.healthy huncontested
  refine HealthBook.isHealthy_iff.mpr ⟨later, hsince, ?_⟩
  rw [hupheld.known.counted]
  exact Int.le_trans (Int.sub_le_sub_left hlater _) hfresh

/-- An agent of which nothing has been said since a heartbeat is healthy only while this counts. -/
theorem Known.since_le (hknown : d.Known ttl) (hgrown : before <+: d.history)
    (hlatest : latest (mark? agent) before = some (.heartbeat, heard))
    (hunmentioned : Unmentioned agent (d.history.drop before.length))
    (hhealthy : d.health.isHealthy agent now) : now.since heard ≤ ttl := by
  obtain ⟨later, hsince, hfresh⟩ := HealthBook.isHealthy_iff.mp hhealthy
  have hsaid := hknown.healthy agent later hsince
  rw [← List.prefix_iff_eq_append.mp hgrown, AgentEvent.latest_append_of_none before
    fun _ hevent => hunmentioned.mark?_eq_none hevent, hlatest] at hsaid
  obtain rfl := (Prod.mk.inj (Option.some.inj hsaid)).2
  rwa [hknown.counted] at hfresh

/-- Nothing that was written down is ever taken back. -/
theorem history_prefix_run (d : Deployment) (actions : List Action) :
    d.history <+: (d.run actions).history := by
  have hkeeps : ∀ {now : Moment} {earlier next : Deployment}, Change now earlier next →
      d.history <+: earlier.history → d.history <+: next.history := by
    intro now earlier next hchange hgrown
    cases hchange with
    | looked | met | recovered | probing => exact hgrown
    | _ => exact hgrown.trans (List.prefix_append ..)
  exact run_keeps hkeeps (List.prefix_refl _) actions

/-- A state that a router without agents can come to. -/
def Reached (ttl : Span) (d : Deployment) : Prop :=
  ∃ policy actions, d = (start ttl policy).run actions

theorem Reached.run (hreached : d.Reached ttl) (actions : List Action) :
    (d.run actions).Reached ttl := by
  obtain ⟨policy, earlier, rfl⟩ := hreached
  exact ⟨policy, earlier ++ actions, (List.foldl_append ..).symm⟩

theorem Reached.known (hreached : d.Reached ttl) : d.Known ttl := by
  obtain ⟨policy, actions, rfl⟩ := hreached
  exact run_keeps known_change (known_start ttl policy) actions

theorem Reached.sounded (hreached : d.Reached ttl) (s : Sounding) (now : Moment) :
    d.Sounded s now (d.sound s now) := by
  obtain ⟨policy, actions, rfl⟩ := hreached
  exact sounded_sound (names_run ttl policy actions)

section Round

variable {s : Sounding} {agent : Registration}

/-- An agent that answered in a round is healthy from then on while this counts, if nothing else is
said about it. -/
theorem Reached.isHealthy (hreached : d.Reached ttl) (hlisted : agent ∈ d.router.agents.values)
    (hanswered : s.outcome agent = .ok ())
    (hduring : ∀ action ∈ actions, heard ≤ action.now ∧ action.now ≤ now)
    (huncontested : Uncontested agent.name ((d.sound s heard).writtenBy actions))
    (hfresh : now.since heard ≤ ttl) :
    ((d.sound s heard).run actions).health.isHealthy agent.name now := by
  have hsince := (hreached.sounded s heard).healthySince? hlisted hanswered
  have hupheld : (d.sound s heard).Upheld ttl (d.sound s heard).history agent.name heard :=
    ⟨(hreached.run _).known, List.prefix_refl _, fun _ => ⟨heard, Int.le_refl _, hsince⟩⟩
  refine (upheld_run hupheld fun action haction => ?_).isHealthy huncontested hfresh
  obtain ⟨hfrom, hupto⟩ := hduring action haction
  exact ⟨hfrom, Int.le_trans (Int.sub_le_sub_right hupto _) hfresh⟩

theorem Reached.isHealthy_iff (hreached : d.Reached ttl)
    (hlisted : agent ∈ d.router.agents.values) (hanswered : s.outcome agent = .ok ())
    (hduring : ∀ action ∈ actions, heard ≤ action.now ∧ action.now ≤ now)
    (hunmentioned : Unmentioned agent.name ((d.sound s heard).writtenBy actions)) :
    ((d.sound s heard).run actions).health.isHealthy agent.name now ↔ now.since heard ≤ ttl := by
  constructor
  · have hround : (d.sound s heard).Reached ttl := hreached.run _
    have hsince := (hreached.sounded s heard).healthySince? hlisted hanswered
    exact (hround.run actions).known.since_le (history_prefix_run ..)
      (hround.known.healthy _ _ hsince) hunmentioned
  · exact hreached.isHealthy hlisted hanswered hduring hunmentioned.uncontested

end Round

end Deployment

namespace Config

variable {c : Config}

/-- How long a heartbeat counts in the system made from the settings. -/
def heartbeatTtl (c : Config) : Span :=
  Fleet.spanOfMillis c.fleetSettings.heartbeatTtlMillis

/-- How long after a round the next one starts. -/
def heartbeatInterval (c : Config) : Span :=
  .ofSeconds c.heartbeatIntervalSecs

/-- When a round starts, counted from the first. -/
def tick (c : Config) (first : Moment) (round : Nat) : Moment :=
  .ofNanos (first.nanos + round * c.heartbeatInterval.nanos)

/-- The time to live is in force as it was set, or the interval is short enough for the one that
replaces it. -/
def Gapless (c : Config) : Prop :=
  c.heartbeatTtlSecs ≤ 9223372036854775 ∨ c.heartbeatIntervalSecs ≤ 4294967295

theorem interval_lt_of_validate (hvalid : c.validate = .ok ()) :
    c.heartbeatIntervalSecs < c.heartbeatTtlSecs := by
  simp only [validate, seq_eq_ok_iff, ConfigRule.kept_iff] at hvalid
  obtain ⟨-, -, -, -, -, -, -, -, -, -, hinterval, -⟩ := hvalid
  exact hinterval

/-- The next round comes while the heartbeat of the last one counts. -/
theorem gapless_iff (hvalid : c.validate = .ok ()) :
    c.Gapless ↔ c.heartbeatInterval ≤ c.heartbeatTtl := by
  have hinterval := interval_lt_of_validate hvalid
  change c.Gapless ↔ (c.heartbeatIntervalSecs : Int) * 1000000000 ≤
    (Fleet.spanOfMillis (1000 * c.heartbeatTtlSecs)).nanos
  rw [Fleet.nanos_spanOfMillis, Gapless]
  split <;> omega

/-- What becomes of a router that is probed at intervals, with all that happens in between. -/
def watch (c : Config) (first : Moment) (d : Deployment) (beats : List Beat) : Deployment :=
  beats.zipIdx.foldl (fun d (beat, round) =>
    (d.sound beat.sounding (c.tick first round)).run beat.interim) d

theorem watch_concat (c : Config) (first : Moment) (d : Deployment) (before : List Beat)
    (last : Beat) :
    c.watch first d (before ++ [last]) =
      ((c.watch first d before).sound last.sounding (c.tick first before.length)).run
        last.interim := by
  simp [watch, List.zipIdx_append]

/-- To be probed is a part of what can happen to a router. -/
theorem exists_run_watch (c : Config) (first : Moment) (d : Deployment) (beats : List Beat) :
    ∃ actions, c.watch first d beats = d.run actions := by
  induction beats using List.reverseRecOn with
  | nil => exact ⟨[], rfl⟩
  | append_singleton before last ih =>
      obtain ⟨actions, hrun⟩ := ih
      rw [watch_concat, hrun, Deployment.sound, Deployment.soundEach]
      simp only [Deployment.run, ← List.foldl_append]
      exact ⟨_, rfl⟩

/-- What is written down from the end of a round on. -/
def writtenSince (c : Config) (first : Moment) (d : Deployment) (before : List Beat) (beat : Beat) :
    List AgentEvent :=
  ((c.watch first d before).sound beat.sounding (c.tick first before.length)).writtenBy beat.interim

/-- What probing at intervals comes to, whatever has been going on and goes on meanwhile. -/
structure Vigilant (c : Config) (first : Moment) (d : Deployment) : Prop where
  sounded : ∀ before s,
    (c.watch first d before).Sounded s (c.tick first before.length)
      ((c.watch first d before).sound s (c.tick first before.length))
  /-- An agent that answers in a round is healthy up to the next one, unless something else is said
  about it since this round. -/
  healthy : c.Gapless → ∀ before beat agent now,
    agent ∈ (c.watch first d before).router.agents.values →
    beat.sounding.outcome agent = .ok () → beat.During (c.tick first before.length) now →
    now ≤ c.tick first (before.length + 1) →
    Uncontested agent.name (c.writtenSince first d before beat) →
    (c.watch first d (before ++ [beat])).health.isHealthy agent.name now
  /-- If nothing at all is said about it, it is healthy exactly as long as the heartbeat counts. -/
  exact : ∀ before beat agent now,
    agent ∈ (c.watch first d before).router.agents.values →
    beat.sounding.outcome agent = .ok () → beat.During (c.tick first before.length) now →
    Unmentioned agent.name (c.writtenSince first d before beat) →
    ((c.watch first d (before ++ [beat])).health.isHealthy agent.name now ↔
      now.since (c.tick first before.length) ≤ c.heartbeatTtl)
  /-- And this is not always until the next round. -/
  gap : ¬ c.Gapless → ∀ round, ∃ now, c.tick first round ≤ now ∧ now < c.tick first (round + 1) ∧
    c.heartbeatTtl < now.since (c.tick first round)

variable {first wiredAt : Moment} {app : Application}

theorem nanos_tick (c : Config) (first : Moment) (round : Nat) :
    (c.tick first round).nanos = first.nanos + round * (c.heartbeatIntervalSecs * 1000000000) :=
  rfl

theorem since_tick_le (hgapless : c.heartbeatInterval ≤ c.heartbeatTtl) {round : Nat} {now : Moment}
    (hnow : now ≤ c.tick first (round + 1)) : now.since (c.tick first round) ≤ c.heartbeatTtl := by
  refine Int.le_trans ?_ hgapless
  have hnanos : now.nanos ≤ (c.tick first (round + 1)).nanos := hnow
  change now.nanos - (c.tick first round).nanos ≤ c.heartbeatIntervalSecs * 1000000000
  rw [nanos_tick] at hnanos ⊢
  push_cast at hnanos
  linarith

/-- If the interval is too long, the heartbeat no longer counts just before the next round. -/
theorem exists_gap (hgap : ¬ c.Gapless) (first : Moment) (round : Nat) :
    ∃ now, c.tick first round ≤ now ∧ now < c.tick first (round + 1) ∧
      c.heartbeatTtl < now.since (c.tick first round) := by
  obtain ⟨htoo, hlong⟩ := not_or.mp hgap
  have httl : c.heartbeatTtl.nanos = 4294967295 * 1000000000 :=
    (Fleet.nanos_spanOfMillis c.heartbeatTtlSecs).trans (if_neg htoo)
  have hnext : (c.tick first (round + 1)).nanos =
      (c.tick first round).nanos + c.heartbeatIntervalSecs * 1000000000 := by
    rw [nanos_tick, nanos_tick]
    push_cast
    ring
  refine ⟨.ofNanos ((c.tick first (round + 1)).nanos - 1), ?_,
    Int.sub_one_lt_of_le (Int.le_refl _), ?_⟩
  · change (c.tick first round).nanos ≤ (c.tick first (round + 1)).nanos - 1
    omega
  · change c.heartbeatTtl.nanos <
      (c.tick first (round + 1)).nanos - 1 - (c.tick first round).nanos
    omega

/-- A router made from accepted settings and probed at the interval that they set keeps every agent
healthy that answers. -/
theorem vigilant (happ : Application.ofConfig c wiredAt = .ok app) (first : Moment)
    (earlier : List Deployment.Action) :
    (c.deployment wiredAt).router = app.workshop.router ∧
      c.Vigilant first ((c.deployment wiredAt).run earlier) := by
  obtain ⟨hvalid, rfl⟩ := Application.ofConfig_eq_ok_iff.mp happ
  refine ⟨router_deployment c wiredAt, ?_⟩
  have hreached : ((c.deployment wiredAt).run earlier).Reached c.heartbeatTtl := by
    refine Deployment.Reached.run ?_ earlier
    exact ⟨_, _, rfl⟩
  generalize (c.deployment wiredAt).run earlier = d at hreached
  have hwatched : ∀ beats, (c.watch first d beats).Reached c.heartbeatTtl := by
    intro beats
    obtain ⟨actions, hrun⟩ := c.exists_run_watch first d beats
    exact hrun ▸ hreached.run actions
  constructor
  case sounded => exact fun before s => (hwatched before).sounded s _
  case healthy =>
    intro hgapless before beat agent now hlisted hanswered hduring hnow huncontested
    rw [watch_concat]
    exact (hwatched before).isHealthy hlisted hanswered hduring huncontested
      (since_tick_le ((gapless_iff hvalid).mp hgapless) hnow)
  case exact =>
    intro before beat agent now hlisted hanswered hduring hunmentioned
    rw [watch_concat]
    exact (hwatched before).isHealthy_iff hlisted hanswered hduring hunmentioned
  case gap => exact fun hgap round => exists_gap hgap first round

/-- One agent, to be probed every thirty seconds. -/
def watchful : Config :=
  { Config.standard with agents := [⟨"A", ["create_page"], "http://a.local", none, none⟩] }

theorem watchful_vigilant :
    Application.ofConfig watchful (.ofNanos 0) = .ok (.wire watchful (.ofNanos 0)) ∧
    watchful.Gapless ∧
    (watchful.deployment (.ofNanos 0)).router =
      (Application.wire watchful (.ofNanos 0)).workshop.router ∧
    watchful.Vigilant (.ofNanos 0) ((watchful.deployment (.ofNanos 0)).run []) := by
  have happ : Application.ofConfig watchful (.ofNanos 0) = .ok (.wire watchful (.ofNanos 0)) := by
    decide +kernel
  exact ⟨happ, .inl (by decide), vigilant happ (.ofNanos 0) []⟩

/-- The same agent, to be probed almost never; but the time to live is longer than the interval. -/
def drowsy : Config :=
  { watchful with heartbeatTtlSecs := 9300000000000000, heartbeatIntervalSecs := 9000000000 }

/-- A round in which every agent that is asked answers, with nothing to follow. -/
def answeredBeat : Beat :=
  ⟨⟨.ofList [], fun _ => .ok ()⟩, []⟩

/-- The agent answers, and nobody says anything about it; yet it is no longer healthy long before
the next round. Its heartbeat counts for 2³² - 1 seconds, and not as long as it was set to. -/
theorem drowsy_lapses :
    let d := drowsy.watch (.ofNanos 0) (drowsy.deployment (.ofNanos 0)) [answeredBeat]
    drowsy.validate = .ok () ∧ d.history.getLast? = some (.marked "A" .heartbeat (.ofNanos 0)) ∧
    d.health.isHealthy "A" (.ofNanos (4000000000 * 1000000000)) ∧
    d.health.isHealthy "A" (.ofNanos (5000000000 * 1000000000)) = false ∧
    Moment.ofNanos (5000000000 * 1000000000) < drowsy.tick (.ofNanos 0) 1 := by
  decide +kernel

end Config

end Gatehouse
