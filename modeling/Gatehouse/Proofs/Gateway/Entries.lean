import Gatehouse.Proofs.Gateway.Retry
import Gatehouse.Proofs.Gateway.Tally

/-! # The records of a prompt sink

The sink puts on record what a call turned to it with, and when it accepts at
once, the events on record are those that calls turned to it with, in the same
order. Then the record of a key agrees with the events on record about that key:
the attempts add up, a success is told once, and every replay is told after it
and names the write that was carried out.
-/

namespace Gatehouse

/-- The event that the sink put on record. -/
def GatewayEvent.entry? : GatewayEvent → Option AuditEvent
  | .replied _ (.sink event) (.recorded true) => some event
  | _ => none

theorem GatewayEvent.of_entry? {seen : GatewayEvent} {event : AuditEvent}
    (hentry : seen.entry? = some event) :
    ∃ call, seen = .replied call (.sink event) (.recorded true) := by
  unfold entry? at hentry
  split at hentry
  next call _ =>
    obtain rfl := Option.some.inj hentry
    exact ⟨call, rfl⟩
  next => contradiction

theorem GatewayEvent.of_offer? {seen : GatewayEvent} {event : AuditEvent}
    (hoffer : seen.offer? = some event) : ∃ call, seen = .asked call (.sink event) := by
  unfold offer? at hoffer
  split at hoffer
  next call whom =>
    cases whom with
    | sink _ =>
        obtain rfl := Option.some.inj hoffer
        exact ⟨call, rfl⟩
    | evaluator | creator | handler => contradiction
  next => contradiction

/-- What one function finds at every place is what the other one finds at the next place. -/
theorem filterMap_eq_of_next {α β : Type} {f g : α → Option β} {l : List α}
    (hnext : ∀ (place : Nat) (a : α), l[place]? = some a → g a = l[place + 1]?.bind f) :
    l.filterMap f = (l.head?.bind f).toList ++ l.filterMap g := by
  induction l with
  | nil => rfl
  | cons a rest ih =>
      have hrest := ih fun place b hplace => by
        simpa using hnext (place + 1) b (by simpa using hplace)
      have hhere : g a = rest.head?.bind f := by
        simpa [List.head?_eq_getElem?] using hnext 0 a rfl
      have hsplit : ∀ h : α → Option β,
          (a :: rest).filterMap h = (h a).toList ++ rest.filterMap h :=
        fun h => by cases hfound : h a <;> simp [hfound]
      rw [hsplit f, hsplit g, hrest, hhere, List.head?_cons, Option.bind_some]

/-- A turn in which somebody replies begins with the reply. -/
theorem Turn.place_of_replied {g : Gateway} {call : CallId} {now : Moment} {stage? : Option Call}
    {seen : List GatewayEvent} {after : Gateway × Progress}
    (hturn : Turn g call now stage? seen after) {place : Nat} {other : CallId} {whom : Awaited}
    {reply : Reply}
    (hplace : (seen ++ after.2.events call now)[place]? = some (.replied other whom reply)) :
    place = 0 := by
  have hevents : ∀ later : Nat,
      (after.2.events call now)[later]? ≠ some (.replied other whom reply) := by
    intro later hevent
    have hmem := List.mem_of_getElem? hevent
    unfold Progress.events at hmem
    split at hmem <;> simp at hmem
  by_contra hne
  obtain ⟨later, rfl⟩ := Nat.exists_eq_succ_of_ne_zero hne
  cases hturn with
  | committed _ earlier stamp token _ hnow hredeems hcommits =>
      -- The redemption may come in one turn with the reply about the acceptance.
      cases hredeems with
      | outright => exact hevents later (by simpa using hplace)
      | following outcome event accepted =>
          cases later with
          | zero => simp at hplace
          | succ later => exact hevents later (by simpa using hplace)
  | interrupted | left => exact hevents _ hplace
  | _ => exact hevents later (by simpa using hplace)

namespace Traffic

/-- The events on record. -/
def auditTrail (s : Traffic) : List AuditEvent :=
  s.history.filterMap GatewayEvent.entry?

/-- The sink accepts at once: whenever a call turns to it, the next thing that is seen is that the
event is on record. -/
def RecordsAtOnce (s : Traffic) : Prop :=
  ∀ (place : Nat) (call : CallId) (event : AuditEvent),
    s.history[place]? = some (.asked call (.sink event)) →
    s.history[place + 1]? = some (.replied call (.sink event) (.recorded true))

/-- Before a reply the last thing seen of the call was that it turned to whom the reply comes
from. -/
def Answering (s : Traffic) : Prop :=
  ∀ (place : Nat) call whom reply, s.history[place]? = some (.replied call whom reply) →
    ∃ before since, s.history.take place = before ++ .asked call whom :: since ∧
      ∀ event ∈ since, event.call? ≠ some call

theorem lastSeen_split {s : Traffic} {call : CallId} {event : GatewayEvent}
    (hlast : s.lastSeen call = some event) :
    ∃ before since, s.history = before ++ event :: since ∧
      ∀ other ∈ since, other.call? ≠ some call := by
  obtain ⟨init, htrail⟩ := List.getLast?_eq_some_iff.mp hlast
  obtain ⟨before, rest, hhistory, _, hrest⟩ := List.filter_eq_append_iff.mp htrail
  obtain ⟨skipped, since, rfl, _, _, hsince⟩ := List.filter_eq_cons_iff.mp hrest
  refine ⟨before ++ skipped, since, by simp [hhistory], fun other hother => ?_⟩
  simpa using List.filter_eq_nil_iff.mp hsince other hother

theorem answering_step {s next : Traffic} (hstep : Step s next) (htold : s.Told)
    (hanswering : s.Answering) : next.Answering := by
  have hold : ∀ {added : List GatewayEvent} {place : Nat} {call whom reply},
      s.history[place]? = some (.replied call whom reply) → ∃ before since,
        (s.history ++ added).take place = before ++ .asked call whom :: since ∧
          ∀ event ∈ since, event.call? ≠ some call := by
    intro added place call whom reply hplace
    rw [take_append hplace]
    exact hanswering place call whom reply hplace
  cases hstep with
  | still => exact hanswering
  | registered | purged =>
      intro place call whom reply hplace
      exact hold (place_of_silent (by rfl) hplace rfl)
  | turned call now stage? seen after hstage hnew hturn =>
      intro place other whom reply hplace
      rcases Nat.lt_or_ge place s.history.length with hlt | hle
      · rw [advance, List.getElem?_append_left hlt] at hplace
        exact hold hplace
      · rw [advance, List.getElem?_append_right hle] at hplace
        have hfirst : place = s.history.length := by
          have hzero := hturn.place_of_replied hplace
          omega
        obtain ⟨rfl, hawaits⟩ := hturn.of_replied (List.mem_of_getElem? hplace)
        rw [hfirst, advance, List.take_left]
        refine lastSeen_split ((htold call whom).mpr ?_)
        rw [hstage, hawaits]

theorem answering_run (opens : Bool) (ttl : Span) (actions : List Action) :
    ((start opens ttl).run actions).Answering :=
  run_keeps_sound (fun hstep hsound _ => answering_step hstep hsound.told)
    (by simp [Answering, start]) actions

section Prompt

variable {s : Traffic}

/-- What a prompt sink has on record at a place, a call turned to it with at the place before. -/
theorem RecordsAtOnce.asked (hprompt : s.RecordsAtOnce) (hanswering : s.Answering) {place : Nat}
    {call : CallId} {event : AuditEvent} {reply : Reply}
    (hplace : s.history[place]? = some (.replied call (.sink event) reply)) :
    ∃ earlier, place = earlier + 1 ∧ s.history[earlier]? = some (.asked call (.sink event)) := by
  obtain ⟨before, since, htake, hsince⟩ := hanswering place call _ reply hplace
  have hasked : s.history[before.length]? = some (.asked call (.sink event)) := by
    have htaken : (s.history.take place)[before.length]? = some (.asked call (.sink event)) := by
      simp [htake]
    exact (of_place_take htaken).2
  refine ⟨before.length, ?_, hasked⟩
  -- The record is the next thing seen of the call, and nothing was seen of it before the reply.
  have hlength : place = before.length + 1 + since.length := by
    have hbound := (List.getElem?_eq_some_iff.mp hplace).1
    have hlengths := congrArg List.length htake
    simp at hlengths
    omega
  cases since with
  | nil => simpa using hlength
  | cons next rest =>
      have hnext : s.history[before.length + 1]? = some next := by
        have htaken : (s.history.take place)[before.length + 1]? = some next := by simp [htake]
        exact (of_place_take htaken).2
      have hrecord := hnext.symm.trans (hprompt _ call event hasked)
      obtain rfl := Option.some.inj hrecord
      exact absurd rfl (hsince _ List.mem_cons_self)

/-- A prompt sink has on record what calls turned to it with, in the same order. -/
theorem RecordsAtOnce.auditTrail_eq (hprompt : s.RecordsAtOnce) (hanswering : s.Answering) :
    s.auditTrail = s.offers := by
  have hhead : s.history.head?.bind GatewayEvent.entry? = none := by
    rw [Option.bind_eq_none_iff]
    intro first hfirst
    by_contra hentry
    obtain ⟨event, hentry⟩ := Option.ne_none_iff_exists'.mp hentry
    obtain ⟨call, rfl⟩ := GatewayEvent.of_entry? hentry
    rw [List.head?_eq_getElem?] at hfirst
    obtain ⟨earlier, hzero, _⟩ := hprompt.asked hanswering hfirst
    omega
  have hnext : ∀ (place : Nat) seen, s.history[place]? = some seen →
      seen.offer? = s.history[place + 1]?.bind GatewayEvent.entry? := by
    intro place seen hplace
    cases hoffer : seen.offer? with
    | some event =>
        obtain ⟨call, rfl⟩ := GatewayEvent.of_offer? hoffer
        rw [hprompt place call event hplace]
        rfl
    | none =>
        symm
        rw [Option.bind_eq_none_iff]
        intro next hlater
        by_contra hentry
        obtain ⟨event, hentry⟩ := Option.ne_none_iff_exists'.mp hentry
        obtain ⟨call, rfl⟩ := GatewayEvent.of_entry? hentry
        obtain ⟨earlier, hplaces, hasked⟩ := hprompt.asked hanswering hlater
        obtain rfl : place = earlier := by omega
        obtain rfl := Option.some.inj (hplace.symm.trans hasked)
        contradiction
  rw [auditTrail, filterMap_eq_of_next hnext, hhead]
  rfl

end Prompt

/-- The record of a key and the events on record about the key tell the same. -/
structure AccountsFor (s : Traffic) (key : WriteKey) (record : KeyRecord) : Prop where
  /-- The attempts are those that succeeded, those that failed, those that were dropped or broke
  down while their handler was at work, and the one that is running. -/
  attempts : record.attempts =
    s.auditTrail.countP (·.isOn "write.applied" key) +
      s.auditTrail.countP (·.isOn "write.failed" key) + s.brokenOff key +
      if record.state = .processing then 1 else 0
  /-- A success is told exactly once. -/
  applied : s.auditTrail.countP (·.isOn "write.applied" key) =
    if record.state = .succeeded then 1 else 0
  /-- A replay is told after the success, and with the name of the write that was carried out. -/
  replays : ∀ (place : Nat) event, s.auditTrail[place]? = some event →
    event.isOn "write.idempotent_replay" key →
    ∃ earlier applied, earlier < place ∧ s.auditTrail[earlier]? = some applied ∧
      applied.isOn "write.applied" key ∧
      ∃ seen call envelope data, AppliedAt s.history seen call envelope key data ∧
        applied.writeId = some envelope.id.text ∧
        event.data.lookup "original_write_id" = some (.str envelope.id.text)

/-- In every run with a sink that accepts at once, the events on record account for every attempt
that the record of a key counts. -/
theorem run_accountsFor (opens : Bool) (ttl : Span) (actions : List Action) (key : WriteKey)
    (record : KeyRecord) (hprompt : ((start opens ttl).run actions).RecordsAtOnce)
    (hrecord : ((start opens ttl).run actions).gateway.ledger.get? key = some record) :
    ((start opens ttl).run actions).AccountsFor key record := by
  have hreckoned := reckoned_run opens ttl actions key
  have htrail := hprompt.auditTrail_eq (answering_run opens ttl actions)
  have hstate : ((start opens ttl).run actions).gateway.ledger.state? key = some record.state := by
    rw [KeyLedger.state?, hrecord, Option.map_some]
  obtain ⟨hrunning, hdone⟩ := KeyLedger.running_done_of_state? hstate
  constructor
  case attempts =>
    rw [htrail, ← hrunning, ← KeyLedger.attemptsOf_of_get? hrecord]
    exact hreckoned.attempts
  case applied =>
    rw [htrail, ← hdone]
    exact hreckoned.applied
  case replays =>
    intro place event hplace hreplay
    rw [htrail] at hplace ⊢
    obtain ⟨earlier, applied, hlt, hearlier, happlied, hnames⟩ :=
      hreckoned.replays place event hplace hreplay
    obtain ⟨seen, call, envelope, data, hat, hwrite⟩ :=
      hreckoned.told applied (List.mem_of_getElem? hearlier) happlied
    refine ⟨earlier, applied, hlt, hearlier, happlied, seen, call, envelope, data, hat, hwrite, ?_⟩
    rw [hnames, hwrite]
    rfl

/-- Three writes under one key: the first is dropped at its handler, the second is carried out, and
the third is a replay. -/
def triedTwice : List Action :=
  let envelope : String → Envelope := fun id =>
    ⟨"send", "ana", "mail:1", .null, none, some "run", some ⟨"key"⟩, none, ⟨id⟩, .ofNanos 0⟩
  let stamp : String → Stamp := fun token => ⟨.ofNanos 0, "id", "event", token⟩
  let committed : CallId → String → String → List Action := fun call id token => [
    .request call (stamp "") (envelope id) true,
    .reply call (stamp "") (.recorded true),
    .reply call (stamp "") (.decided (.ok (.allow none))),
    .reply call (stamp token) (.recorded true),
    .reply call (stamp "") (.recorded true)]
  .register "send" ⟨0⟩ ::
    (committed ⟨1⟩ "w1" "t1" ++ [.drop ⟨1⟩ (.ofNanos 0)] ++
      committed ⟨2⟩ "w2" "t2" ++
        [.reply ⟨2⟩ (stamp "") (.applied (.ok (.bool true))),
          .reply ⟨2⟩ (stamp "") (.recorded true)] ++
      committed ⟨3⟩ "w3" "t3" ++ [.reply ⟨3⟩ (stamp "") (.recorded true)])

theorem triedTwice_recordsAtOnce :
    ((start true (.ofSeconds 60)).run triedTwice).RecordsAtOnce := by
  intro place call event hplace
  have hlt : place < 44 := (List.getElem?_eq_some_iff.mp hplace).1
  interval_cases place <;> first | (cases hplace; done) | (cases hplace; rfl)

theorem triedTwice_accountsFor :
    ∃ record, ((start true (.ofSeconds 60)).run triedTwice).gateway.ledger.get? ⟨"key"⟩ =
        some record ∧
      record.attempts = 2 ∧ record.state = .succeeded ∧
      ((start true (.ofSeconds 60)).run triedTwice).AccountsFor ⟨"key"⟩ record := by
  refine ⟨_, rfl, rfl, rfl, ?_⟩
  exact run_accountsFor true (.ofSeconds 60) triedTwice ⟨"key"⟩ _ triedTwice_recordsAtOnce rfl

end Traffic

end Gatehouse
