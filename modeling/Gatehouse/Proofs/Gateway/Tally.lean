import Gatehouse.Proofs.Gateway.Audited
import Gatehouse.Proofs.Gateway.Replay
import Gatehouse.Proofs.Write.Renewal

/-! # Attempts and what is told of them

Every attempt for a key is carried out, fails, is broken off, or is still
running. A call that writes one of the first two into the ledger turns to the
audit sink with it in the same turn, so the number of attempts in the record of
a key can be added up from the events that calls turned to the sink with.
`Books` says what a turn writes down about a key on both sides, and `Reckoned`
that the sums agree in every state of traffic.
-/

namespace Gatehouse

/-- The event is of the type and names the key. -/
def AuditEvent.isOn (event : AuditEvent) (type : String) (key : WriteKey) : Bool :=
  decide (event.type = type ∧ event.data.lookup "idempotency_key" = some (.str key.text))

namespace AuditEvent

variable {event : AuditEvent} {type : String} {key named : WriteKey}

theorem type_of_isOn (hevent : event.isOn type key) : event.type = type := by
  simp only [isOn, decide_eq_true_eq] at hevent
  exact hevent.1

theorem isOn_of_type_ne (htype : event.type ≠ type) : event.isOn type key = false := by
  simp [isOn, htype]

@[simp] theorem type_withData (event : AuditEvent) (name : String) (value : Json) :
    (event.withData name value).type = event.type := rfl

@[simp] theorem type_forWrite (stamp : Stamp) (envelope : Envelope) (type : String)
    (outcome : AuditOutcome) : (forWrite stamp envelope type outcome).type = type := rfl

theorem lookup_withData (event : AuditEvent) (name : String) (value : Json) (other : String) :
    (event.withData name value).data.lookup other =
      if other = name then some value else event.data.lookup other :=
  Json.lookup_insertField ..

/-- An event that names a key is on that key alone. -/
theorem isOn_of_named (hnamed : event.data.lookup "idempotency_key" = some (.str named.text)) :
    event.isOn type key = decide (event.type = type ∧ key = named) := by
  obtain ⟨text⟩ := key
  obtain ⟨other⟩ := named
  simp [isOn, hnamed, eq_comm]

end AuditEvent

/-- The event that a call turns to the sink with. -/
def Awaited.offer? : Awaited → Option AuditEvent
  | .sink event => some event
  | .evaluator _ | .creator .. | .handler .. => none

/-- The event that a call turns to the sink with that got so far. -/
def Progress.offer? (progress : Progress) : Option AuditEvent :=
  progress.call?.bind fun stage => stage.awaits.offer?

namespace GatewayEvent

/-- The event that the sink was turned to with. -/
def offer? : GatewayEvent → Option AuditEvent
  | .asked _ whom => whom.offer?
  | _ => none

/-- Whom a call turned to. -/
def asked? : GatewayEvent → Option Awaited
  | .asked _ whom => some whom
  | _ => none

end GatewayEvent

theorem Progress.offers_events (call : CallId) (now : Moment) (progress : Progress) :
    (progress.events call now).filterMap GatewayEvent.offer? = progress.offer?.toList := by
  unfold events offer?
  split
  next => rfl
  next => rfl
  next => rfl
  next stage _ =>
    simp only [List.filterMap_cons, List.filterMap_nil, GatewayEvent.offer?, call?,
      Option.bind_some]
    cases stage.awaits.offer? <;> rfl

namespace KeyLedger

/-- Where the last attempt for a key stands. -/
def state? (l : KeyLedger) (key : WriteKey) : Option KeyState :=
  (l.get? key).map KeyRecord.state

theorem marks_iff_state? {l : KeyLedger} {key : WriteKey} :
    l.Marks key ↔ l.state? key = some .processing := by
  simp [Marks, state?]

/-- The number of attempts for a key that are running: one or none. -/
def running (l : KeyLedger) (key : WriteKey) : Nat :=
  if l.state? key = some .processing then 1 else 0

/-- The number of attempts for a key that succeeded and are what the record is about: one or
none. -/
def done (l : KeyLedger) (key : WriteKey) : Nat :=
  if l.state? key = some .succeeded then 1 else 0

theorem running_done_of_state? {l : KeyLedger} {key : WriteKey} {state : KeyState}
    (hstate : l.state? key = some state) :
    l.running key = (if state = .processing then 1 else 0) ∧
      l.done key = if state = .succeeded then 1 else 0 := by
  simp [running, done, hstate]

theorem Keeps.state? {l : KeyLedger} {key : WriteKey} {outcome : WriteOutcome}
    (hkeeps : l.Keeps key outcome) : l.state? key = some .succeeded := by
  obtain ⟨record, hget, hstate, _⟩ := hkeeps
  rw [KeyLedger.state?, hget, Option.map_some, hstate]

end KeyLedger

/-- What a turn of a call writes down about a key: in the ledger, and in the event that it turns to
the sink with. In the last case the call does not get that far. -/
inductive Books (key : WriteKey) (before after : KeyLedger) : Option AuditEvent → Bool → Prop where
  /-- Nothing, but that a write under the key was carried out earlier. -/
  | nothing (offer? : Option AuditEvent) (hget : after.get? key = before.get? key)
      (hquiet : ∀ event, offer? = some event →
        event.isOn "write.applied" key = false ∧ event.isOn "write.failed" key = false)
      (hreplay : ∀ event, offer? = some event → event.isOn "write.idempotent_replay" key →
        ∃ stored, before.Keeps key stored ∧
          event.data.lookup "original_write_id" = some (.str stored.writeId.text)) :
      Books key before after offer? false
  /-- An attempt begins. -/
  | begun (hreserved : ∃ now, (before.begin key now).1 = .reserved)
      (hstate : after.state? key = some .processing)
      (hattempts : after.attemptsOf key = before.attemptsOf key + 1) :
      Books key before after none false
  /-- The attempt that was running succeeds. -/
  | applied (event : AuditEvent) (outcome : WriteOutcome) (hmarks : before.Marks key)
      (hkeeps : after.Keeps key outcome)
      (hattempts : after.attemptsOf key = before.attemptsOf key)
      (hevent : event.isOn "write.applied" key)
      (hwrite : event.writeId = some outcome.writeId.text) :
      Books key before after (some event) false
  /-- An attempt fails, the one that was running or a new one. -/
  | failed (event : AuditEvent) (hkeeps : ∀ outcome, ¬ before.Keeps key outcome)
      (hstate : after.state? key = some .failed)
      (hattempts : after.attemptsOf key + before.running key = before.attemptsOf key + 1)
      (hevent : event.isOn "write.failed" key) :
      Books key before after (some event) false
  /-- The attempt that was running is broken off. -/
  | brokenOff (hmarks : before.Marks key) (hstate : after.state? key = some .failed)
      (hattempts : after.attemptsOf key = before.attemptsOf key) :
      Books key before after none true

namespace Gateway

variable {g : Gateway} {stamp : Stamp} {key held : WriteKey}

/-- The call tells nothing about how an attempt ended. -/
def Untold (progress : Progress) : Prop :=
  ∀ event, progress.offer? = some event → event.type ≠ "write.applied" ∧
    event.type ≠ "write.failed" ∧ event.type ≠ "write.idempotent_replay"

theorem books_of_untold {ledger : KeyLedger} {progress : Progress} (huntold : Untold progress) :
    Books key ledger ledger progress.offer? false := by
  refine .nothing _ rfl (fun event hoffer => ?_) fun event hoffer hreplay => ?_
  · obtain ⟨happlied, hfailed, _⟩ := huntold event hoffer
    exact ⟨AuditEvent.isOn_of_type_ne happlied, AuditEvent.isOn_of_type_ne hfailed⟩
  · exact absurd (AuditEvent.type_of_isOn hreplay) (huntold event hoffer).2.2

/-- The type of the event that tells how an attempt ended. -/
def settledType : Except String Json → String
  | .ok _ => "write.applied"
  | .error _ => "write.failed"

theorem settle_offer (g : Gateway) (stamp : Stamp) (envelope : Envelope) (held : WriteKey)
    (answer : Except String Json) :
    ∃ event, (g.settle stamp envelope held answer).2.offer? = some event ∧
      event.type = settledType answer ∧
      event.data.lookup "idempotency_key" = some (.str held.text) ∧
      event.writeId = some envelope.id.text := by
  cases answer with
  | ok data => exact ⟨_, rfl, rfl, by rw [AuditEvent.lookup_withData, if_pos rfl], rfl⟩
  | error reason =>
      refine ⟨_, rfl, rfl, ?_, rfl⟩
      rw [AuditEvent.lookup_withData, if_neg (by decide), AuditEvent.lookup_withData, if_pos rfl]

theorem state?_finished (g : Gateway) (envelope : Envelope) (held : WriteKey)
    (answer : Except String Json) (now : Moment) :
    (g.finished envelope held answer now).ledger.state? held = some (settledState answer) := by
  rw [KeyLedger.state?, finished, KeyLedger.get?_finish, if_pos rfl]
  rfl

/-- The end of an attempt is no matter of other keys. -/
theorem books_of_other {ledger : KeyLedger} {event : AuditEvent}
    (hother : key ≠ held) (hget : ledger.get? key = g.ledger.get? key)
    (hnamed : event.data.lookup "idempotency_key" = some (.str held.text)) :
    Books key g.ledger ledger (some event) false := by
  have hquiet : ∀ type, event.isOn type key = false := fun type => by
    simp [AuditEvent.isOn_of_named hnamed, hother]
  refine .nothing _ hget ?_ ?_
  · rintro _ ⟨⟩
    exact ⟨hquiet _, hquiet _⟩
  · rintro _ ⟨⟩ hreplay
    rw [hquiet] at hreplay
    contradiction

theorem books_settle (hmarks : g.ledger.Marks held) (envelope : Envelope)
    (answer : Except String Json) :
    Books key g.ledger (g.settle stamp envelope held answer).1.ledger
      (g.settle stamp envelope held answer).2.offer? false := by
  obtain ⟨event, hoffer, htype, hnamed, hwrite⟩ := g.settle_offer stamp envelope held answer
  obtain ⟨_, hsettle⟩ := g.settle_eq stamp envelope held answer
  rw [hoffer, hsettle]
  by_cases hkey : key = held
  · subst hkey
    have hattempts : (g.finished envelope key answer stamp.now).ledger.attemptsOf key =
        g.ledger.attemptsOf key := KeyLedger.attemptsOf_finish hmarks _ _ _
    have hevent : event.isOn (settledType answer) key := by
      simp [AuditEvent.isOn_of_named hnamed, htype]
    cases answer with
    | ok data =>
        exact .applied event (settledOutcome envelope key (.ok data)) hmarks
          (KeyLedger.keeps_finish_succeeded _ _ _ _) hattempts hevent hwrite
    | error reason =>
        refine .failed event (fun outcome hkeeps => hkeeps.not_marks hmarks)
          (g.state?_finished envelope key _ _) ?_ hevent
        rw [hattempts, KeyLedger.running, if_pos (KeyLedger.marks_iff_state?.mp hmarks)]
  · exact books_of_other hkey (KeyLedger.get?_finish_ne hkey _ _ _ _) hnamed

/-- An attempt that nobody is there to carry out fails as soon as it has begun. -/
theorem books_unhandled {now : Moment}
    (hreserved : (g.ledger.begin held now).1 = .reserved) (envelope : Envelope) (reason : String) :
    Books key g.ledger ((g.reserve held now).settle stamp envelope held (.error reason)).1.ledger
      ((g.reserve held now).settle stamp envelope held (.error reason)).2.offer? false := by
  obtain ⟨event, hoffer, htype, hnamed, _⟩ :=
    (g.reserve held now).settle_offer stamp envelope held (.error reason)
  obtain ⟨_, hsettle⟩ := (g.reserve held now).settle_eq stamp envelope held (.error reason)
  rw [hoffer, hsettle]
  by_cases hkey : key = held
  · subst hkey
    obtain ⟨hfree, hkeeps⟩ := KeyLedger.begin_reserved_iff.mp hreserved
    have hmarks : (g.ledger.begin key now).2.Marks key :=
      (KeyLedger.marks_begin_reserved hreserved key).mpr (.inl rfl)
    have hattempts : ((g.reserve key now).finished envelope key (.error reason)
        stamp.now).ledger.attemptsOf key = g.ledger.attemptsOf key + 1 :=
      (KeyLedger.attemptsOf_finish hmarks _ _ _).trans
        (KeyLedger.attemptsOf_begin_reserved hreserved)
    refine .failed event hkeeps (state?_finished _ envelope key _ _) ?_
      (by simp [AuditEvent.isOn_of_named hnamed, htype, settledType])
    rw [hattempts, KeyLedger.running, if_neg (mt KeyLedger.marks_iff_state?.mpr hfree)]
  · refine books_of_other hkey ?_ hnamed
    rw [finished, KeyLedger.get?_finish_ne hkey, reserve,
      KeyLedger.get?_begin_reserved_ne hreserved hkey]

theorem replay_offer (stamp : Stamp) (envelope : Envelope) (held : WriteKey)
    (stored : WriteOutcome) :
    ∃ event, (replay stamp envelope held stored).offer? = some event ∧
      event.type = "write.idempotent_replay" ∧
      event.data.lookup "idempotency_key" = some (.str held.text) ∧
      event.data.lookup "original_write_id" = some (.str stored.writeId.text) := by
  refine ⟨_, rfl, rfl, ?_, ?_⟩
  · rw [AuditEvent.lookup_withData, if_neg (by decide), AuditEvent.lookup_withData, if_pos rfl]
  · rw [AuditEvent.lookup_withData, if_pos rfl]

theorem books_replay {stored : WriteOutcome} (hkeeps : g.ledger.Keeps held stored)
    (envelope : Envelope) :
    Books key g.ledger g.ledger (replay stamp envelope held stored).offer? false := by
  obtain ⟨event, hoffer, htype, hnamed, hnames⟩ := replay_offer stamp envelope held stored
  rw [hoffer]
  refine .nothing _ rfl ?_ ?_
  · rintro _ ⟨⟩
    exact ⟨AuditEvent.isOn_of_type_ne (by simp [htype]),
      AuditEvent.isOn_of_type_ne (by simp [htype])⟩
  · rintro _ ⟨⟩ hreplay
    rw [AuditEvent.isOn_of_named hnamed] at hreplay
    obtain ⟨_, rfl⟩ := of_decide_eq_true hreplay
    exact ⟨stored, hkeeps, hnames⟩

theorem books_apply (g : Gateway) (stamp : Stamp) (envelope : Envelope) (held key : WriteKey) :
    Books key g.ledger (g.apply stamp envelope held).1.ledger
      (g.apply stamp envelope held).2.offer? false := by
  rcases g.apply_cases stamp envelope held with ⟨_, happly⟩ | ⟨stored, hkeeps, happly⟩ |
    ⟨hreserved, ⟨handler, _, happly⟩ | ⟨_, happly⟩⟩
  · rw [happly]
    exact books_of_untold (by rintro _ ⟨⟩)
  · rw [happly]
    exact books_replay hkeeps envelope
  · rw [happly]
    by_cases hkey : key = held
    · subst hkey
      refine .begun ⟨_, hreserved⟩ ?_ (KeyLedger.attemptsOf_begin_reserved hreserved)
      exact KeyLedger.marks_iff_state?.mp
        ((KeyLedger.marks_begin_reserved hreserved key).mpr (.inl rfl))
    · exact .nothing _ (KeyLedger.get?_begin_reserved_ne hreserved hkey) (by rintro _ ⟨⟩)
        (by rintro _ ⟨⟩)
  · rw [happly]
    exact books_unhandled hreserved envelope _

theorem books_commit (g : Gateway) (stamp : Stamp) (token : String) (key : WriteKey) :
    Books key g.ledger (g.commit stamp token).1.ledger (g.commit stamp token).2.offer? false := by
  cases hworth : g.tokens.worth token stamp.now with
  | unknown | expired envelope =>
      simp only [commit, CommitTokens.take, hworth]
      exact books_of_untold (by rintro _ ⟨⟩)
  | valid envelope =>
      cases hkey : envelope.resolvedKey with
      | none =>
          simp only [commit, CommitTokens.take, hworth, hkey]
          exact books_of_untold (by rintro _ ⟨⟩)
      | some held =>
          rw [commit_of_valid hworth hkey]
          exact books_apply (g.spend token) stamp envelope held key

theorem untold_request (stamp : Stamp) (envelope : Envelope) (thenCommit : Bool) :
    Untold (request stamp envelope thenCommit) := by
  unfold request
  split
  · rintro _ ⟨⟩
    simp
  · rintro _ ⟨⟩

theorem untold_refuse (stamp : Stamp) (request : WriteRequest) (reason : String) :
    Untold (refuse stamp request reason) := by
  rintro _ ⟨⟩
  simp

theorem untold_park (stamp : Stamp) (request : WriteRequest) (reason approval : String) :
    Untold (park stamp request reason approval) := by
  rintro _ ⟨⟩
  simp

theorem untold_judge (stamp : Stamp) (request : WriteRequest) (answer : Except Fault Decision) :
    Untold (judge stamp request answer) := by
  cases answer with
  | error fault => exact untold_refuse stamp request _
  | ok decision =>
      rintro _ ⟨⟩
      simp

theorem untold_enact (g : Gateway) (stamp : Stamp) (request : WriteRequest) (decision : Decision) :
    (g.enact stamp request decision).1.ledger = g.ledger ∧
      Untold (g.enact stamp request decision).2 := by
  cases decision with
  | deny reason => exact ⟨rfl, untold_refuse stamp request _⟩
  | requiresApproval reason approval payload =>
      cases approval with
      | some approval => exact ⟨rfl, untold_park stamp request _ _⟩
      | none =>
          simp only [enact]
          split
          · exact ⟨rfl, by rintro _ ⟨⟩⟩
          · exact ⟨rfl, untold_park stamp request _ _⟩
  | allow reason =>
      simp only [enact, accept]
      split
      · exact ⟨rfl, by rintro _ ⟨⟩⟩
      · refine ⟨rfl, ?_⟩
        rintro _ ⟨⟩
        simp

theorem books_resume (g : Gateway) (stamp : Stamp) {stage : Call} {reply : Reply} (key : WriteKey)
    (hexpects : stage.awaits.expects reply)
    (hmarks : ∀ held, stage.heldKey? = some held → g.ledger.Marks held) :
    Books key g.ledger (g.resume stamp stage reply).1.ledger
      (g.resume stamp stage reply).2.offer? false := by
  cases Call.expects_cases hexpects with
  | receiving request event accepted => exact books_of_untold (by rintro _ ⟨⟩)
  | evaluating request answer => exact books_of_untold (untold_judge stamp request answer)
  | judged request decision event accepted =>
      obtain ⟨hledger, huntold⟩ := g.untold_enact stamp request decision
      simp only [resume, hledger]
      exact books_of_untold huntold
  | opening request reason payload answer =>
      cases answer <;> exact books_of_untold (untold_park stamp request _ _)
  | accepting outcome token thenCommit event accepted =>
      cases thenCommit with
      | true => exact g.books_commit stamp token key
      | false => exact books_of_untold (by rintro _ ⟨⟩)
  | applying envelope held handler answer => exact books_settle (hmarks held rfl) envelope _
  | closing outcome event accepted => exact books_of_untold (by rintro _ ⟨⟩)

/-- A call that is dropped breaks its attempt off, if there is one. -/
theorem books_abandon (g : Gateway) (now : Moment) (stage : Call) (key : WriteKey)
    (hmarks : ∀ held, stage.heldKey? = some held → g.ledger.Marks held) :
    Books key g.ledger (g.abandon now stage).ledger none (decide (stage.heldKey? = some key)) := by
  cases stage with
  | applying envelope held handler =>
      by_cases hkey : held = key
      · subst hkey
        simp only [Call.heldKey?, decide_true]
        refine .brokenOff (hmarks held rfl) ?_ (KeyLedger.attemptsOf_finish (hmarks held rfl) _ _ _)
        rw [abandon, KeyLedger.state?, KeyLedger.interrupted, KeyLedger.get?_finish, if_pos rfl]
        rfl
      · simp only [Call.heldKey?, Option.some.injEq, hkey, decide_false]
        exact .nothing _ (KeyLedger.get?_finish_ne (Ne.symm hkey) _ _ _ _) (by rintro _ ⟨⟩)
          (by rintro _ ⟨⟩)
  | _ => exact .nothing _ rfl (by rintro _ ⟨⟩) (by rintro _ ⟨⟩)

end Gateway

/-- An attempt that was running succeeds only when its handler answers that it carried out the
write. -/
theorem Turn.of_succeeded {g : Gateway} {call : CallId} {now : Moment} {stage? : Option Call}
    {seen : List GatewayEvent} {after : Gateway × Progress} {key : WriteKey}
    {outcome : WriteOutcome} (hturn : Turn g call now stage? seen after)
    (hmarks : g.ledger.Marks key) (hkeeps : after.1.ledger.Keeps key outcome) :
    ∃ envelope handler data, stage? = some (.applying envelope key handler) ∧
      seen = [.replied call (.handler handler envelope) (.applied (.ok data))] ∧
      outcome = Gateway.settledOutcome envelope key (.ok data) := by
  have hfailed : ∀ {ledger : KeyLedger} {stored : WriteOutcome} {moment : Moment},
      ¬ (ledger.finish key .failed stored moment).Keeps key outcome := by
    simp [KeyLedger.Keeps, KeyLedger.get?_finish]
  by_cases hheld : stage?.bind Call.heldKey? = some key
  · cases hturn with
    | talked stage reply progress hexpects htalks => cases htalks <;> contradiction
    | committed _ earlier stamp token _ hnow hredeems hcommits => cases hredeems <;> contradiction
    | settled envelope own handler answer event =>
        obtain rfl := Option.some.inj hheld
        cases answer with
        | ok data =>
            have houtcome := hkeeps.unique (KeyLedger.keeps_finish_succeeded _ _ _ _)
            exact ⟨envelope, handler, data, rfl, rfl, houtcome⟩
        | error fault => exact absurd hkeeps hfailed
    | interrupted envelope own handler =>
        obtain rfl := Option.some.inj hheld
        exact absurd hkeeps hfailed
    | left stage hnone =>
        rw [Option.bind_some, hnone] at hheld
        contradiction
    | _ => contradiction
  · rcases hturn.record_kept hheld with hkept | ⟨hreserved, _⟩
    · exact absurd hmarks ((KeyLedger.keeps_congr hkept).mp hkeeps).not_marks
    · exact absurd hmarks (KeyLedger.begin_reserved_iff.mp hreserved).1

namespace Traffic

/-- The events that calls turned to the sink with. -/
def offers (s : Traffic) : List AuditEvent :=
  s.history.filterMap GatewayEvent.offer?

/-- Whom a call turned to last. -/
def lastAsked (s : Traffic) (call : CallId) : Option Awaited :=
  ((s.trail call).filterMap GatewayEvent.asked?).getLast?

/-- The call turned last to a handler, with a write under the key. -/
def calledFor (s : Traffic) (key : WriteKey) (call : CallId) : Bool :=
  match s.lastAsked call with
  | some (.handler _ envelope) => decide (envelope.resolvedKey = some key)
  | _ => false

/-- A call was dropped, or broke down, while a handler was at work for the key. -/
def breaksOff (s : Traffic) (key : WriteKey) : GatewayEvent → Bool
  | .dropped call => s.calledFor key call
  | _ => false

/-- How many attempts for a key were broken off. -/
def brokenOff (s : Traffic) (key : WriteKey) : Nat :=
  s.history.countP (s.breaksOff key)

/-- A handler carried out a write under the key, and the event names that write. -/
def TellsApplied (history : List GatewayEvent) (key : WriteKey) (event : AuditEvent) : Prop :=
  ∃ place call envelope data, AppliedAt history place call envelope key data ∧
    event.writeId = some envelope.id.text

theorem TellsApplied.mono {history later : List GatewayEvent} {key : WriteKey} {event : AuditEvent}
    (htells : TellsApplied history key event) (hgrows : history <+: later) :
    TellsApplied later key event := by
  obtain ⟨place, call, envelope, data, ⟨hkey, handler, hplace⟩, hwrite⟩ := htells
  obtain ⟨added, rfl⟩ := hgrows
  exact ⟨place, call, envelope, data, ⟨hkey, handler, place_append hplace added⟩, hwrite⟩

/-- The books on a key agree with the events that the sink was turned to with. -/
structure Reckoned (s : Traffic) (key : WriteKey) : Prop where
  attempts : s.gateway.ledger.attemptsOf key =
    s.offers.countP (·.isOn "write.applied" key) + s.offers.countP (·.isOn "write.failed" key) +
      s.brokenOff key + s.gateway.ledger.running key
  applied : s.offers.countP (·.isOn "write.applied" key) = s.gateway.ledger.done key
  /-- The record of a success holds what was brought, and an event tells of it. -/
  kept : s.gateway.ledger.state? key = some .succeeded → ∃ outcome,
    s.gateway.ledger.Keeps key outcome ∧ ∃ event ∈ s.offers, event.isOn "write.applied" key ∧
      event.writeId = some outcome.writeId.text
  told : ∀ event ∈ s.offers, event.isOn "write.applied" key → TellsApplied s.history key event
  replays : ∀ (place : Nat) event, s.offers[place]? = some event →
    event.isOn "write.idempotent_replay" key → ∃ earlier applied, earlier < place ∧
      s.offers[earlier]? = some applied ∧ applied.isOn "write.applied" key ∧
      event.data.lookup "original_write_id" = applied.writeId.map Json.str

theorem reckoned_start (opens : Bool) (ttl : Span) (key : WriteKey) :
    (start opens ttl).Reckoned key := by
  constructor <;>
    simp [start, offers, brokenOff, KeyLedger.attemptsOf, KeyLedger.running, KeyLedger.done,
      KeyLedger.state?]

section Grow

variable {s next : Traffic} {key : WriteKey} {offer? : Option AuditEvent} {event : AuditEvent}
  {broke : Bool}

theorem Reckoned.done_eq_zero (hreckoned : s.Reckoned key)
    (hkeeps : ∀ outcome, ¬ s.gateway.ledger.Keeps key outcome) :
    s.gateway.ledger.done key = 0 := by
  rw [KeyLedger.done, if_neg]
  intro hsucceeded
  obtain ⟨outcome, hkept, _⟩ := hreckoned.kept hsucceeded
  exact hkeeps outcome hkept

/-- The sums stay right when what is written down is what is told. -/
theorem Reckoned.sums (hreckoned : s.Reckoned key)
    (hbooks : Books key s.gateway.ledger next.gateway.ledger offer? broke)
    (hoffers : next.offers = s.offers ++ offer?.toList)
    (hbroken : next.brokenOff key = s.brokenOff key + broke.toNat) :
    next.gateway.ledger.attemptsOf key =
        next.offers.countP (·.isOn "write.applied" key) +
          next.offers.countP (·.isOn "write.failed" key) + next.brokenOff key +
          next.gateway.ledger.running key ∧
      next.offers.countP (·.isOn "write.applied" key) = next.gateway.ledger.done key := by
  have hattempts := hreckoned.attempts
  have happlied := hreckoned.applied
  rw [hoffers, hbroken, List.countP_append, List.countP_append]
  cases hbooks with
  | nothing _ hget hquiet hreplay =>
      have hnone : ∀ type, (∀ event, offer? = some event → event.isOn type key = false) →
          offer?.toList.countP (·.isOn type key) = 0 := by
        intro type htype
        cases offer? <;> simp_all
      rw [hnone _ fun event hoffer => (hquiet event hoffer).1,
        hnone _ fun event hoffer => (hquiet event hoffer).2]
      simp only [KeyLedger.attemptsOf, KeyLedger.running, KeyLedger.done, KeyLedger.state?, hget]
        at hattempts happlied ⊢
      exact ⟨hattempts, happlied⟩
  | begun hreserved hstate hmore =>
      obtain ⟨now, hreserved⟩ := hreserved
      obtain ⟨hfree, hkeeps⟩ := KeyLedger.begin_reserved_iff.mp hreserved
      have hbefore : s.gateway.ledger.running key = 0 :=
        if_neg (mt KeyLedger.marks_iff_state?.mpr hfree)
      have hdone := hreckoned.done_eq_zero hkeeps
      obtain ⟨hrunning, hnone⟩ := KeyLedger.running_done_of_state? hstate
      simp only [Option.toList_none, List.countP_nil, Bool.toNat_false]
      simp at hrunning hnone
      omega
  | applied event outcome hmarks hkeeps hsame hevent hwrite =>
      have hnotFailed : event.isOn "write.failed" key = false :=
        AuditEvent.isOn_of_type_ne (by simp [AuditEvent.type_of_isOn hevent])
      obtain ⟨hbefore, hnone⟩ :=
        KeyLedger.running_done_of_state? (KeyLedger.marks_iff_state?.mp hmarks)
      obtain ⟨hrunning, hdone⟩ := KeyLedger.running_done_of_state? hkeeps.state?
      simp only [Option.toList_some, List.countP_singleton, Bool.toNat_false, hevent, hnotFailed]
      simp at hbefore hnone hrunning hdone ⊢
      omega
  | failed event hkeeps hstate hmore hevent =>
      have hnotApplied : event.isOn "write.applied" key = false :=
        AuditEvent.isOn_of_type_ne (by simp [AuditEvent.type_of_isOn hevent])
      have hdone := hreckoned.done_eq_zero hkeeps
      obtain ⟨hrunning, hnone⟩ := KeyLedger.running_done_of_state? hstate
      simp only [Option.toList_some, List.countP_singleton, Bool.toNat_false, hevent, hnotApplied]
      simp at hrunning hnone ⊢
      omega
  | brokenOff hmarks hstate hsame =>
      obtain ⟨hbefore, hdone⟩ :=
        KeyLedger.running_done_of_state? (KeyLedger.marks_iff_state?.mp hmarks)
      obtain ⟨hrunning, hnone⟩ := KeyLedger.running_done_of_state? hstate
      simp only [Option.toList_none, List.countP_nil, Bool.toNat_true]
      simp at hbefore hdone hrunning hnone
      omega

/-- An event tells of the success that the ledger keeps. -/
theorem Reckoned.tells_kept (hreckoned : s.Reckoned key) {stored : WriteOutcome}
    (hkeeps : s.gateway.ledger.Keeps key stored) :
    ∃ event ∈ s.offers, event.isOn "write.applied" key ∧
      event.writeId = some stored.writeId.text := by
  obtain ⟨outcome, hkept, htold⟩ := hreckoned.kept hkeeps.state?
  rwa [← hkept.unique hkeeps]

/-- A replay that is told of was preceded by the success that it names. -/
theorem Reckoned.replay_backed (hreckoned : s.Reckoned key)
    (hbooks : Books key s.gateway.ledger next.gateway.ledger (some event) broke)
    (hreplay : event.isOn "write.idempotent_replay" key) :
    ∃ applied ∈ s.offers, applied.isOn "write.applied" key ∧
      event.data.lookup "original_write_id" = applied.writeId.map Json.str := by
  have hnotOther : ∀ type, event.isOn type key → type = "write.idempotent_replay" := by
    intro type hevent
    exact (AuditEvent.type_of_isOn hevent).symm.trans (AuditEvent.type_of_isOn hreplay)
  cases hbooks with
  | nothing _ hget hquiet hreplays =>
      obtain ⟨stored, hkeeps, hnames⟩ := hreplays event rfl hreplay
      obtain ⟨applied, hmem, happlied, hwrite⟩ := hreckoned.tells_kept hkeeps
      refine ⟨applied, hmem, happlied, ?_⟩
      rw [hnames, hwrite]
      rfl
  | applied _ _ _ _ _ hevent | failed _ _ _ _ hevent =>
      exact absurd (hnotOther _ hevent) (by decide)

theorem Reckoned.grow (hreckoned : s.Reckoned key)
    (hbooks : Books key s.gateway.ledger next.gateway.ledger offer? broke)
    (hoffers : next.offers = s.offers ++ offer?.toList)
    (hbroken : next.brokenOff key = s.brokenOff key + broke.toNat)
    (hhistory : s.history <+: next.history)
    (htold : ∀ event, offer? = some event → event.isOn "write.applied" key →
      TellsApplied next.history key event) :
    next.Reckoned key := by
  obtain ⟨hattempts, happlied⟩ := hreckoned.sums hbooks hoffers hbroken
  refine ⟨hattempts, happlied, ?kept, ?told, ?replays⟩
  case kept =>
    intro hsucceeded
    cases hbooks with
    | nothing _ hget hquiet hreplay =>
        rw [KeyLedger.state?, hget, ← KeyLedger.state?] at hsucceeded
        obtain ⟨outcome, hkeeps, event, hmem, hevent⟩ := hreckoned.kept hsucceeded
        refine ⟨outcome, (KeyLedger.keeps_congr hget).mpr hkeeps, event, ?_, hevent⟩
        rw [hoffers]
        exact List.mem_append_left _ hmem
    | applied event outcome hmarks hkeeps hsame hevent hwrite =>
        exact ⟨outcome, hkeeps, event, by simp [hoffers], hevent, hwrite⟩
    | begun _ hstate | failed _ _ hstate | brokenOff _ hstate =>
        rw [hstate] at hsucceeded
        contradiction
  case told =>
    intro event hmem hevent
    rw [hoffers] at hmem
    rcases List.mem_append.mp hmem with hbefore | hnew
    · exact (hreckoned.told event hbefore hevent).mono hhistory
    · exact htold event (Option.mem_toList.mp hnew) hevent
  case replays =>
    intro place event hplace hreplay
    rw [hoffers] at hplace ⊢
    rcases place_cases hplace with ⟨_, hbefore⟩ | ⟨hle, hnew⟩
    · obtain ⟨earlier, applied, hlt, hearlier, htells⟩ :=
        hreckoned.replays place event hbefore hreplay
      exact ⟨earlier, applied, hlt, place_append hearlier _, htells⟩
    · obtain rfl : offer? = some event := Option.mem_toList.mp hnew
      obtain ⟨applied, hmem, happlied, hnames⟩ := hreckoned.replay_backed hbooks hreplay
      obtain ⟨earlier, hearlier⟩ := List.mem_iff_getElem?.mp hmem
      obtain ⟨hlt, _⟩ := List.getElem?_eq_some_iff.mp hearlier
      exact ⟨earlier, applied, hlt.trans_le hle, place_append hearlier _, happlied, hnames⟩

end Grow

/-- Whom a call in flight waits for is whom it turned to last. -/
theorem lastAsked_of_told {s : Traffic} (htold : s.Told) {call : CallId} {stage : Call}
    (hstage : s.calls.get? call = some stage) : s.lastAsked call = some stage.awaits := by
  have hlast : s.lastSeen call = some (.asked call stage.awaits) :=
    (htold call stage.awaits).mpr (by rw [hstage]; rfl)
  obtain ⟨before, htrail⟩ := List.getLast?_eq_some_iff.mp hlast
  rw [lastAsked, htrail, List.filterMap_append]
  simp [GatewayEvent.asked?]

section Advance

variable {s : Traffic} {call : CallId} {now : Moment} {stage? : Option Call}
  {seen : List GatewayEvent} {after : Gateway × Progress} {key : WriteKey}

/-- A call that is in flight or new is at a handler for a key exactly when it holds the key. -/
theorem calledFor_eq (htold : s.Told) (hkeyed : s.Keyed) (hstage : s.calls.get? call = stage?)
    (hnew : stage? = none → s.isNew call) (key : WriteKey) :
    s.calledFor key call = decide (stage?.bind Call.heldKey? = some key) := by
  cases stage? with
  | none => simp [calledFor, lastAsked, trail_of_isNew (hnew rfl)]
  | some stage =>
      rw [calledFor, lastAsked_of_told htold hstage]
      cases stage with
      | applying envelope held handler =>
          have hheld : envelope.resolvedKey = some held := hkeyed call _ hstage
          simp [Call.awaits, Call.heldKey?, hheld]
      | _ => rfl

theorem seen_quiet (hturn : Turn s.gateway call now stage? seen after) :
    ∀ event ∈ seen, event.offer? = none ∧ event.asked? = none ∧
      ∀ other, event ≠ .dropped other := by
  intro event hevent
  cases hturn with
  | committed _ earlier stamp token _ hnow hredeems hcommits =>
      cases hredeems <;> simp at hevent
      · simp [hevent, GatewayEvent.offer?, GatewayEvent.asked?]
      · rcases hevent with rfl | rfl <;> simp [GatewayEvent.offer?, GatewayEvent.asked?]
  | interrupted | left => simp at hevent
  | _ =>
      rw [List.mem_singleton.mp hevent]
      simp [GatewayEvent.offer?, GatewayEvent.asked?]

theorem offers_advance (hturn : Turn s.gateway call now stage? seen after) :
    (s.advance call now seen after).offers = s.offers ++ after.2.offer?.toList := by
  have hquiet : seen.filterMap GatewayEvent.offer? = [] :=
    List.filterMap_eq_nil_iff.mpr fun event hevent => (seen_quiet hturn event hevent).1
  rw [offers, advance, List.filterMap_append, List.filterMap_append, hquiet, List.nil_append,
    Progress.offers_events, ← offers]

theorem not_dropped (horder : s.InOrder) (hstage : s.calls.get? call = stage?)
    (hnew : stage? = none → s.isNew call) : .dropped call ∉ s.history := by
  cases stage? with
  | none => exact fun hmem => call?_ne_of_isNew (hnew rfl) hmem rfl
  | some stage => exact horder.not_over hstage rfl rfl

theorem brokenOff_advance (hsound : s.Sound) (hstage : s.calls.get? call = stage?)
    (hnew : stage? = none → s.isNew call) (hturn : Turn s.gateway call now stage? seen after) :
    (s.advance call now seen after).brokenOff key = s.brokenOff key +
      if after.2 = .broken ∧ stage?.bind Call.heldKey? = some key then 1 else 0 := by
  have hundropped := not_dropped hsound.inOrder hstage hnew
  have hbefore : ∀ other, .dropped other ∈ s.history →
      (s.advance call now seen after).calledFor key other = s.calledFor key other := by
    intro other hmem
    have hother : other ≠ call := by
      rintro rfl
      exact hundropped hmem
    rw [calledFor, lastAsked, trail_advance_ne hturn hother, ← lastAsked, ← calledFor]
  have hcalled : after.2 = .broken → (s.advance call now seen after).calledFor key call =
      decide (stage?.bind Call.heldKey? = some key) := by
    intro hbroken
    have hquiet : seen.filterMap GatewayEvent.asked? = [] :=
      List.filterMap_eq_nil_iff.mpr fun event hevent => (seen_quiet hturn event hevent).2.1
    rw [← calledFor_eq hsound.told hsound.keyed hstage hnew, calledFor, calledFor, lastAsked,
      trail_advance hturn, hbroken, List.filterMap_append, List.filterMap_append, hquiet]
    simp [Progress.events, GatewayEvent.asked?, lastAsked]
  have hseen : seen.countP ((s.advance call now seen after).breaksOff key) = 0 := by
    refine List.countP_eq_zero.mpr fun event hevent => ?_
    cases event with
    | dropped other => exact absurd rfl ((seen_quiet hturn _ hevent).2.2 other)
    | _ => simp [breaksOff]
  have hold : s.history.countP ((s.advance call now seen after).breaksOff key) =
      s.history.countP (s.breaksOff key) := by
    refine List.countP_congr fun event hevent => ?_
    cases event with
    | dropped other => simp only [breaksOff, hbefore other hevent]
    | _ => rfl
  have hevents : (after.2.events call now).countP ((s.advance call now seen after).breaksOff key) =
      if after.2 = .broken ∧ stage?.bind Call.heldKey? = some key then 1 else 0 := by
    unfold Progress.events
    split
    next outcome hanswered => simp [breaksOff, hanswered]
    next hbroken => simp [breaksOff, hcalled hbroken, hbroken, List.countP_cons]
    next hwaiting => simp [breaksOff, hwaiting]
    next stage _ hwaiting => simp [breaksOff, hwaiting]
  rw [brokenOff, brokenOff, ← hevents, ← hold]
  simp only [advance, List.countP_append]
  simp only [advance] at hseen
  omega

/-- What a call writes down about a key in a turn is what it tells. -/
theorem Reckoned.turned (hreckoned : s.Reckoned key) (hsound : s.Sound)
    (hstage : s.calls.get? call = stage?) (hnew : stage? = none → s.isNew call)
    (hturn : Turn s.gateway call now stage? seen after)
    (hbooks : Books key s.gateway.ledger after.1.ledger after.2.offer?
      (decide (after.2 = .broken ∧ stage?.bind Call.heldKey? = some key))) :
    (s.advance call now seen after).Reckoned key := by
  refine hreckoned.grow hbooks (offers_advance hturn) ?_ (List.prefix_append _ _) ?_
  · rw [brokenOff_advance hsound hstage hnew hturn]
    split <;> simp_all
  · intro event hoffer hevent
    generalize hbroke : decide (after.2 = .broken ∧ stage?.bind Call.heldKey? = some key) = broke
      at hbooks
    rw [hoffer] at hbooks
    cases hbooks with
    | nothing _ hget hquiet hreplay =>
        rw [(hquiet event rfl).1] at hevent
        contradiction
    | applied _ outcome hmarks hkeeps hsame _ hwrite =>
        obtain ⟨envelope, handler, data, rfl, rfl, rfl⟩ := hturn.of_succeeded hmarks hkeeps
        refine ⟨s.history.length, call, envelope, data, ⟨hsound.keyed call _ hstage, handler, ?_⟩,
          hwrite⟩
        simp [advance]
    | failed _ hkeeps hstate hmore hfailed =>
        have htypes := (AuditEvent.type_of_isOn hevent).symm.trans (AuditEvent.type_of_isOn hfailed)
        exact absurd htypes (by decide)

end Advance

/-- What is about no call is in no sum. -/
theorem Reckoned.silent {s : Traffic} {key : WriteKey} (hreckoned : s.Reckoned key)
    {gateway : Gateway} (hledger : gateway.ledger = s.gateway.ledger) {event : GatewayEvent}
    (hsilent : event.call? = none) :
    Reckoned { s with gateway := gateway, history := s.history ++ [event] } key := by
  refine hreckoned.grow (.nothing none (by simp only [hledger]) (by simp) (by simp)) ?_ ?_
    (List.prefix_append _ _) (by simp)
  · cases event <;> first | contradiction | simp [offers, GatewayEvent.offer?]
  · have hcalled : ∀ call, calledFor { s with
        gateway := gateway, history := s.history ++ [event] } key call = s.calledFor key call := by
      intro call
      rw [calledFor, lastAsked, trail_append_of_none _ _ hsilent, ← lastAsked, ← calledFor]
    have hbreaks : breaksOff { s with gateway := gateway, history := s.history ++ [event] } key =
        s.breaksOff key := by
      funext seen
      cases seen <;> simp only [breaksOff, hcalled]
    rw [brokenOff, hbreaks, brokenOff, List.countP_append]
    cases event <;> first | contradiction | simp [breaksOff]

/-- A call that holds a key never breaks down when it goes on. -/
theorem heldKey?_of_broken {g : Gateway} {stamp : Stamp} {stage : Call} {reply : Reply}
    (hexpects : stage.awaits.expects reply) (hbroken : (g.resume stamp stage reply).2 = .broken) :
    stage.heldKey? = none := by
  cases Call.expects_cases hexpects with
  | applying envelope key handler answer =>
      obtain ⟨event, hsettle⟩ := g.settle_eq stamp envelope key (answer.mapError Fault.text)
      simp [Gateway.resume, hsettle] at hbroken
  | _ => rfl

theorem reckoned_motion {s next : Traffic} {key : WriteKey} (hmotion : Motion s next)
    (hsound : s.Sound) (hreckoned : s.Reckoned key) : next.Reckoned key := by
  have hmarks : ∀ {call stage}, s.calls.get? call = some stage →
      ∀ held, stage.heldKey? = some held → s.gateway.ledger.Marks held := by
    intro call stage hstage held hheld
    refine hsound.locked.marks_iff.mpr ⟨call, holds_iff.mpr ?_⟩
    rwa [hstage]
  cases hmotion with
  | still => exact hreckoned
  | registered command handler => exact hreckoned.silent (by rfl) (by rfl)
  | purged now => exact hreckoned.silent (by rfl) (by rfl)
  | requested call stamp envelope thenCommit hnew =>
      refine hreckoned.turned hsound (get?_of_isNew hnew) (fun _ => hnew)
        (s.gateway.request_turn call stamp envelope thenCommit) ?_
      simpa using Gateway.books_of_untold (Gateway.untold_request stamp envelope thenCommit)
  | committed call stamp token hnew =>
      refine hreckoned.turned hsound (get?_of_isNew hnew) (fun _ => hnew)
        (.committed none [] stamp token _ rfl .outright (s.gateway.commit_commits stamp token)) ?_
      simpa using s.gateway.books_commit stamp token key
  | resumed call stamp stage reply hstage hexpects =>
      refine hreckoned.turned hsound hstage (by simp)
        (Gateway.resume_turn s call stamp stage reply hexpects) ?_
      have hwhole : ¬ ((s.gateway.resume stamp stage reply).2 = .broken ∧
          (some stage).bind Call.heldKey? = some key) := by
        rintro ⟨hbroken, hheld⟩
        rw [Option.bind_some, heldKey?_of_broken hexpects hbroken] at hheld
        contradiction
      rw [decide_eq_false hwhole]
      exact s.gateway.books_resume stamp key hexpects (hmarks hstage)
  | dropped call now stage hstage =>
      refine hreckoned.turned hsound hstage (by simp)
        (s.gateway.abandon_turn call now stage) ?_
      simpa [Progress.offer?, Progress.call?] using
        s.gateway.books_abandon now stage key (hmarks hstage)

theorem reckoned_run (opens : Bool) (ttl : Span) (actions : List Action) (key : WriteKey) :
    ((start opens ttl).run actions).Reckoned key := by
  induction actions using List.reverseRecOn with
  | nil => exact reckoned_start opens ttl key
  | append_singleton actions action ih =>
      rw [run_concat]
      exact reckoned_motion (((start opens ttl).run actions).motion_cases action)
        (sound_run opens ttl actions) ih

end Traffic

end Gatehouse
