import Gatehouse.Proofs.Gateway.Ledger

/-! # The last word on a key

Whoever wants to begin an attempt for a key is answered by the last thing that
happened to the key, whatever happened before it and to other keys. What happens
to a key is that an attempt for it is granted, that somebody writes down how one
ended, or that somebody who held it lets go; to be told that an attempt is
running, or how one ended, is nothing that happens to it. Attempts may be ended
that nobody began, and ended twice.

The ledger keeps one record for each key. `Event.renewed` says what an event
makes of the record, and a run of the ledger leaves of each key what its events
amount to, one after the other.
-/

namespace Gatehouse.KeyLedger

/-- What can be asked of the ledger. Whoever holds a key asks nothing of it before he settles or
lets go. -/
inductive Action where
  | begin (key : WriteKey) (now : Moment)
  | finish (key : WriteKey) (state : KeyState) (outcome : WriteOutcome) (now : Moment)
  /-- Somebody who held the key for a write settles how the attempt ended. -/
  | settle (key : WriteKey) (writeId : WriteId) (state : KeyState) (outcome : WriteOutcome)
      (now : Moment)
  /-- Somebody who held the key for a write lets go of it before he has settled. -/
  | letGo (key : WriteKey) (writeId : WriteId) (now : Moment)
  deriving DecidableEq

/-- What happens to a key. -/
inductive Event where
  | reserved (key : WriteKey) (now : Moment)
  | finished (key : WriteKey) (state : KeyState) (outcome : WriteOutcome) (now : Moment)
  | interrupted (key : WriteKey) (writeId : WriteId) (now : Moment)
  deriving DecidableEq

namespace Event

/-- The key that an event happens to. -/
def key : Event → WriteKey
  | .reserved key _ | .finished key _ _ _ | .interrupted key _ _ => key

/-- When an event happens. -/
def now : Event → Moment
  | .reserved _ now | .finished _ _ _ now | .interrupted _ _ now => now

/-- The state in which an event leaves its key. -/
def state : Event → KeyState
  | .reserved .. => .processing
  | .finished _ state _ _ => state
  | .interrupted .. => .failed

/-- The outcome that an event leaves for its key. -/
def outcome : Event → Option WriteOutcome
  | .reserved .. => none
  | .finished _ _ outcome _ => some outcome
  | .interrupted key writeId _ => some (interruption key writeId)

/-- An attempt is granted. -/
def isReservation : Event → Bool
  | .reserved .. => true
  | .finished .. | .interrupted .. => false

/-- What an event makes of the record of its key, or of its having none. -/
def renewed (event : Event) : Option KeyRecord → KeyRecord
  | none => ⟨event.key, event.state, event.outcome, 1, event.now, event.now⟩
  | some record =>
    { record with
      state := event.state
      outcome := event.outcome
      attempts := if event.isReservation then record.attempts + 1 else record.attempts
      updatedAt := event.now }

variable {event : Event} {found : Option KeyRecord}

@[simp] theorem state_renewed : (event.renewed found).state = event.state := by
  cases found <;> rfl

@[simp] theorem outcome_renewed : (event.renewed found).outcome = event.outcome := by
  cases found <;> rfl

end Event

/-- What a call makes of the ledger. -/
def perform (l : KeyLedger) : Action → KeyLedger
  | .begin key now => (l.begin key now).2
  | .finish key state outcome now | .settle key _ state outcome now =>
    l.finish key state outcome now
  | .letGo key writeId now => l.interrupted key writeId now

/-- What happens at a call, if anything does. -/
def event? (l : KeyLedger) : Action → Option Event
  | .begin key now =>
    match (l.begin key now).1 with
    | .reserved => some (.reserved key now)
    | .inProgress | .replay _ => none
  | .finish key state outcome now | .settle key _ state outcome now =>
    some (.finished key state outcome now)
  | .letGo key writeId now => some (.interrupted key writeId now)

/-- What a list of calls makes of the ledger. -/
def run (l : KeyLedger) (actions : List Action) : KeyLedger :=
  actions.foldl perform l

/-- What happens during a list of calls. -/
def history (l : KeyLedger) : List Action → List Event
  | [] => []
  | action :: rest => (l.event? action).toList ++ (l.perform action).history rest

/-- What happened to a key. -/
def about (key : WriteKey) (past : List Event) : List Event :=
  past.filter fun event => event.key = key

/-- What happened to a key last. -/
def last? (key : WriteKey) (past : List Event) : Option Event :=
  (about key past).getLast?

/-- What events make of the record of their key, or of its having none. -/
def recalled (found : Option KeyRecord) (events : List Event) : Option KeyRecord :=
  events.foldl (fun found event => some (event.renewed found)) found

/-- The attempts that the events of a key amount to: whatever happens to it first counts as one, and
so does every attempt that is granted after that. -/
def attemptsIn : List Event → Nat
  | [] => 0
  | _ :: later => 1 + later.countP Event.isReservation

section Recall

variable {key : WriteKey} {events : List Event} {record : KeyRecord}

theorem about_append (key : WriteKey) (past more : List Event) :
    about key (past ++ more) = about key past ++ about key more :=
  List.filter_append ..

theorem recalled_append (found : Option KeyRecord) (events more : List Event) :
    recalled found (events ++ more) = recalled (recalled found events) more :=
  List.foldl_append ..

@[simp] theorem recalled_singleton (found : Option KeyRecord) (event : Event) :
    recalled found [event] = some (event.renewed found) := rfl

theorem recalled_eq_none_iff : recalled none events = none ↔ events = [] := by
  rcases events.eq_nil_or_concat' with rfl | ⟨earlier, last, rfl⟩
  · exact iff_of_true rfl rfl
  · simp [recalled_append]

/-- The record tells the state and the outcome in which the last event left the key. -/
theorem last_of_recalled (hrecord : recalled none events = some record) :
    ∃ last, events.getLast? = some last ∧ record.state = last.state ∧
      record.outcome = last.outcome := by
  rcases events.eq_nil_or_concat' with rfl | ⟨earlier, last, rfl⟩
  · contradiction
  · rw [recalled_append, recalled_singleton, Option.some.injEq] at hrecord
    subst hrecord
    exact ⟨last, List.getLast?_concat, Event.state_renewed, Event.outcome_renewed⟩

/-- A record never forgets when its key was first seen, and counts one attempt more for each that is
granted. -/
theorem recalled_some (record : KeyRecord) (events : List Event) :
    ∃ later : KeyRecord, recalled (some record) events = some later ∧
      later.firstSeenAt = record.firstSeenAt ∧
      later.attempts = record.attempts + events.countP Event.isReservation := by
  induction events using List.reverseRecOn with
  | nil => exact ⟨record, rfl, rfl, rfl⟩
  | append_singleton earlier event ih =>
      obtain ⟨later, hlater, hfirst, hattempts⟩ := ih
      rw [recalled_append, hlater]
      refine ⟨_, recalled_singleton .., hfirst, ?_⟩
      rw [List.countP_append, List.countP_singleton, ← Nat.add_assoc, ← hattempts]
      cases hreservation : event.isReservation <;> simp [Event.renewed, hreservation]

/-- The record tells when the first event happened, and how many attempts there were. -/
theorem first_of_recalled (hrecord : recalled none events = some record) :
    events.head?.map Event.now = some record.firstSeenAt ∧ record.attempts = attemptsIn events := by
  cases events with
  | nil => contradiction
  | cons first later =>
      obtain ⟨after, hafter, hfirst, hattempts⟩ := recalled_some (first.renewed none) later
      obtain rfl : after = record := Option.some.inj (hafter.symm.trans hrecord)
      exact ⟨by rw [hfirst]; rfl, hattempts⟩

end Recall

section Perform

theorem renewed_reserved (l : KeyLedger) (key : WriteKey) (now : Moment) :
    (Event.reserved key now).renewed (l.get? key) = l.granted key now := by
  rw [granted]
  cases l.get? key <;> rfl

theorem get?_finish_renewed (l : KeyLedger) (event : Event) (outcome : WriteOutcome)
    (hreservation : event.isReservation = false) (houtcome : event.outcome = some outcome)
    (other : WriteKey) :
    (l.finish event.key event.state outcome event.now).get? other =
      if other = event.key then some (event.renewed (l.get? event.key)) else l.get? other := by
  rw [get?_finish]
  cases l.get? event.key <;> simp [Event.renewed, hreservation, houtcome]

/-- An event changes the record of its key and no other. -/
theorem recalled_about_singleton (l : KeyLedger) (key : WriteKey) (event : Event) :
    recalled (l.get? key) (about key [event]) =
      if key = event.key then some (event.renewed (l.get? event.key)) else l.get? key := by
  by_cases hkey : key = event.key
  · simp [about, hkey]
  · simp [about, hkey, Ne.symm hkey, recalled]

/-- What happens to a key at a call is made of its record, and nothing else. -/
theorem get?_perform (l : KeyLedger) (action : Action) (key : WriteKey) :
    (l.perform action).get? key = recalled (l.get? key) (about key (l.event? action).toList) := by
  -- Whoever ends an attempt writes his event down, whatever was there before.
  have hends (event : Event) (outcome : WriteOutcome) (hreservation : event.isReservation = false)
      (houtcome : event.outcome = some outcome) :
      (l.finish event.key event.state outcome event.now).get? key =
        recalled (l.get? key) (about key [event]) := by
    rw [get?_finish_renewed l event outcome hreservation houtcome, recalled_about_singleton]
  cases action with
  | begin asked now =>
      rw [perform, get?_begin, ← renewed_reserved, event?]
      cases (l.begin asked now).1 with
      | reserved =>
          refine Eq.trans ?_ (l.recalled_about_singleton key (.reserved asked now)).symm
          exact if_congr (by simp [Event.key]) rfl rfl
      | inProgress | replay => simp [about, recalled]
  | finish ended state outcome now =>
      exact hends (.finished ended state outcome now) outcome rfl rfl
  | settle ended writeId state outcome now =>
      exact hends (.finished ended state outcome now) outcome rfl rfl
  | letGo held writeId now =>
      exact hends (.interrupted held writeId now) (interruption held writeId) rfl rfl

/-- A run leaves of each key what its events amount to. -/
theorem get?_run (l : KeyLedger) (actions : List Action) (key : WriteKey) :
    (l.run actions).get? key = recalled (l.get? key) (about key (l.history actions)) := by
  induction actions generalizing l with
  | nil => rfl
  | cons action rest ih =>
      -- What the first call leaves is what the events of the others are added to.
      rw [history, about_append, recalled_append, ← get?_perform]
      exact ih (l.perform action)

theorem run_append (l : KeyLedger) (actions more : List Action) :
    l.run (actions ++ more) = (l.run actions).run more :=
  List.foldl_append ..

end Perform

/-! ## The answers of a run -/

section Run

variable {actions : List Action} {key : WriteKey} {record : KeyRecord} {event : Event}

theorem key_of_last? {past : List Event} (hlast : last? key past = some event) :
    event.key = key := by
  have hmem : event ∈ about key past := List.mem_of_getLast? hlast
  simpa using (List.mem_filter.mp hmem).2

theorem get?_eq_none_iff_last? :
    (empty.run actions).get? key = none ↔ last? key (empty.history actions) = none := by
  rw [get?_run, get?_empty, recalled_eq_none_iff, last?, List.getLast?_eq_none_iff]

/-- The record of a key tells how the last event left it. -/
theorem exists_last? (hrecord : (empty.run actions).get? key = some record) :
    ∃ event, last? key (empty.history actions) = some event ∧ record.state = event.state ∧
      record.outcome = event.outcome := by
  rw [get?_run] at hrecord
  exact last_of_recalled hrecord

theorem exists_get? (hlast : last? key (empty.history actions) = some event) :
    ∃ record, (empty.run actions).get? key = some record ∧ record.state = event.state ∧
      record.outcome = event.outcome := by
  cases hget : (empty.run actions).get? key with
  | none => simp [get?_eq_none_iff_last?.mp hget] at hlast
  | some record =>
      obtain ⟨found, hfound, htells⟩ := exists_last? hget
      obtain rfl := Option.some.inj (hlast.symm.trans hfound)
      exact ⟨record, rfl, htells⟩

theorem marks_run_iff :
    (empty.run actions).Marks key ↔
      ∃ event, last? key (empty.history actions) = some event ∧ event.state = .processing := by
  constructor
  · rintro ⟨record, hrecord, hprocessing⟩
    obtain ⟨event, hlast, hstate, _⟩ := exists_last? hrecord
    exact ⟨event, hlast, hstate ▸ hprocessing⟩
  · rintro ⟨event, hlast, hprocessing⟩
    obtain ⟨record, hrecord, hstate, _⟩ := exists_get? hlast
    exact ⟨record, hrecord, hstate ▸ hprocessing⟩

theorem keeps_run_iff {outcome : WriteOutcome} :
    (empty.run actions).Keeps key outcome ↔
      ∃ event, last? key (empty.history actions) = some event ∧ event.state = .succeeded ∧
        event.outcome = some outcome := by
  constructor
  · rintro ⟨record, hrecord, hsucceeded, houtcome⟩
    obtain ⟨event, hlast, hstate, hleaves⟩ := exists_last? hrecord
    exact ⟨event, hlast, hstate ▸ hsucceeded, hleaves ▸ houtcome⟩
  · rintro ⟨event, hlast, hsucceeded, houtcome⟩
    obtain ⟨record, hrecord, hstate, hleaves⟩ := exists_get? hlast
    exact ⟨record, hrecord, hstate ▸ hsucceeded, hleaves ▸ houtcome⟩

theorem Event.state_eq_processing_iff :
    event.state = .processing ↔ (∃ now, event = .reserved event.key now) ∨
      ∃ outcome now, event = .finished event.key .processing outcome now := by
  cases event <;> simp [Event.state, Event.key, eq_comm]

theorem Event.state_eq_succeeded_iff {outcome : WriteOutcome} :
    event.state = .succeeded ∧ event.outcome = some outcome ↔
      ∃ now, event = .finished event.key .succeeded outcome now := by
  cases event <;> simp [Event.state, Event.outcome, Event.key]

/-- An event that leaves its key as succeeded leaves an outcome to repeat. -/
theorem Event.outcome_of_succeeded (hsucceeded : event.state = .succeeded) :
    ∃ outcome, event.outcome = some outcome := by
  cases event with
  | reserved => contradiction
  | finished key state outcome now => exact ⟨outcome, rfl⟩
  | interrupted => contradiction

/-- After these calls everybody who asks for a key is answered by what happened to it last. -/
structure AnswersByLast (actions : List Action) : Prop where
  /-- An attempt is granted exactly if nothing is known of the key or it was left as failed. -/
  reserved : ∀ key now, ((empty.run actions).begin key now).1 = .reserved ↔
    (empty.run actions).get? key = none ∨
      ∃ event, last? key (empty.history actions) = some event ∧ event.state = .failed
  /-- An outcome is repeated exactly if it was the last thing written down, as a success. -/
  replay : ∀ key now outcome, ((empty.run actions).begin key now).1 = .replay outcome ↔
    ∃ moment, last? key (empty.history actions) = some (.finished key .succeeded outcome moment)
  /-- An attempt is said to be running exactly if one was granted last, or was written down last as
  running. -/
  inProgress : ∀ key now, ((empty.run actions).begin key now).1 = .inProgress ↔
    (∃ moment, last? key (empty.history actions) = some (.reserved key moment)) ∨
      ∃ outcome moment,
        last? key (empty.history actions) = some (.finished key .processing outcome moment)
  /-- A key without a record is one to which nothing happened. -/
  unknown : ∀ key, (empty.run actions).get? key = none ↔
    last? key (empty.history actions) = none
  /-- A key that succeeded has an outcome to repeat. -/
  succeeded : ∀ key record, (empty.run actions).get? key = some record →
    record.state = .succeeded → ∃ outcome, record.outcome = some outcome
  /-- Only a grant changes anything. -/
  unchanged : ∀ key now, ((empty.run actions).begin key now).1 ≠ .reserved →
    ((empty.run actions).begin key now).2 = empty.run actions
  /-- A record tells when the first thing happened to its key, and how many attempts there were. -/
  counted : ∀ key record, (empty.run actions).get? key = some record →
    (about key (empty.history actions)).head?.map Event.now = some record.firstSeenAt ∧
      record.attempts = attemptsIn (about key (empty.history actions))
  /-- Whatever comes after, the record stays first seen when it was, and counts one attempt more for
  each that is granted. -/
  grows : ∀ key record, (empty.run actions).get? key = some record → ∀ more,
    ∃ later, (empty.run (actions ++ more)).get? key = some later ∧
      later.firstSeenAt = record.firstSeenAt ∧
      later.attempts = record.attempts +
        (about key ((empty.run actions).history more)).countP Event.isReservation

theorem begin_run_reserved_iff (actions : List Action) (key : WriteKey) (now : Moment) :
    ((empty.run actions).begin key now).1 = .reserved ↔
      (empty.run actions).get? key = none ∨
        ∃ event, last? key (empty.history actions) = some event ∧ event.state = .failed := by
  rw [begin_reserved_iff, get?_eq_none_iff_last?, marks_run_iff]
  simp only [keeps_run_iff]
  cases hlast : last? key (empty.history actions) with
  | none => simp
  | some event =>
      cases hstate : event.state with
      | processing => simp [hstate]
      | succeeded =>
          -- Here an outcome is always there to be repeated, and no attempt is granted.
          simpa [hstate] using Event.outcome_of_succeeded hstate
      | failed => simp [hstate]

/-- Whatever is asked of the ledger, it answers by the last event of every key. -/
theorem run_answersByLast (actions : List Action) : AnswersByLast actions where
  reserved key now := begin_run_reserved_iff actions key now
  replay key now outcome := by
    simp only [begin_replay_iff, keeps_run_iff, Event.state_eq_succeeded_iff]
    constructor
    · rintro ⟨event, hlast, moment, hevent⟩
      rw [hlast, hevent, key_of_last? hlast]
      exact ⟨moment, rfl⟩
    · rintro ⟨moment, hlast⟩
      exact ⟨_, hlast, moment, rfl⟩
  inProgress key now := by
    simp only [begin_inProgress_iff, marks_run_iff, Event.state_eq_processing_iff]
    constructor
    · rintro ⟨event, hlast, ⟨moment, hevent⟩ | ⟨outcome, moment, hevent⟩⟩
      · rw [hlast, hevent, key_of_last? hlast]
        exact .inl ⟨moment, rfl⟩
      · rw [hlast, hevent, key_of_last? hlast]
        exact .inr ⟨outcome, moment, rfl⟩
    · rintro (⟨moment, hlast⟩ | ⟨outcome, moment, hlast⟩)
      · exact ⟨_, hlast, .inl ⟨moment, rfl⟩⟩
      · exact ⟨_, hlast, .inr ⟨outcome, moment, rfl⟩⟩
  unknown key := get?_eq_none_iff_last?
  succeeded key record hrecord hsucceeded := by
    obtain ⟨event, _, hstate, houtcome⟩ := exists_last? hrecord
    rw [houtcome]
    exact Event.outcome_of_succeeded (hstate ▸ hsucceeded)
  unchanged key now hreserved := begin_of_not_reserved hreserved
  counted key record hrecord := by
    rw [get?_run] at hrecord
    exact first_of_recalled hrecord
  grows key record hrecord more := by
    rw [run_append, get?_run _ more, hrecord]
    exact recalled_some record _

end Run

end Gatehouse.KeyLedger
