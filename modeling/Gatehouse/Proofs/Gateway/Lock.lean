import Gatehouse.Proofs.Gateway.Course

/-! # The mark of a key is a lock

A commit that reserved a key holds it until it settles or is dropped. Each turn
of a call leaves the marks alone, takes one for the call or gives the call's
own one back; so in every state of traffic a key is marked exactly while one
call holds it. Nothing is left behind by a call that ends, however it ends, and
a commit that comes upon a mark goes away without a trace in the ledger.
-/

namespace Gatehouse

/-- The key that a call holds that got so far. -/
def Progress.heldKey? (progress : Progress) : Option WriteKey :=
  progress.call?.bind Call.heldKey?

/-- What a turn does to the marks, by the key that its call holds before and after. -/
inductive Grip (before after : KeyLedger) : Option WriteKey → Option WriteKey → Prop where
  | kept (hmarks : ∀ other, after.Marks other ↔ before.Marks other) : Grip before after none none
  | taken (key : WriteKey) (hfree : ¬ before.Marks key)
      (hmarks : ∀ other, after.Marks other ↔ other = key ∨ before.Marks other) :
      Grip before after none (some key)
  | freed (key : WriteKey)
      (hmarks : ∀ other, after.Marks other ↔ other ≠ key ∧ before.Marks other) :
      Grip before after (some key) none

namespace Gateway

variable {g : Gateway} {stamp : Stamp} {token : String}

theorem Commits.grip {after : Gateway × Progress} (hcommits : g.Commits stamp token after) :
    Grip g.ledger after.1.ledger none after.2.heldKey? := by
  cases hcommits with
  | reserved envelope key handler hworth hkey hreserved hhandler =>
      exact .taken key (KeyLedger.begin_reserved_iff.mp hreserved).1
        (KeyLedger.marks_begin_reserved hreserved)
  | unhandled envelope key reason event hworth hkey hreserved hhandler =>
      refine .kept fun other => ?_
      have hfree := (KeyLedger.begin_reserved_iff.mp hreserved).1
      simp only [finished, reserve, spend, KeyLedger.marks_begin_reserved hreserved,
        KeyLedger.marks_finish (settledState_ne_processing _)]
      by_cases hother : other = key
      · simp [hother, hfree]
      · simp [hother]
  | _ => exact .kept fun other => Iff.rfl

/-- A commit that finds its key marked is told so, and all that remains is that its token is
spent. -/
theorem commit_of_marks {envelope : Envelope} {key : WriteKey}
    (hworth : g.tokens.worth token stamp.now = .valid envelope)
    (hkey : envelope.resolvedKey = some key) (hmarks : g.ledger.Marks key) :
    g.commit stamp token = (g.spend token, .answered (busyOutcome envelope key)) := by
  rcases (g.commit_commits stamp token).of_valid hworth hkey with
    ⟨_, hcommit⟩ | ⟨stored, event, hkeeps, _⟩ | ⟨hreserved, _⟩
  · exact hcommit
  · exact absurd hmarks hkeeps.not_marks
  · exact absurd hmarks (KeyLedger.begin_reserved_iff.mp hreserved).1

theorem attemptsOf_reserve_finished {key : WriteKey} {now : Moment}
    (hreserved : (g.ledger.begin key now).1 = .reserved) (envelope : Envelope)
    (answer : Except String Json) :
    (((g.spend token).reserve key now).finished envelope key answer now).ledger.attemptsOf key =
      g.ledger.attemptsOf key + 1 := by
  rw [← KeyLedger.attemptsOf_begin_reserved hreserved]
  exact KeyLedger.attemptsOf_finish
    ((KeyLedger.marks_begin_reserved hreserved key).mpr (.inl rfl)) _ _ _

/-- A commit that finds its key left by a failed attempt makes the next one. -/
theorem commit_of_failed {envelope : Envelope} {key : WriteKey} {record : KeyRecord}
    (hworth : g.tokens.worth token stamp.now = .valid envelope)
    (hkey : envelope.resolvedKey = some key) (hrecord : g.ledger.get? key = some record)
    (hfailed : record.state = .failed) :
    (g.commit stamp token).1.ledger.attemptsOf key = record.attempts + 1 ∧
      ∀ handler, g.handlers.get? envelope.command = some handler →
        (g.commit stamp token).1.ledger.Marks key ∧
          (g.commit stamp token).2 = .waiting (.applying envelope key handler) := by
  have hreserved : (g.ledger.begin key stamp.now).1 = .reserved :=
    KeyLedger.begin_of_failed hrecord hfailed
  obtain ⟨hmarks, hkeeps⟩ := KeyLedger.begin_reserved_iff.mp hreserved
  rw [← KeyLedger.attemptsOf_of_get? hrecord]
  rcases (g.commit_commits stamp token).of_valid hworth hkey with
    ⟨hmarked, _⟩ | ⟨stored, event, hkept, _⟩ |
    ⟨_, ⟨bound, hbound, hcommit⟩ | ⟨reason, event, hnobody, hcommit⟩⟩
  · exact absurd hmarked hmarks
  · exact absurd hkept (hkeeps stored)
  · rw [hcommit]
    refine ⟨KeyLedger.attemptsOf_begin_reserved hreserved, ?_⟩
    intro handler hhandler
    obtain rfl := Option.some.inj (hbound.symm.trans hhandler)
    exact ⟨(KeyLedger.marks_begin_reserved hreserved key).mpr (.inl rfl), rfl⟩
  · rw [hcommit]
    refine ⟨attemptsOf_reserve_finished hreserved envelope _, ?_⟩
    intro handler hhandler
    rw [hnobody] at hhandler
    contradiction

/-- A commit touches the record of no key but that of a write whose token it found valid, and there
it is one attempt more or nothing. -/
theorem Commits.record_kept {after : Gateway × Progress} (hcommits : g.Commits stamp token after)
    (key : WriteKey) :
    after.1.ledger.get? key = g.ledger.get? key ∨
      (g.ledger.begin key stamp.now).1 = .reserved ∧
        after.1.ledger.attemptsOf key = g.ledger.attemptsOf key + 1 ∧
        ∃ envelope, g.tokens.worth token stamp.now = .valid envelope ∧
          envelope.resolvedKey = some key := by
  cases hcommits with
  | reserved envelope own handler hworth hkey hreserved hhandler =>
      by_cases hown : key = own
      · subst own
        exact .inr ⟨hreserved, KeyLedger.attemptsOf_begin_reserved hreserved, envelope, hworth,
          hkey⟩
      · exact .inl (KeyLedger.get?_begin_reserved_ne hreserved hown)
  | unhandled envelope own reason event hworth hkey hreserved hhandler =>
      by_cases hown : key = own
      · subst own
        exact .inr ⟨hreserved, attemptsOf_reserve_finished hreserved envelope _, envelope, hworth,
          hkey⟩
      · refine .inl ?_
        rw [← KeyLedger.get?_begin_reserved_ne hreserved hown]
        exact KeyLedger.get?_finish_ne hown _ _ _ _
  | _ => exact .inl rfl

end Gateway

namespace Turn

variable {g : Gateway} {call : CallId} {now : Moment} {stage? : Option Call}
  {seen : List GatewayEvent} {after : Gateway × Progress}

theorem grip (hturn : Turn g call now stage? seen after) :
    Grip g.ledger after.1.ledger (stage?.bind Call.heldKey?) after.2.heldKey? := by
  cases hturn with
  | talked stage reply progress hexpects htalks =>
      cases htalks <;> exact .kept fun other => Iff.rfl
  | committed _ earlier stamp token _ hnow hredeems hcommits =>
      cases hredeems <;> exact hcommits.grip
  | settled envelope key handler answer event =>
      exact .freed key (KeyLedger.marks_finish (Gateway.settledState_ne_processing _) _ _ · _ _)
  | interrupted envelope key handler =>
      exact .freed key (KeyLedger.marks_finish (by simp) _ _ · _ _)
  | left stage hheld =>
      simp only [Option.bind_some, hheld]
      exact .kept fun other => Iff.rfl
  | _ => exact .kept fun other => Iff.rfl

/-- A turn changes the record of a key only as the end of an attempt of its own, or as one attempt
more for a write whose token it found valid. -/
theorem record_kept (hturn : Turn g call now stage? seen after) {key : WriteKey}
    (hheld : stage?.bind Call.heldKey? ≠ some key) :
    after.1.ledger.get? key = g.ledger.get? key ∨
      (g.ledger.begin key now).1 = .reserved ∧
        after.1.ledger.attemptsOf key = g.ledger.attemptsOf key + 1 ∧
        ∃ token envelope, .redeemed call token now (.valid envelope) ∈ seen ∧
          envelope.resolvedKey = some key := by
  cases hturn with
  | committed _ earlier stamp token _ hnow hredeems hcommits =>
      subst hnow
      rcases hcommits.record_kept key with hkept | ⟨hreserved, hattempts, envelope, hworth, hkey⟩
      · exact .inl hkept
      · exact .inr ⟨hreserved, hattempts, token, envelope, by simp [hworth], hkey⟩
  | settled envelope own handler answer event =>
      have hown : key ≠ own := fun heq => hheld (by rw [heq]; rfl)
      exact .inl (KeyLedger.get?_finish_ne hown _ _ _ _)
  | interrupted envelope own handler =>
      have hown : key ≠ own := fun heq => hheld (by rw [heq]; rfl)
      exact .inl (KeyLedger.get?_finish_ne hown _ _ _ _)
  | _ => exact .inl rfl

/-- What a successful attempt left for a key stays there. -/
theorem keeps (hturn : Turn g call now stage? seen after) {key : WriteKey} {outcome : WriteOutcome}
    (hheld : stage?.bind Call.heldKey? ≠ some key) (hkeeps : g.ledger.Keeps key outcome) :
    after.1.ledger.Keeps key outcome := by
  rcases hturn.record_kept hheld with hkept | ⟨hreserved, _⟩
  · exact (KeyLedger.keeps_congr hkept).mpr hkeeps
  · exact absurd hkeeps ((KeyLedger.begin_reserved_iff.mp hreserved).2 outcome)

end Turn

namespace Traffic

/-- The call reserved the key, its handler is at work, and it was not settled or dropped since. -/
def Holds (s : Traffic) (call : CallId) (key : WriteKey) : Prop :=
  ∃ envelope handler, s.calls.get? call = some (.applying envelope key handler)

theorem holds_iff {s : Traffic} {call : CallId} {key : WriteKey} :
    s.Holds call key ↔ (s.calls.get? call).bind Call.heldKey? = some key := by
  cases hstage : s.calls.get? call with
  | none => simp [Holds, hstage]
  | some stage => cases stage <;> simp [Holds, hstage, Call.heldKey?]

theorem Holds.key_unique {s : Traffic} {call : CallId} {key other : WriteKey}
    (hholds : s.Holds call key) (hholds' : s.Holds call other) : key = other := by
  rw [holds_iff] at hholds hholds'
  exact Option.some.inj (hholds.symm.trans hholds')

theorem holds_advance {s : Traffic} {call other : CallId} {now : Moment}
    {seen : List GatewayEvent} {after : Gateway × Progress} {key : WriteKey} :
    (s.advance call now seen after).Holds other key ↔
      if other = call then after.2.heldKey? = some key else s.Holds other key := by
  rw [holds_iff, advance, get?_place]
  split
  next => rfl
  next => rw [holds_iff]

/-- Two calls never hold one key, and the marks are those of the keys that are held. -/
structure Locked (s : Traffic) : Prop where
  exclusive : ∀ {first second : CallId} {key : WriteKey},
    s.Holds first key → s.Holds second key → first = second
  marks_iff : ∀ {key : WriteKey}, s.gateway.ledger.Marks key ↔ ∃ call, s.Holds call key

theorem locked_start (opensApprovals : Bool) (ttl : Span) : (start opensApprovals ttl).Locked where
  exclusive := by simp [Holds, start]
  marks_iff := by simp [Holds, start, KeyLedger.not_marks_empty]

/-- What changes neither who holds a key nor what is marked keeps the lock. -/
theorem Locked.kept {s next : Traffic} (hlocked : s.Locked)
    (hholds : ∀ call key, next.Holds call key ↔ s.Holds call key)
    (hmarks : ∀ key, next.gateway.ledger.Marks key ↔ s.gateway.ledger.Marks key) : next.Locked where
  exclusive hfirst hsecond :=
    hlocked.exclusive ((hholds _ _).mp hfirst) ((hholds _ _).mp hsecond)
  marks_iff := by simp only [hmarks, hholds, hlocked.marks_iff, implies_true]

theorem Locked.taken {s next : Traffic} (hlocked : s.Locked) (call : CallId) {key : WriteKey}
    (hfree : ¬ s.gateway.ledger.Marks key)
    (hholds : ∀ other k, next.Holds other k ↔ other = call ∧ k = key ∨ s.Holds other k)
    (hmarks : ∀ k, next.gateway.ledger.Marks k ↔ k = key ∨ s.gateway.ledger.Marks k) :
    next.Locked where
  exclusive := by
    -- The key was free, so the call that takes it is the only one to hold it.
    have hnobody : ∀ other, ¬ s.Holds other key := fun other hother =>
      hfree (hlocked.marks_iff.mpr ⟨other, hother⟩)
    intro first second k hfirst hsecond
    rcases (hholds first k).mp hfirst with ⟨rfl, rfl⟩ | hfirst
    · rcases (hholds second k).mp hsecond with ⟨rfl, _⟩ | hsecond
      · rfl
      · exact absurd hsecond (hnobody second)
    · rcases (hholds second k).mp hsecond with ⟨rfl, rfl⟩ | hsecond
      · exact absurd hfirst (hnobody first)
      · exact hlocked.exclusive hfirst hsecond
  marks_iff := by
    intro k
    rw [hmarks, hlocked.marks_iff]
    refine ⟨?_, ?_⟩
    · rintro (rfl | ⟨other, hother⟩)
      · exact ⟨call, (hholds call k).mpr (.inl ⟨rfl, rfl⟩)⟩
      · exact ⟨other, (hholds other k).mpr (.inr hother)⟩
    · rintro ⟨other, hother⟩
      rcases (hholds other k).mp hother with ⟨_, rfl⟩ | hother
      · exact .inl rfl
      · exact .inr ⟨other, hother⟩

theorem Locked.freed {s next : Traffic} (hlocked : s.Locked) {call : CallId} {key : WriteKey}
    (hheld : s.Holds call key)
    (hholds : ∀ other k, next.Holds other k ↔ other ≠ call ∧ s.Holds other k)
    (hmarks : ∀ k, next.gateway.ledger.Marks k ↔ k ≠ key ∧ s.gateway.ledger.Marks k) :
    next.Locked where
  exclusive hfirst hsecond :=
    hlocked.exclusive ((hholds _ _).mp hfirst).2 ((hholds _ _).mp hsecond).2
  marks_iff := by
    intro k
    rw [hmarks, hlocked.marks_iff]
    refine ⟨?_, ?_⟩
    · rintro ⟨hne, other, hother⟩
      refine ⟨other, (hholds other k).mpr ⟨?_, hother⟩⟩
      rintro rfl
      exact hne (hother.key_unique hheld)
    · rintro ⟨other, hother⟩
      obtain ⟨hne, hother⟩ := (hholds other k).mp hother
      refine ⟨?_, other, hother⟩
      rintro rfl
      exact hne (hlocked.exclusive hother hheld)

theorem locked_step {s next : Traffic} (hstep : Step s next) (hlocked : s.Locked) :
    next.Locked := by
  cases hstep with
  | still => exact hlocked
  | registered | purged => exact hlocked.kept (fun _ _ => Iff.rfl) (fun _ => Iff.rfl)
  | turned call now stage? seen after hstage hnew hturn =>
      have hbefore : ∀ key, s.Holds call key ↔ stage?.bind Call.heldKey? = some key := by
        simp [holds_iff, hstage]
      -- Which of the three it is shows in the keys that the call holds before and after.
      have hgrip := hturn.grip
      revert hgrip
      generalize stage?.bind Call.heldKey? = before at hbefore
      generalize hafter : after.2.heldKey? = held
      intro hgrip
      cases hgrip with
      | kept hmarks =>
          refine hlocked.kept (fun other key => ?_) hmarks
          rw [holds_advance, hafter]
          split
          next heq => simp [heq, hbefore]
          next => rfl
      | taken key hfree hmarks =>
          refine hlocked.taken call hfree (fun other k => ?_) hmarks
          rw [holds_advance, hafter]
          split
          next heq => simp [heq, hbefore, eq_comm]
          next hne => simp [hne]
      | freed key hmarks =>
          refine hlocked.freed ((hbefore key).mpr rfl) (fun other k => ?_) hmarks
          rw [holds_advance, hafter]
          split
          next heq => simp [heq]
          next hne => simp [hne]

theorem locked_run (opensApprovals : Bool) (ttl : Span) (actions : List Action) :
    ((start opensApprovals ttl).run actions).Locked :=
  run_keeps locked_step (locked_start opensApprovals ttl) actions

/-- What is true of the calls in every state of traffic. -/
structure Sound (s : Traffic) : Prop where
  told : s.Told
  keyed : s.Keyed
  inOrder : s.InOrder
  locked : s.Locked

theorem sound_run (opensApprovals : Bool) (ttl : Span) (actions : List Action) :
    ((start opensApprovals ttl).run actions).Sound where
  told := told_run opensApprovals ttl actions
  keyed := keyed_run opensApprovals ttl actions
  inOrder := inOrder_run opensApprovals ttl actions
  locked := locked_run opensApprovals ttl actions

theorem sound_step {s next : Traffic} (hstep : Step s next) (hsound : s.Sound) : next.Sound where
  told := told_step hstep hsound.told
  keyed := keyed_step hstep hsound.keyed
  inOrder := inOrder_step hstep hsound.inOrder
  locked := locked_step hstep hsound.locked

/-- What every step between sound states keeps holds throughout a run. -/
theorem run_keeps_sound {holds : Traffic → Prop}
    (hkeeps : ∀ {s next : Traffic}, Step s next → s.Sound → next.Sound → holds s → holds next)
    {opensApprovals : Bool} {ttl : Span} (hstart : holds (start opensApprovals ttl))
    (actions : List Action) : holds ((start opensApprovals ttl).run actions) := by
  have hboth : ∀ {s next : Traffic}, Step s next → s.Sound ∧ holds s → next.Sound ∧ holds next := by
    rintro s next hstep ⟨hsound, hholds⟩
    have hnext := sound_step hstep hsound
    exact ⟨hnext, hkeeps hstep hsound hnext hholds⟩
  exact (run_keeps hboth ⟨sound_run opensApprovals ttl [], hstart⟩ actions).2

/-- The calls that hold a key are those of which it was seen last that they turned to a handler with
a write under that key. -/
theorem holds_iff_lastSeen {s : Traffic} (htold : s.Told) (hkeyed : s.Keyed) {call : CallId}
    {key : WriteKey} :
    s.Holds call key ↔ ∃ handler envelope,
      s.lastSeen call = some (.asked call (.handler handler envelope)) ∧
        envelope.resolvedKey = some key := by
  simp only [htold call]
  refine ⟨?_, ?_⟩
  · rintro ⟨envelope, handler, hstage⟩
    exact ⟨handler, envelope, by rw [hstage]; rfl, hkeyed call _ hstage⟩
  · rintro ⟨handler, envelope, hawaits, hkey⟩
    obtain ⟨stage, hstage, hawaits⟩ := Option.map_eq_some_iff.mp hawaits
    cases stage with
    | applying write held bound =>
        obtain ⟨rfl, rfl⟩ := Awaited.handler.inj hawaits
        obtain rfl := Option.some.inj ((hkeyed call _ hstage).symm.trans hkey)
        exact ⟨write, bound, hstage⟩
    | _ => simp [Call.awaits] at hawaits

/-- A call that no longer holds a key leaves it free, whoever else may be waiting for it. -/
theorem Locked.frees {s next : Traffic} (hlocked : s.Locked) (hstep : Step s next) {call : CallId}
    {key : WriteKey} (hheld : s.Holds call key) (hleft : ¬ next.Holds call key) :
    ¬ next.gateway.ledger.Marks key := by
  intro hmarks
  obtain ⟨other, hother⟩ := (locked_step hstep hlocked).marks_iff.mp hmarks
  have hne : other ≠ call := by
    rintro rfl
    exact hleft hother
  -- A step moves one call, so nobody comes to the key while the holder leaves it.
  have hnot : ¬ s.Holds other key := fun hbefore => hne (hlocked.exclusive hbefore hheld)
  cases hstep with
  | still | registered | purged => exact hnot hother
  | turned mover now stage? seen after hstage hnew hturn =>
      rw [holds_advance] at hother hleft
      split at hother
      next heq =>
        subst heq
        rw [if_neg hne.symm] at hleft
        exact hleft hheld
      next => exact hnot hother

section Endings

variable {s : Traffic} {call : CallId} {envelope : Envelope} {key : WriteKey} {handler : HandlerId}
  {record : KeyRecord}

/-- A call that is dropped or breaks down at its handler leaves a failed attempt behind. -/
theorem record_drop (hstage : s.calls.get? call = some (.applying envelope key handler))
    (hrecord : s.gateway.ledger.get? key = some record) (now : Moment) :
    (s.step (.drop call now)).gateway.ledger.get? key =
      some { record with
        state := .failed
        outcome := some (KeyLedger.interruption key envelope.id)
        updatedAt := now } := by
  simp only [step, hstage]
  exact KeyLedger.get?_finish_self hrecord _ _ _

/-- A call whose handler answers leaves behind how the attempt ended. -/
theorem record_settle (hstage : s.calls.get? call = some (.applying envelope key handler))
    (hrecord : s.gateway.ledger.get? key = some record) (stamp : Stamp)
    (answer : Except Fault Json) :
    (s.step (.reply call stamp (.applied answer))).gateway.ledger.get? key =
      some { record with
        state := Gateway.settledState (answer.mapError Fault.text)
        outcome := some (Gateway.settledOutcome envelope key (answer.mapError Fault.text))
        updatedAt := stamp.now } := by
  obtain ⟨event, hsettle⟩ :=
    s.gateway.settle_eq stamp envelope key (answer.mapError Fault.text)
  have hexpects :
      (Call.applying envelope key handler).awaits.expects (.applied answer) = true := rfl
  simp only [step, hstage, hexpects, if_true, advance, Gateway.resume, hsettle]
  exact KeyLedger.get?_finish_self hrecord _ _ _

end Endings

/-- A failed attempt stays as it is until a commit for the key makes the next one. -/
theorem record_failed_step {s next : Traffic} (hstep : Step s next) (hlocked : s.Locked)
    {key : WriteKey} {record : KeyRecord} (hrecord : s.gateway.ledger.get? key = some record)
    (hfailed : record.state = .failed) :
    next.gateway.ledger.get? key = some record ∨
      next.gateway.ledger.attemptsOf key = record.attempts + 1 ∧
        ∃ added call token now envelope, next.history = s.history ++ added ∧
          .redeemed call token now (.valid envelope) ∈ added ∧
          envelope.resolvedKey = some key := by
  have hmarks : ¬ s.gateway.ledger.Marks key :=
    KeyLedger.not_marks_of_get? hrecord (by simp [hfailed])
  cases hstep with
  | still | registered | purged => exact .inl hrecord
  | turned call now stage? seen after hstage hnew hturn =>
      have hheld : stage?.bind Call.heldKey? ≠ some key := by
        rw [← hstage]
        exact fun hholds => hmarks (hlocked.marks_iff.mpr ⟨call, holds_iff.mpr hholds⟩)
      rcases hturn.record_kept hheld with hkept | ⟨_, hattempts, token, envelope, hseen, hkey⟩
      · exact .inl (hkept.trans hrecord)
      · rw [KeyLedger.attemptsOf_of_get? hrecord] at hattempts
        exact .inr ⟨hattempts, _, call, token, now, envelope, rfl,
          List.mem_append_left _ hseen, hkey⟩

/-- What makes the mark of a key an exact lock. -/
structure ExactLock (s : Traffic) (key : WriteKey) : Prop where
  /-- The key is marked exactly while one call holds it. -/
  marks_iff : s.gateway.ledger.Marks key ↔ ∃! call, s.Holds call key
  /-- Two calls never hold it. -/
  exclusive : ∀ first second, s.Holds first key → s.Holds second key → first = second
  /-- A call holds it from turning to the handler until it settles or is dropped. -/
  holds_iff : ∀ call, s.Holds call key ↔ ∃ handler envelope,
    s.lastSeen call = some (.asked call (.handler handler envelope)) ∧
      envelope.resolvedKey = some key
  /-- Whatever ends the hold frees the key. -/
  frees : ∀ call action, s.Holds call key → ¬ (s.step action).Holds call key →
    ¬ (s.step action).gateway.ledger.Marks key
  /-- A holder that is dropped or breaks down leaves a failed attempt in the record, and one whose
  handler answers leaves how the attempt ended. -/
  leaves : ∀ call envelope handler, s.calls.get? call = some (.applying envelope key handler) →
    ∃ record, s.gateway.ledger.get? key = some record ∧ record.state = .processing ∧
      (∀ now, (s.step (.drop call now)).gateway.ledger.get? key =
        some { record with
          state := .failed
          outcome := some (KeyLedger.interruption key envelope.id)
          updatedAt := now }) ∧
      ∀ stamp answer, (s.step (.reply call stamp (.applied answer))).gateway.ledger.get? key =
        some { record with
          state := Gateway.settledState (answer.mapError Fault.text)
          outcome := some (Gateway.settledOutcome envelope key (answer.mapError Fault.text))
          updatedAt := stamp.now }
  /-- A commit that finds the mark is told that the key is in use; it calls no handler and changes
  no record. -/
  refuses : ∀ stamp token envelope, s.gateway.tokens.worth token stamp.now = .valid envelope →
    envelope.resolvedKey = some key → s.gateway.ledger.Marks key →
    s.gateway.commit stamp token =
      (s.gateway.spend token, .answered (Gateway.busyOutcome envelope key))
  /-- A failed attempt stays in the record until a commit makes the next one. -/
  rests : ∀ record action, s.gateway.ledger.get? key = some record → record.state = .failed →
    (s.step action).gateway.ledger.get? key = some record ∨
      (s.step action).gateway.ledger.attemptsOf key = record.attempts + 1 ∧
        ∃ added call token now envelope, (s.step action).history = s.history ++ added ∧
          .redeemed call token now (.valid envelope) ∈ added ∧
          envelope.resolvedKey = some key
  /-- The next commit after a failed attempt reserves the key again. -/
  reserves : ∀ record stamp token envelope, s.gateway.ledger.get? key = some record →
    record.state = .failed → s.gateway.tokens.worth token stamp.now = .valid envelope →
    envelope.resolvedKey = some key →
    (s.gateway.commit stamp token).1.ledger.attemptsOf key = record.attempts + 1 ∧
      ∀ handler, s.gateway.handlers.get? envelope.command = some handler →
        (s.gateway.commit stamp token).1.ledger.Marks key ∧
          (s.gateway.commit stamp token).2 = .waiting (.applying envelope key handler)

/-- The mark of every key is an exact lock throughout every run. -/
theorem run_exactLock (opensApprovals : Bool) (ttl : Span) (actions : List Action)
    (key : WriteKey) : ((start opensApprovals ttl).run actions).ExactLock key := by
  obtain ⟨htold, hkeyed, _, hlocked⟩ := sound_run opensApprovals ttl actions
  generalize (start opensApprovals ttl).run actions = s at hlocked htold hkeyed
  constructor
  case marks_iff =>
    rw [hlocked.marks_iff]
    refine ⟨?_, ExistsUnique.exists⟩
    rintro ⟨call, hholds⟩
    exact ⟨call, hholds, fun other hother => hlocked.exclusive hother hholds⟩
  case exclusive => exact fun first second => hlocked.exclusive
  case holds_iff => exact fun call => holds_iff_lastSeen htold hkeyed
  case frees => exact fun call action => hlocked.frees (s.step_cases action)
  case leaves =>
    intro call envelope handler hstage
    obtain ⟨record, hrecord, hstate⟩ := hlocked.marks_iff.mpr ⟨call, envelope, handler, hstage⟩
    exact ⟨record, hrecord, hstate, record_drop hstage hrecord, record_settle hstage hrecord⟩
  case refuses =>
    intro stamp token envelope hworth hkey hmarks
    exact Gateway.commit_of_marks hworth hkey hmarks
  case rests =>
    intro record action hrecord hfailed
    exact record_failed_step (s.step_cases action) hlocked hrecord hfailed
  case reserves =>
    intro record stamp token envelope hrecord hfailed hworth hkey
    exact Gateway.commit_of_failed hworth hkey hrecord hfailed

end Traffic

end Gatehouse
