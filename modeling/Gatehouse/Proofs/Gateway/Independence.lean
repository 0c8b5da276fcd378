import Gatehouse.Proofs.Gateway.Agreement

/-! # Keys do not interfere

Delete from a run all calls that touch other keys than one, and leave everything
else: the clock, what is registered and purged, what is generated for the calls
that are left and what they are replied. They get as far as before, are answered
the same and turn to the same handlers, and the record of the key is the same at
every point. The calls are told apart by the keys they touch, and a call touches
one key only as long as no token is minted twice.
-/

namespace Gatehouse

namespace Traffic

/-- The tokens that were minted, in order. -/
def minted (s : Traffic) : List String :=
  s.history.filterMap GatewayEvent.token?

/-- A call requested or redeemed a write under the key. -/
def Touches (s : Traffic) (call : CallId) (key : WriteKey) : Prop :=
  ∃ event ∈ s.history, event.call? = some call ∧ event.key? = some key

/-- A call that requested a write redeems no token but the one it minted. -/
def RedeemsMinted (s : Traffic) : Prop :=
  ∀ call token now worth envelope, .redeemed call token now worth ∈ s.history →
    .requested call envelope ∈ s.history → ∃ mintedAt, .minted call token mintedAt ∈ s.history

theorem redeemsMinted_step {opens : Bool} {s next : Traffic} (hstep : Step s next)
    (hexplained : s.Explained opens) (hredeems : s.RedeemsMinted) : next.RedeemsMinted := by
  have hsilent : ∀ {gateway : Gateway} {event : GatewayEvent}, event.call? = none →
      RedeemsMinted { s with gateway := gateway, history := s.history ++ [event] } := by
    intro gateway event hevent call token now worth envelope hredeemed hrequested
    have hearlier : ∀ {other : GatewayEvent}, other.call? = some call →
        other ∈ s.history ++ [event] → other ∈ s.history := by
      intro other hother hmem
      rcases List.mem_append.mp hmem with hmem | hmem
      · exact hmem
      · rw [List.mem_singleton.mp hmem, hevent] at hother
        contradiction
    obtain ⟨mintedAt, hminted⟩ :=
      hredeems _ _ _ _ _ (hearlier rfl hredeemed) (hearlier rfl hrequested)
    exact ⟨mintedAt, List.mem_append_left _ hminted⟩
  cases hstep with
  | still => exact hredeems
  | registered command handler => exact hsilent rfl
  | purged now => exact hsilent rfl
  | turned call now stage? seen after hstage hnew hturn =>
      intro other token moment worth envelope hredeemed hrequested
      rw [advance] at hredeemed hrequested ⊢
      rcases List.mem_append.mp hredeemed with hbefore | hadded
      · rcases List.mem_append.mp hrequested with hrequested | hrequested
        · obtain ⟨mintedAt, hminted⟩ := hredeems _ _ _ _ _ hbefore hrequested
          exact ⟨mintedAt, List.mem_append_left _ hminted⟩
        · -- A call that starts to request a write has done nothing before.
          obtain rfl : call = other := Option.some.inj (hturn.call?_added hrequested).symm
          have hstarts : stage? = none := by
            cases hturn with
            | rejected | received => rfl
            | talked stage reply progress hexpects htalks =>
                cases htalks <;> simp [Progress.events, Call.awaits] at hrequested
            | committed _ earlier stamp token _ hnow hredeems hcommits =>
                cases hredeems <;> cases hcommits <;>
                  simp [Progress.events, Call.awaits] at hrequested
            | _ => simp [Progress.events, Call.awaits] at hrequested
          exact absurd rfl (call?_ne_of_isNew (hnew hstarts) hbefore)
      · obtain ⟨earlier, stamp, rfl, _, hstarts, hcommits, rfl, rfl, rfl⟩ :=
          hturn.of_redeemed hadded
        cases hstarts with
        | outright =>
            rcases List.mem_append.mp hrequested with hrequested | hrequested
            · exact absurd rfl (call?_ne_of_isNew (hnew rfl) hrequested)
            · cases hcommits <;> simp [Progress.events] at hrequested
        | following outcome event accepted =>
            obtain ⟨_, _, mintedAt, _, hminted, _⟩ := hexplained.calls call _ hstage
            exact ⟨mintedAt, List.mem_append_left _ hminted⟩

theorem redeemsMinted_run (opens : Bool) (ttl : Span) (actions : List Action) :
    ((start opens ttl).run actions).RedeemsMinted := by
  induction actions using List.reverseRecOn with
  | nil => simp [RedeemsMinted, run, start]
  | append_singleton actions action ih =>
      rw [run_concat]
      exact redeemsMinted_step (step_cases _ action) (explained_run opens ttl actions) ih

section Touches

variable {s next : Traffic} {call : CallId} {key : WriteKey}

theorem Touches.grow (htouches : s.Touches call key) (hgrows : s.history <+: next.history) :
    next.Touches call key := by
  obtain ⟨event, hevent, hshows⟩ := htouches
  exact ⟨event, hgrows.subset hevent, hshows⟩

theorem touches_of_petitioned {envelope : Envelope}
    (hpetitioned : Petitioned s.history call envelope) (hkey : envelope.resolvedKey = some key) :
    s.Touches call key := by
  obtain ⟨original, hrequested, rfl⟩ := hpetitioned
  exact ⟨_, hrequested, rfl, original.resolvedKey_filled.symm.trans hkey⟩

theorem minted_unique (hdistinct : s.minted.Nodup) {first second : CallId} {token : String}
    {firstAt secondAt : Moment} (hfirst : .minted first token firstAt ∈ s.history)
    (hsecond : .minted second token secondAt ∈ s.history) : first = second := by
  rw [minted, List.Nodup, List.pairwise_filterMap] at hdistinct
  by_contra hne
  have hapart : (GatewayEvent.minted first token firstAt) ≠ .minted second token secondAt :=
    fun heq => hne (GatewayEvent.minted.inj heq).1
  have hsymm : Std.Symm fun one other : GatewayEvent => ∀ fst, one.token? = some fst →
      ∀ snd, other.token? = some snd → fst ≠ snd :=
    ⟨fun one other hne snd hsnd fst hfst heq => hne fst hfst snd hsnd heq.symm⟩
  exact hdistinct.forall hfirst hsecond hapart token rfl token rfl rfl

/-- What is pending under the token that a call minted is the write which the call requested. -/
theorem Accounted.petitioned {ttl : Span} (haccounted : s.Accounted ttl)
    (hdistinct : s.minted.Nodup) {token : String} {mintedAt : Moment} {write : PendingWrite}
    (hminted : .minted call token mintedAt ∈ s.history)
    (hwrite : s.gateway.tokens.pending.get? token = some write) :
    Petitioned s.history call write.envelope := by
  obtain ⟨granter, _, _, hbacking⟩ := haccounted.pending token write hwrite
  obtain ⟨grantedAt, hgranted, _⟩ := hbacking.mint
  obtain rfl := minted_unique hdistinct hminted (List.mem_of_getElem? hgranted)
  exact hbacking.requested

theorem Accounted.resolvedKey_of_pending {ttl : Span} (haccounted : s.Accounted ttl)
    {token : String} {write : PendingWrite}
    (hwrite : s.gateway.tokens.pending.get? token = some write) :
    ∃ own, write.envelope.resolvedKey = some own := by
  obtain ⟨_, _, _, hbacking⟩ := haccounted.pending token write hwrite
  obtain ⟨execution, hexecution⟩ := hbacking.execution
  exact write.envelope.resolvedKey_of_execution hexecution

/-- Where a call waits it can touch no keys but those it has touched. -/
theorem touchesOnly_of_touches {opens : Bool} {ttl : Span} (haccounted : s.Accounted ttl)
    (hexplained : s.Explained opens) (hkeyed : s.Keyed) (hdistinct : s.minted.Nodup) {stage : Call}
    (hstage : s.calls.get? call = some stage) {such : WriteKey → Prop}
    (hsuch : ∀ own, s.Touches call own → such own) : stage.TouchesOnly s.gateway.tokens such := by
  have hborne := haccounted.calls call stage hstage
  have hknown := hkeyed call stage hstage
  cases stage with
  | receiving request event =>
      exact hsuch _ (touches_of_petitioned hborne (WriteRequest.Keyed.resolvedKey_eq hknown))
  | evaluating request =>
      exact hsuch _ (touches_of_petitioned hborne (WriteRequest.Keyed.resolvedKey_eq hknown))
  | judged request decision event =>
      exact hsuch _ (touches_of_petitioned hborne.1 (WriteRequest.Keyed.resolvedKey_eq hknown))
  | opening request reason payload =>
      exact hsuch _ (touches_of_petitioned hborne.1 (WriteRequest.Keyed.resolvedKey_eq hknown))
  | accepting outcome token thenCommit event =>
      intro write hwrite
      obtain ⟨_, _, mintedAt, _, hminted, _⟩ := hexplained.calls call _ hstage
      obtain ⟨own, hown⟩ := haccounted.resolvedKey_of_pending hwrite
      have hpetitioned := haccounted.petitioned hdistinct hminted hwrite
      exact ⟨own, hown, hsuch own (touches_of_petitioned hpetitioned hown)⟩
  | applying envelope own handler =>
      obtain ⟨place, hkey, token, now, hplace⟩ := hexplained.calls call _ hstage
      exact hsuch own ⟨_, List.mem_of_getElem? hplace, rfl, hkey⟩
  | closing => trivial

/-- A call has one key. -/
theorem touches_unique {opens : Bool} {ttl : Span} {actions : List Action}
    (hrun : s = (start opens ttl).run actions) (hdistinct : s.minted.Nodup)
    {first second : WriteKey} (hfirst : s.Touches call first) (hsecond : s.Touches call second) :
    first = second := by
  have horder : s.InOrder := hrun ▸ inOrder_run opens ttl actions
  have hvouched : s.Vouched := hrun ▸ vouched_run opens ttl actions
  have hredeems : s.RedeemsMinted := hrun ▸ redeemsMinted_run opens ttl actions
  have hmixed : ∀ {token now worth envelope one other},
      .redeemed call token now worth ∈ s.history → .requested call envelope ∈ s.history →
      (GatewayEvent.redeemed call token now worth).key? = some one →
      envelope.resolvedKey = some other → one = other := by
    intro token now worth envelope one other hredeemed hrequested hone hother
    obtain ⟨write, hfound, hkey⟩ := Option.bind_eq_some_iff.mp hone
    obtain ⟨granter, grantedAt, hgranted, original, horiginal, rfl⟩ := hvouched hredeemed hfound
    obtain ⟨mintedAt, hminted⟩ := hredeems _ _ _ _ _ hredeemed hrequested
    obtain rfl := minted_unique hdistinct hminted hgranted
    obtain rfl := horder.requested_unique hrequested horiginal
    rw [envelope.resolvedKey_filled, hother] at hkey
    exact (Option.some.inj hkey).symm
  obtain ⟨event, hevent, hcall, hkey⟩ := hfirst
  obtain ⟨event', hevent', hcall', hkey'⟩ := hsecond
  cases event with
  | requested one envelope =>
      obtain rfl := Option.some.inj hcall
      cases event' with
      | requested other envelope' =>
          obtain rfl := Option.some.inj hcall'
          obtain rfl := horder.requested_unique hevent hevent'
          exact Option.some.inj (hkey.symm.trans hkey')
      | redeemed other token now worth =>
          obtain rfl := Option.some.inj hcall'
          exact (hmixed hevent' hevent hkey' hkey).symm
      | _ => simp [GatewayEvent.key?] at hkey'
  | redeemed one token now worth =>
      obtain rfl := Option.some.inj hcall
      cases event' with
      | requested other envelope =>
          obtain rfl := Option.some.inj hcall'
          exact hmixed hevent hevent' hkey hkey'
      | redeemed other token' now' worth' =>
          obtain rfl := Option.some.inj hcall'
          have hsame := horder.event_unique hevent hevent' rfl rfl rfl rfl
          rw [← hsame, hkey] at hkey'
          exact Option.some.inj hkey'
      | _ => simp [GatewayEvent.key?] at hkey'
  | _ => simp [GatewayEvent.key?] at hkey

end Touches

/-- A call touches no key but this one. -/
def keepsTo (s : Traffic) (key : WriteKey) (call : CallId) : Bool :=
  s.history.all fun event => event.call? ≠ some call || event.key?.all (· = key)

/-- What is left of a list of actions when all calls are deleted that touch other keys. -/
def onlyAbout (s : Traffic) (key : WriteKey) (actions : List Action) : List Action :=
  actions.filter fun action => action.call?.all (s.keepsTo key)

theorem keepsTo_iff {s : Traffic} {key : WriteKey} {call : CallId} :
    s.keepsTo key call ↔ ∀ own, s.Touches call own → own = key := by
  rw [keepsTo, List.all_eq_true]
  constructor
  · rintro hall own ⟨event, hevent, hcall, hkey⟩
    simpa [hcall, hkey] using hall event hevent
  · intro hown event hevent
    by_cases hcall : event.call? = some call
    · cases hkey : event.key? with
      | none => simp
      | some own => simp [hown own ⟨event, hevent, hcall, hkey⟩]
    · simp [hcall]

/-- The second traffic is like the first but for the calls that are not kept: the gateway is the
same as far as the key goes, the calls that are kept wait at the same points, and what is seen is
the same, answers and what handlers are asked included. -/
structure AlikeAt (keeps : CallId → Bool) (key : WriteKey) (full left : Traffic) : Prop where
  gateway : full.gateway.AgreesAt key left.gateway
  calls : ∀ call, left.calls.get? call = if keeps call then full.calls.get? call else none
  history : left.history = full.history.filter fun event => event.call?.all keeps

namespace AlikeAt

variable {opens : Bool} {ttl : Span} {before : List Action} {keeps : CallId → Bool} {key : WriteKey}
  {s left : Traffic} {call : CallId}

theorem at_start (keeps : CallId → Bool) (key : WriteKey) (opens : Bool) (ttl : Span) :
    AlikeAt keeps key (start opens ttl) (start opens ttl) where
  gateway :=
    { opens := rfl
      handlers := rfl
      ttl := rfl
      pending := fun _ => rfl
      record := rfl }
  calls := by simp [start]
  history := rfl

theorem isNew_eq (halike : AlikeAt keeps key s left) (hkeeps : keeps call) :
    left.isNew call = s.isNew call := by
  have hcalls : left.calls.contains call = s.calls.contains call := by
    rw [Table.contains, Table.contains, halike.calls, if_pos hkeeps]
  rw [isNew, isNew, hcalls, halike.history, List.all_filter]
  congr 2
  ext event
  by_cases hcall : event.call? = some call
  · simp [hcall, hkeeps]
  · simp [hcall]

theorem registered (halike : AlikeAt keeps key s left) (command : String) (handler : HandlerId) :
    AlikeAt keeps key (s.step (.register command handler))
      (left.step (.register command handler)) where
  gateway := halike.gateway.registered command handler
  calls := halike.calls
  history := by simp [step, halike.history, GatewayEvent.call?]

theorem purged (halike : AlikeAt keeps key s left) (now : Moment) :
    AlikeAt keeps key (s.step (.purge now)) (left.step (.purge now)) where
  gateway := halike.gateway.purged now
  calls := halike.calls
  history := by simp [step, halike.history, GatewayEvent.call?]

section Advance

variable {now : Moment} {seen : List GatewayEvent} {after : Gateway × Progress}

theorem advanced (halike : AlikeAt keeps key s left) (hkeeps : keeps call)
    (hseen : ∀ event ∈ seen, event.call? = some call) {other : Gateway × Progress}
    (hprogress : other.2 = after.2) (hagrees : after.1.AgreesAt key other.1) :
    AlikeAt keeps key (s.advance call now seen after) (left.advance call now seen other) where
  gateway := hagrees
  calls := by
    intro one
    simp only [advance, get?_place, hprogress, halike.calls]
    by_cases hone : one = call
    · simp [hone, hkeeps]
    · simp [hone]
  history := by
    have hadded : (seen ++ after.2.events call now).filter (fun event => event.call?.all keeps) =
        seen ++ after.2.events call now := by
      refine List.filter_eq_self.mpr fun event hevent => ?_
      have hcall : event.call? = some call := by
        rcases List.mem_append.mp hevent with hevent | hevent
        · exact hseen event hevent
        · exact call?_events hevent
      simp [hcall, hkeeps]
    rw [advance, advance, hprogress, halike.history, List.filter_append, hadded]

theorem advancedApart (halike : AlikeAt keeps key s left) (hkeeps : keeps call = false)
    (hadded : ∀ event ∈ seen ++ after.2.events call now, event.call? = some call)
    (hagrees : after.1.AgreesAt key left.gateway) :
    AlikeAt keeps key (s.advance call now seen after) left where
  gateway := hagrees
  calls := by
    intro one
    rw [advance, get?_place, halike.calls]
    by_cases hone : one = call
    · simp [hone, hkeeps]
    · simp [hone]
  history := by
    have hnothing : (seen ++ after.2.events call now).filter (fun event => event.call?.all keeps) =
        [] := by
      refine List.filter_eq_nil_iff.mpr fun event hevent => ?_
      simp [hadded event hevent, hkeeps]
    rw [advance, List.filter_append, hnothing, List.append_nil, halike.history]

end Advance

theorem redemption_eq (halike : AlikeAt keeps key s left) {token : String}
    (hown : ∀ write, s.gateway.tokens.pending.get? token = some write →
      write.envelope.resolvedKey = some key) (now : Moment) :
    left.redemption call token now = s.redemption call token now := by
  rw [redemption, redemption, halike.gateway.worth_eq hown]

/-- A call about the key takes the same turn on both sides. -/
theorem kept_step (hrun : s = (start opens ttl).run before) (halike : AlikeAt keeps key s left)
    (hdistinct : s.minted.Nodup) {action : Action} (hcall : action.call? = some call)
    (hkeeps : keeps call) (hown : ∀ own, (s.step action).Touches call own → own = key) :
    AlikeAt keeps key (s.step action) (left.step action) := by
  have haccounted : s.Accounted ttl := hrun ▸ accounted_run opens ttl before
  have hkeyed : s.Keyed := hrun ▸ keyed_run opens ttl before
  have htouches : ∀ stage, s.calls.get? call = some stage →
      stage.TouchesOnly s.gateway.tokens (· = key) := by
    intro stage hstage
    refine touchesOnly_of_touches haccounted (hrun ▸ explained_run opens ttl before) hkeyed
      hdistinct hstage fun own htouches => ?_
    exact hown own (htouches.grow (s.step_cases action).history_grows)
  have hcalls : left.calls.get? call = s.calls.get? call := by rw [halike.calls, if_pos hkeeps]
  cases action with
  | register | purge => contradiction
  | request other stamp envelope thenCommit =>
      obtain rfl := Option.some.inj hcall
      simp only [step, halike.isNew_eq hkeeps]
      split
      · exact halike.advanced hkeeps (by simp [GatewayEvent.call?]) rfl halike.gateway
      · exact halike
  | commit other stamp token =>
      obtain rfl := Option.some.inj hcall
      simp only [step, halike.isNew_eq hkeeps] at hown ⊢
      split
      next hnew =>
        rw [if_pos hnew] at hown
        have hpending : ∀ write, s.gateway.tokens.pending.get? token = some write →
            write.envelope.resolvedKey = some key := by
          intro write hwrite
          obtain ⟨own, hkey⟩ := haccounted.resolvedKey_of_pending hwrite
          rw [hkey, hown own ⟨s.redemption other token stamp.now, by simp [advance], rfl, ?_⟩]
          rw [redemption, GatewayEvent.key?, CommitTokens.write?_worth hwrite]
          exact hkey
        obtain ⟨hprogress, hagrees⟩ := halike.gateway.committed hpending stamp
        rw [halike.redemption_eq hpending]
        exact halike.advanced hkeeps (by simp [redemption, GatewayEvent.call?]) hprogress hagrees
      next => exact halike
  | reply other stamp reply =>
      obtain rfl := Option.some.inj hcall
      simp only [step, hcalls]
      cases hstage : s.calls.get? other with
      | none => exact halike
      | some stage =>
          by_cases hexpects : stage.awaits.expects reply
          · have hturn := Gateway.resume_turn s other stamp stage reply hexpects
            have hredemptions : left.redemptionsAfter other stamp.now stage =
                s.redemptionsAfter other stamp.now stage := by
              cases stage with
              | accepting outcome token thenCommit event =>
                  have hpending : ∀ write, s.gateway.tokens.pending.get? token = some write →
                      write.envelope.resolvedKey = some key := by
                    intro write hwrite
                    obtain ⟨own, hkey, rfl⟩ := htouches _ hstage write hwrite
                    exact hkey
                  cases thenCommit with
                  | true => exact congrArg (fun event => [event]) (halike.redemption_eq hpending _)
                  | false => rfl
              | _ => rfl
            obtain ⟨hprogress, hagrees⟩ :=
              halike.gateway.resumed (hkeyed other stage hstage) (htouches stage hstage) stamp reply
            simp only [hexpects, if_true, hredemptions]
            exact halike.advanced hkeeps (fun event => hturn.call?_seen) hprogress hagrees
          · simp only [hexpects, Bool.false_eq_true, if_false]
            exact halike
  | drop other now =>
      obtain rfl := Option.some.inj hcall
      simp only [step, hcalls]
      cases hstage : s.calls.get? other with
      | none => exact halike
      | some stage =>
          exact halike.advanced hkeeps (by simp) rfl
            (halike.gateway.abandoned (htouches stage hstage) now)

/-- A call about other keys takes its turn on one side only. -/
theorem deleted_step (hrun : s = (start opens ttl).run before) (halike : AlikeAt keeps key s left)
    {action : Action} (hdistinct : (s.step action).minted.Nodup) (hcall : action.call? = some call)
    (hkeeps : keeps call = false) (hother : ∀ own, (s.step action).Touches call own → own ≠ key) :
    AlikeAt keeps key (s.step action) left := by
  have haccounted : s.Accounted ttl := hrun ▸ accounted_run opens ttl before
  have hkeyed : s.Keyed := hrun ▸ keyed_run opens ttl before
  have hgrows := (s.step_cases action).history_grows
  have hbefore : s.minted.Nodup := hdistinct.sublist (hgrows.sublist.filterMap _)
  rcases s.step_turned hcall with
    hstill | ⟨now, stage?, seen, after, hstage, hnew, hturn, hstep⟩
  · rw [hstill]
    exact halike
  · rw [hstep] at hdistinct hother hgrows ⊢
    refine halike.advancedApart hkeeps (fun event => hturn.call?_added) ?_
    apply halike.gateway.turnedApart hturn
    case hkeyed => exact fun stage hsome => hkeyed call stage (hstage.trans hsome)
    case htouches =>
      intro stage hsome
      refine touchesOnly_of_touches haccounted (hrun ▸ explained_run opens ttl before) hkeyed
        hbefore (hstage.trans hsome) fun own htouches => ?_
      exact hother own (htouches.grow hgrows)
    case hseen =>
      intro event hevent hkey
      have hmem : event ∈ (s.advance call now seen after).history := by simp [advance, hevent]
      exact hother key ⟨event, hmem, hturn.call?_seen hevent, hkey⟩ rfl
    case hfresh =>
      intro token hminted
      rw [Option.eq_none_iff_forall_ne_some]
      intro write hwrite
      obtain ⟨granter, _, _, hbacking⟩ := haccounted.pending token write hwrite
      obtain ⟨grantedAt, hgranted, _⟩ := hbacking.mint
      rw [minted, advance, List.filterMap_append, List.nodup_append] at hdistinct
      refine hdistinct.2.2 token ?_ token ?_ rfl
      · exact List.mem_filterMap.mpr ⟨_, List.mem_of_getElem? hgranted, rfl⟩
      · exact List.mem_filterMap.mpr ⟨_, List.mem_append_right _ hminted, rfl⟩

end AlikeAt

theorem onlyAbout_concat (s : Traffic) (key : WriteKey) (before : List Action) (action : Action) :
    s.onlyAbout key (before ++ [action]) =
      if action.call?.all (s.keepsTo key) then s.onlyAbout key before ++ [action]
      else s.onlyAbout key before := by
  rw [onlyAbout, List.filter_append, ← onlyAbout]
  split
  next hkept => simp [hkept]
  next hdeleted => simp [hdeleted]

theorem alike_run (opens : Bool) (ttl : Span) (key : WriteKey) {actions : List Action}
    (hdistinct : ((start opens ttl).run actions).minted.Nodup) {before : List Action}
    (hbefore : before <+: actions) :
    AlikeAt (((start opens ttl).run actions).keepsTo key) key ((start opens ttl).run before)
      ((start opens ttl).run (((start opens ttl).run actions).onlyAbout key before)) := by
  induction before using List.reverseRecOn with
  | nil => exact AlikeAt.at_start _ key opens ttl
  | append_singleton before action ih =>
      have halike := ih ((List.prefix_append before [action]).trans hbefore)
      have hgrows : (((start opens ttl).run before).step action).history <+:
          ((start opens ttl).run actions).history := by
        obtain ⟨after, rfl⟩ := hbefore
        rw [List.append_assoc, List.singleton_append, run_append_cons]
        exact history_run _ after
      have hafter : (((start opens ttl).run before).step action).minted.Nodup :=
        hdistinct.sublist (hgrows.sublist.filterMap _)
      have hnow : ((start opens ttl).run before).minted.Nodup :=
        hafter.sublist ((step_cases _ action).history_grows.sublist.filterMap _)
      rw [run_concat, onlyAbout_concat]
      cases hcall : action.call? with
      | none =>
          simp only [Option.all_none, if_true, run_concat]
          cases action with
          | register command handler => exact halike.registered command handler
          | purge now => exact halike.purged now
          | _ => contradiction
      | some call =>
          simp only [Option.all_some]
          split
          next hkeeps =>
            rw [run_concat]
            refine halike.kept_step rfl hnow hcall hkeeps fun own htouches => ?_
            exact keepsTo_iff.mp hkeeps own (htouches.grow hgrows)
          next hkeeps =>
            rw [keepsTo_iff] at hkeeps
            push Not at hkeeps
            obtain ⟨other, hother, hne⟩ := hkeeps
            refine halike.deleted_step rfl hafter hcall ?_ fun own htouches => ?_
            · rw [Bool.eq_false_iff, ne_eq, keepsTo_iff]
              exact fun hown => hne (hown other hother)
            · rwa [← touches_unique rfl hdistinct hother (htouches.grow hgrows)]

/-- What is seen of everything but the calls that touch other keys. -/
def seenAbout (s : Traffic) (key : WriteKey) : List GatewayEvent :=
  s.history.filter fun event => event.call?.all (s.keepsTo key)

/-- While no token is minted twice, the calls that touch other keys make no difference to a key: a
run from which they are deleted is like the whole run at every point, and two runs of which the same
is left then end with the same record of the key and have shown the same. -/
theorem run_independent (opens : Bool) (ttl : Span) (key : WriteKey) (actions : List Action)
    (hdistinct : ((start opens ttl).run actions).minted.Nodup) :
    (∀ before, before <+: actions →
      AlikeAt (((start opens ttl).run actions).keepsTo key) key ((start opens ttl).run before)
        ((start opens ttl).run (((start opens ttl).run actions).onlyAbout key before))) ∧
    ∀ others, ((start opens ttl).run others).minted.Nodup →
      ((start opens ttl).run others).onlyAbout key others =
        ((start opens ttl).run actions).onlyAbout key actions →
      ((start opens ttl).run others).gateway.ledger.get? key =
          ((start opens ttl).run actions).gateway.ledger.get? key ∧
        ((start opens ttl).run others).seenAbout key =
          ((start opens ttl).run actions).seenAbout key := by
  refine ⟨fun before hbefore => alike_run opens ttl key hdistinct hbefore, ?_⟩
  intro others hothers hsame
  have halike := alike_run opens ttl key hdistinct List.prefix_rfl
  have hother := alike_run opens ttl key hothers List.prefix_rfl
  rw [hsame] at hother
  exact ⟨hother.gateway.record.symm.trans halike.gateway.record,
    hother.history.symm.trans halike.history⟩

/-- A write under one key that is carried out, while another under another key goes through phase
one and what follows is done with it. -/
def sideBySide (following : List Action) : List Action :=
  let envelope : String → Envelope := fun name =>
    ⟨"send", "ana", "mail:1", .null, none, some "run", some ⟨name⟩, none, ⟨name⟩, .ofNanos 0⟩
  let stamp : String → Stamp := fun token => ⟨.ofNanos 0, "id", "event", token⟩
  let meanwhile : List Action := [
    .reply ⟨1⟩ (stamp "") (.recorded true),
    .reply ⟨2⟩ (stamp "") (.recorded true),
    .reply ⟨1⟩ (stamp "") (.decided (.ok (.allow none))),
    .reply ⟨2⟩ (stamp "") (.decided (.ok (.allow none))),
    .reply ⟨1⟩ (stamp "t1") (.recorded true),
    .reply ⟨2⟩ (stamp "t2") (.recorded true)]
  [.register "send" ⟨0⟩, .request ⟨1⟩ (stamp "") (envelope "one") true,
    .request ⟨2⟩ (stamp "") (envelope "two") true] ++ meanwhile ++ following ++
  [.reply ⟨1⟩ (stamp "") (.recorded true), .reply ⟨1⟩ (stamp "") (.applied (.ok (.bool true))),
    .reply ⟨1⟩ (stamp "") (.recorded true)]

/-- The handler of the other write fails. -/
def otherFails : List Action :=
  let stamp : Stamp := ⟨.ofNanos 0, "id", "event", ""⟩
  sideBySide [.reply ⟨2⟩ stamp (.recorded true),
    .reply ⟨2⟩ stamp (.applied (.error (.invalidPayload "down"))),
    .reply ⟨2⟩ stamp (.recorded true)]

/-- The other write is dropped before it is committed. -/
def otherDropped : List Action :=
  sideBySide [.drop ⟨2⟩ (.ofNanos 0)]

theorem otherFails_independent :
    ((start true (.ofSeconds 60)).run otherFails).minted = ["t1", "t2"] ∧
    AlikeAt (((start true (.ofSeconds 60)).run otherFails).keepsTo ⟨"one"⟩) ⟨"one"⟩
      ((start true (.ofSeconds 60)).run otherFails)
      ((start true (.ofSeconds 60)).run
        (((start true (.ofSeconds 60)).run otherFails).onlyAbout ⟨"one"⟩ otherFails)) ∧
    ((start true (.ofSeconds 60)).run otherDropped).gateway.ledger.get? ⟨"one"⟩ =
      ((start true (.ofSeconds 60)).run otherFails).gateway.ledger.get? ⟨"one"⟩ := by
  obtain ⟨hdeleted, hreplaced⟩ :=
    run_independent true (.ofSeconds 60) ⟨"one"⟩ otherFails (by decide)
  exact ⟨rfl, hdeleted otherFails List.prefix_rfl, (hreplaced otherDropped (by decide) rfl).1⟩

end Traffic

end Gatehouse
