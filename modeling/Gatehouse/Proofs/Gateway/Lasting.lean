import Gatehouse.Proofs.Gateway.Grounds

/-! # How long a token lasts

A token stands for the write that it was minted for until somebody redeems it or
mints it once more, or until tokens are purged after its time. So whoever is the
first to touch a token, and comes in time, finds the write under it; a call that
commits the write it requested redeems the token that it has minted itself.
-/

namespace Gatehouse

/-- The event leaves nothing of a token that lasts until some moment. -/
def GatewayEvent.touches (token : String) (expiresAt : Moment) : GatewayEvent → Bool
  | .redeemed _ other _ _ | .minted _ other _ => other = token
  | .purged now => expiresAt ≤ now
  | _ => false

/-- Since this place nobody has touched a token. -/
def Untouched (history : List GatewayEvent) (place : Nat) (token : String) (expiresAt : Moment) :
    Prop :=
  ∀ later event, place < later → history[later]? = some event →
    event.touches token expiresAt = false

theorem Untouched.of_append {history added : List GatewayEvent} {place : Nat} {token : String}
    {expiresAt : Moment} (huntouched : Untouched (history ++ added) place token expiresAt) :
    Untouched history place token expiresAt :=
  fun later event hlater hplace => huntouched later event hlater (place_append hplace added)

/-- Nor has anybody touched it by what was added since. -/
theorem Untouched.added {history added : List GatewayEvent} {place : Nat} {token : String}
    {expiresAt : Moment} (huntouched : Untouched (history ++ added) place token expiresAt)
    (hplace : place < history.length) {event : GatewayEvent} (hmem : event ∈ added) :
    event.touches token expiresAt = false := by
  obtain ⟨i, hi⟩ := List.mem_iff_getElem?.mp hmem
  refine huntouched (history.length + i) event (by omega) ?_
  rw [List.getElem?_append_right (Nat.le_add_right _ _), Nat.add_sub_cancel_left, hi]

theorem MintedAt.lt_length {history : List GatewayEvent} {ttl : Span} {place : Nat} {call : CallId}
    {token : String} {expiresAt : Moment}
    (hminted : MintedAt history ttl place call token expiresAt) :
    place < history.length := by
  obtain ⟨mintedAt, hplace, _⟩ := hminted
  exact (List.getElem?_eq_some_iff.mp hplace).1

namespace Turn

variable {g : Gateway} {call : CallId} {now : Moment} {stage? : Option Call}
  {seen : List GatewayEvent} {after : Gateway × Progress}

/-- What is under a token stays there through a turn that does not touch the token. -/
theorem pending_kept (hturn : Turn g call now stage? seen after) {token : String}
    {write : PendingWrite} (hpending : g.tokens.pending.get? token = some write)
    (huntouched : ∀ event ∈ seen ++ after.2.events call now,
      event.touches token write.expiresAt = false) :
    after.1.tokens.pending.get? token = some write := by
  cases hturn with
  | minted request reason event accepting accepted fresh expiresAt outcome hexpires =>
      have hother := huntouched (.minted call fresh now) (by simp [Progress.events])
      have hne : token ≠ fresh := fun heq => by simp [GatewayEvent.touches, heq] at hother
      rw [Table.get?_put, if_neg hne]
      exact hpending
  | committed _ earlier stamp spent _ hnow hredeems hcommits =>
      have htokens : after.1.tokens = g.tokens.without spent := by cases hcommits <;> rfl
      have hother := huntouched (.redeemed call spent now (g.tokens.worth spent now)) (by simp)
      have hne : token ≠ spent := fun heq => by simp [GatewayEvent.touches, heq] at hother
      rw [htokens, CommitTokens.without, Table.get?_erase, if_neg hne]
      exact hpending
  | _ => exact hpending

end Turn

namespace Traffic

/-- The history tells of every token when it is still good. -/
structure Lasting (ttl : Span) (s : Traffic) : Prop where
  dated : ∀ {call token now}, .minted call token now ∈ s.history →
    ∃ expiresAt, now.add? ttl = some expiresAt
  /-- Under a token that nobody has touched is the write that it was minted for. -/
  pending : ∀ {place call token expiresAt},
    MintedAt s.history ttl place call token expiresAt →
    Untouched s.history place token expiresAt →
    ∃ write, s.gateway.tokens.pending.get? token = some ⟨write, expiresAt⟩ ∧
      Petitioned s.history call write
  /-- Whoever is the first to touch a token finds that write, before its time is over. -/
  redeemed : ∀ {used other token now worth place call expiresAt},
    s.history[used]? = some (.redeemed other token now worth) →
    MintedAt (s.history.take used) ttl place call token expiresAt →
    Untouched (s.history.take used) place token expiresAt → now < expiresAt →
    ∃ write, worth = .valid write ∧ Petitioned s.history call write
  /-- A call that has requested a write redeems the token that it has minted. -/
  own : ∀ {used call token now worth envelope},
    s.history[used]? = some (.redeemed call token now worth) →
    .requested call envelope ∈ s.history.take used →
    ∃ mintedAt, .minted call token mintedAt ∈ s.history.take used

theorem lasting_start (opens : Bool) (ttl : Span) : (start opens ttl).Lasting ttl := by
  constructor <;> simp [start, MintedAt]

section Step

variable {ttl : Span} {s : Traffic} {opens : Bool}

/-- What concerns no call can only be a purge. -/
theorem Lasting.silent (hlasting : s.Lasting ttl) {gateway : Gateway} {event : GatewayEvent}
    (hsilent : event.call? = none)
    (hpending : ∀ {token write}, s.gateway.tokens.pending.get? token = some write →
      event.touches token write.expiresAt = false →
      gateway.tokens.pending.get? token = some write) :
    Lasting ttl { s with gateway := gateway, history := s.history ++ [event] } where
  dated := by
    intro call token now hmem
    rcases List.mem_append.mp hmem with hbefore | hadded
    · exact hlasting.dated hbefore
    · rw [← List.mem_singleton.mp hadded] at hsilent
      contradiction
  pending := by
    rintro place call token expiresAt ⟨mintedAt, hplace, hexpires⟩ huntouched
    have hbefore := place_of_silent hsilent hplace rfl
    have hminted : MintedAt s.history ttl place call token expiresAt :=
      ⟨mintedAt, hbefore, hexpires⟩
    obtain ⟨write, hwrite, hpetitioned⟩ := hlasting.pending hminted huntouched.of_append
    have hspared := huntouched.added hminted.lt_length (List.mem_singleton.mpr rfl)
    exact ⟨write, hpending hwrite hspared, hpetitioned.append _⟩
  redeemed := by
    intro used other token now worth place call expiresAt hplace hminted huntouched hnow
    have hbefore := place_of_silent hsilent hplace rfl
    rw [take_append hbefore] at hminted huntouched
    obtain ⟨write, hworth, hpetitioned⟩ := hlasting.redeemed hbefore hminted huntouched hnow
    exact ⟨write, hworth, hpetitioned.append _⟩
  own := by
    intro used call token now worth envelope hplace hrequested
    have hbefore := place_of_silent hsilent hplace rfl
    rw [take_append hbefore] at hrequested ⊢
    exact hlasting.own hbefore hrequested

variable {call : CallId} {now : Moment} {stage? : Option Call} {seen : List GatewayEvent}
  {after : Gateway × Progress}

/-- Where a turn redeems a token, the history before it is that of the traffic and of the reply that
the call came with. -/
theorem take_of_redeemed (horder : (s.advance call now seen after).InOrder)
    (hturn : Turn s.gateway call now stage? seen after) {used : Nat} {other : CallId}
    {token : String} {moment : Moment} {worth : Redemption}
    (hplace : (s.advance call now seen after).history[used]? =
      some (.redeemed other token moment worth))
    (hadded : .redeemed other token moment worth ∈ seen ++ after.2.events call now) :
    ∃ earlier, (s.advance call now seen after).history.take used = s.history ++ earlier ∧
      Redeems call token stage? earlier ∧ call = other ∧ now = moment ∧
      worth = s.gateway.tokens.worth token now := by
  obtain ⟨earlier, stamp, hseen, _, hredeems, _, rfl, rfl, hworth⟩ := hturn.of_redeemed hadded
  have hhistory : (s.advance call now seen after).history =
      (s.history ++ earlier) ++ .redeemed call token now (s.gateway.tokens.worth token now) ::
        after.2.events call now := by
    simp [advance, hseen]
  exact ⟨earlier, (horder.take_place hhistory hplace rfl rfl rfl rfl).2, hredeems, rfl, rfl, hworth⟩

theorem Lasting.turned (hlasting : s.Lasting ttl) (haccounted : s.Accounted ttl)
    (hexplained : s.Explained opens) (horder : (s.advance call now seen after).InOrder)
    (hstage : s.calls.get? call = stage?) (hnew : stage? = none → s.isNew call)
    (hturn : Turn s.gateway call now stage? seen after) :
    (s.advance call now seen after).Lasting ttl where
  dated := by
    intro other token moment hmem
    rcases List.mem_append.mp hmem with hbefore | hadded
    · exact hlasting.dated hbefore
    · obtain ⟨_, rfl, _, _, _, expiresAt, _, hexpires, _⟩ := hturn.pending_of_minted hadded
      rw [haccounted.ttl_eq] at hexpires
      exact ⟨expiresAt, hexpires⟩
  pending := by
    rintro place other token expiresAt ⟨mintedAt, hplace, hexpires⟩ huntouched
    rcases place_cases hplace with ⟨_, hbefore⟩ | ⟨_, hadded⟩
    · have hminted : MintedAt s.history ttl place other token expiresAt :=
        ⟨mintedAt, hbefore, hexpires⟩
      obtain ⟨write, hwrite, hpetitioned⟩ := hlasting.pending hminted huntouched.of_append
      refine ⟨write, hturn.pending_kept hwrite ?_, hpetitioned.append _⟩
      exact fun event hevent => huntouched.added hminted.lt_length hevent
    · obtain ⟨rfl, rfl, request, reason, event, later, rfl, hlater, hpending⟩ :=
        hturn.pending_of_minted hadded
      rw [haccounted.ttl_eq, hexpires] at hlater
      obtain rfl := Option.some.inj hlater
      exact ⟨_, hpending, (haccounted.calls call _ hstage).1.append _⟩
  redeemed := by
    intro used other token moment worth place minter expiresAt hplace hminted huntouched hmoment
    rcases place_cases hplace with ⟨_, hbefore⟩ | ⟨_, hadded⟩
    · rw [advance, take_append hbefore] at hminted huntouched
      obtain ⟨write, hworth, hpetitioned⟩ :=
        hlasting.redeemed hbefore hminted huntouched hmoment
      exact ⟨write, hworth, hpetitioned.append _⟩
    · obtain ⟨earlier, htake, hredeems, rfl, rfl, rfl⟩ :=
        take_of_redeemed horder hturn hplace hadded
      rw [htake] at hminted huntouched
      obtain ⟨mintedAt, hplaced, hexpires⟩ := hminted
      -- The reply that the call came with mints nothing.
      rcases place_cases hplaced with ⟨_, hbefore⟩ | ⟨_, hreplied⟩
      · obtain ⟨write, hwrite, hpetitioned⟩ :=
          hlasting.pending ⟨mintedAt, hbefore, hexpires⟩ huntouched.of_append
        exact ⟨write, CommitTokens.worth_valid_iff.mpr ⟨expiresAt, hwrite, hmoment⟩,
          hpetitioned.append _⟩
      · cases hredeems <;> simp at hreplied
  own := by
    intro used other token moment worth envelope hplace hrequested
    rcases place_cases hplace with ⟨_, hbefore⟩ | ⟨_, hadded⟩
    · rw [advance, take_append hbefore] at hrequested ⊢
      exact hlasting.own hbefore hrequested
    · obtain ⟨earlier, htake, hredeems, rfl, rfl, rfl⟩ :=
        take_of_redeemed horder hturn hplace hadded
      rw [htake] at hrequested ⊢
      cases hredeems with
      | outright =>
          rw [List.append_nil] at hrequested
          exact absurd rfl (call?_ne_of_isNew (hnew rfl) hrequested)
      | following outcome event accepted =>
          obtain ⟨_, _, mintedAt, _, hminted, _⟩ := hexplained.calls call _ hstage
          exact ⟨mintedAt, List.mem_append_left _ hminted⟩

theorem lasting_step {next : Traffic} (hstep : Step s next) (hnext : next.InOrder)
    (haccounted : s.Accounted ttl) (hexplained : s.Explained opens) (hlasting : s.Lasting ttl) :
    next.Lasting ttl := by
  cases hstep with
  | still => exact hlasting
  | registered command handler => exact hlasting.silent (by rfl) fun hwrite _ => hwrite
  | purged moment =>
      refine hlasting.silent (by rfl) fun {token write} hwrite hspared => ?_
      have hlt : moment < write.expiresAt := Int.not_le.mp (of_decide_eq_false hspared)
      simp only [Gateway.purge, CommitTokens.purge, Table.get?_filter, hwrite]
      simp [hlt]
  | turned call now stage? seen after hstage hnew hturn =>
      exact hlasting.turned haccounted hexplained hnext hstage hnew hturn

end Step

/-- In every run tokens last until somebody touches them. -/
theorem lasting_run (opens : Bool) (ttl : Span) (actions : List Action) :
    ((start opens ttl).run actions).Lasting ttl := by
  induction actions using List.reverseRecOn with
  | nil => exact lasting_start opens ttl
  | append_singleton actions action ih =>
      have hnext := inOrder_run opens ttl (actions ++ [action])
      rw [run_concat] at hnext ⊢
      exact lasting_step (((start opens ttl).run actions).step_cases action) hnext
        (accounted_run opens ttl actions) (explained_run opens ttl actions) ih

end Traffic

end Gatehouse
