import Gatehouse.Proofs.Gateway.Lasting
import Gatehouse.Proofs.Gateway.Replay
import Gatehouse.Proofs.Gateway.Retry
import Gatehouse.Proofs.Policy.Steering

/-! # What a granted approval brings

A call that requests a write with a granted approval, and is to commit it, can be
kept from it only by others: the approval is taken back, somebody touches the
token or the time for it passes, somebody commits under the same key before, no
handler is bound to the command, or the handler fails. `Unimpeded` and
`Fulfilling` exclude these, and no ground for any other answer is left but that
the write was carried out.
-/

namespace Gatehouse

theorem Guardrails.decideBy_of_granted {g : Guardrails} {book : ApprovalBook}
    {question : PolicyRequest} {approval : String} (hfree : question.command ∉ g.denied)
    (happroval : question.approval = some approval)
    (hgranted : book.state? approval = some .approved) :
    ∃ reason, g.decideBy book question = .ok (.allow reason) := by
  by_cases hrequired : question.command ∈ g.approvalRequired
  · exact ⟨_, by rw [decideBy_of_approval hfree hrequired happroval, hgranted]; rfl⟩
  · exact ⟨none, decideBy_allow_iff.mpr ⟨hfree, .inl ⟨hrequired, rfl⟩⟩⟩

/-- From this place on nothing is noted about an approval but that it is granted. -/
def GrantKept (log : List Happening) (since : Nat) (id : String) : Prop :=
  ∀ place happening, since ≤ place → log[place]? = some happening →
    happening.approval? = some id → happening = .decided id .approved

theorem grantKept_of_silent {log : List Happening} {since : Nat} {id : String}
    (hsilent : ∀ happening ∈ log.drop since, happening.approval? ≠ some id) :
    GrantKept log since id := by
  intro place happening hle hplace habout
  refine absurd habout (hsilent happening (List.mem_iff_getElem?.mpr ⟨place - since, ?_⟩))
  rw [List.getElem?_drop, Nat.add_sub_cancel' hle, hplace]

/-- A granted approval stays granted if nothing else is noted about it. -/
theorem GrantKept.state? {log : List Happening} {since : Nat} {id : String}
    (hkept : GrantKept log since id)
    (hgranted : (ApprovalBook.ofLog (log.take since)).state? id = some .approved) {place : Nat}
    (hle : since ≤ place) : (ApprovalBook.ofLog (log.take place)).state? id = some .approved := by
  refine ApprovalBook.ofLog_take_invariant (motive := fun book => book.state? id = some .approved)
    hle hgranted ?_
  intro place happening hsince _ hplace hstands
  by_cases habout : happening.approval? = some id
  · obtain rfl := hkept place happening hsince hplace habout
    rw [← ApprovalBook.ofLog_take_succ hplace]
    exact ApprovalBook.state?_of_decided hplace (by simp [hstands])
  · rw [ApprovalBook.state?_after_of_ne habout]
    exact hstands

/-- A call redeemed a valid token for a write under a key. -/
def GatewayEvent.commits (key : Option WriteKey) : GatewayEvent → Bool
  | .redeemed _ _ _ (.valid envelope) => envelope.resolvedKey = key
  | _ => false

/-- Something was done to a token, or to all whose time was over. -/
def GatewayEvent.handlesTokens : GatewayEvent → Bool
  | .minted .. | .redeemed .. | .purged _ => true
  | _ => false

/-- A handler failed at a write. -/
def GatewayEvent.fails : GatewayEvent → Bool
  | .replied _ (.handler ..) (.applied (.error _)) => true
  | _ => false

/-- Nobody comes between a call and the write that it is to commit. -/
structure Unimpeded (history : List GatewayEvent) (ttl : Span) (call : CallId)
    (key : Option WriteKey) : Prop where
  /-- When somebody has touched a token that the call minted, the call itself has redeemed it by
  then, and in time. -/
  prompt : ∀ {place token expiresAt used event},
    MintedAt history ttl place call token expiresAt → place < used →
    history[used]? = some event → event.touches token expiresAt →
    ∃ redeemed now worth, redeemed ≤ used ∧ now < expiresAt ∧
      history[redeemed]? = some (.redeemed call token now worth)
  /-- Before the call does, nobody commits a write under the same key. -/
  first : ∀ {earlier place : Nat} {event token now worth},
    history[place]? = some (GatewayEvent.redeemed call token now worth) → earlier < place →
    history[earlier]? = some event → event.commits key = false
  /-- No handler fails at a write under this key. -/
  succeeds : ∀ {other handler envelope fault},
    .replied other (.handler handler envelope) (.applied (.error fault)) ∈ history →
    envelope.resolvedKey ≠ key

namespace Unimpeded

variable {history later : List GatewayEvent} {ttl : Span} {call : CallId} {key : Option WriteKey}

/-- Whom nobody has come in the way of by the end, nobody had come in the way of before. -/
theorem of_grown (hgrown : history <+: later) (hunimpeded : Unimpeded later ttl call key) :
    Unimpeded history ttl call key := by
  obtain ⟨added, rfl⟩ := hgrown
  constructor
  case prompt =>
    rintro place token expiresAt used event ⟨mintedAt, hminted, hexpires⟩ hlt hused htouches
    obtain ⟨redeemed, now, worth, hle, hnow, hredeemed⟩ := hunimpeded.prompt
      ⟨mintedAt, place_append hminted added, hexpires⟩ hlt (place_append hused added) htouches
    refine ⟨redeemed, now, worth, hle, hnow, ?_⟩
    rcases place_cases hredeemed with ⟨_, hbefore⟩ | ⟨hlater, _⟩
    · exact hbefore
    · have hbound := (List.getElem?_eq_some_iff.mp hused).1
      omega
  case first =>
    exact fun hplace hlt hearlier => hunimpeded.first (place_append hplace added) hlt
      (place_append hearlier added)
  case succeeds => exact fun hfailed => hunimpeded.succeeds (List.mem_append_left added hfailed)

/-- Where a token is minted and redeemed in time, and nothing else is ever done to any, everybody is
unimpeded. -/
theorem of_lone {owner : CallId} {token : String} {mintedAt now : Moment} {worth : Redemption}
    {minted redeemed : Nat}
    (hlone : (history.zipIdx.filter fun entry => entry.1.handlesTokens) =
      [(.minted owner token mintedAt, minted), (.redeemed owner token now worth, redeemed)])
    (hnow : ∀ expiresAt, mintedAt.add? ttl = some expiresAt → now < expiresAt)
    (hsucceeds : ∀ event ∈ history, event.fails = false) : Unimpeded history ttl call key := by
  have hfound : ∀ {place event}, history[place]? = some event → event.handlesTokens →
      event = .minted owner token mintedAt ∧ place = minted ∨
        event = .redeemed owner token now worth ∧ place = redeemed := by
    intro place event hplace hhandles
    have hmem : (event, place) ∈ history.zipIdx.filter fun entry => entry.1.handlesTokens :=
      List.mem_filter.mpr ⟨List.mem_zipIdx_iff_getElem?.mpr hplace, hhandles⟩
    rw [hlone] at hmem
    simpa using hmem
  constructor
  case prompt =>
    rintro place found expiresAt used event ⟨moment, hminted, hexpires⟩ hlt hused htouches
    obtain ⟨hevent, rfl⟩ | ⟨hevent, _⟩ := hfound hminted rfl
    · obtain ⟨rfl, rfl, rfl⟩ := GatewayEvent.minted.inj hevent
      have hhandles : event.handlesTokens := by
        cases event <;> first | rfl | contradiction
      obtain ⟨_, rfl⟩ | ⟨rfl, rfl⟩ := hfound hused hhandles
      · omega
      · exact ⟨used, now, worth, Nat.le_refl _, hnow expiresAt hexpires, hused⟩
    · cases hevent
  case first =>
    intro earlier place event found moment given hredeemed hlt hearlier
    cases event with
    | redeemed other spent spentAt value =>
        obtain ⟨hevent, _⟩ | ⟨_, rfl⟩ := hfound hredeemed rfl
        · cases hevent
        · obtain ⟨hevent, _⟩ | ⟨_, rfl⟩ := hfound hearlier rfl
          · cases hevent
          · omega
    | _ => rfl
  case succeeds =>
    intro other handler envelope fault hfailed
    have hsuccess := hsucceeds _ hfailed
    contradiction

end Unimpeded

/-- At this place a handler was called for a write under a key. -/
def HandledAt (history : List GatewayEvent) (key : Option WriteKey) (place : Nat) : Prop :=
  ∃ call handler envelope, history[place]? = some (.asked call (.handler handler envelope)) ∧
    envelope.resolvedKey = key

namespace Governed

/-- A call has requested a write with an approval that is granted from some place on, all of the
call comes after that place, and nobody comes between the call and the write. -/
structure Fulfilling (regime : Regime) (ttl : Span) (since : Nat) (s : Governed) (call : CallId)
    (write : Envelope) (id : String) : Prop where
  requested : .requested call write ∈ s.traffic.history
  meant : s.traffic.Meant call true
  execution : write.execution ≠ none
  free : write.command ∉ regime.guardrails.denied
  approval : write.approval = some id
  granted : (ApprovalBook.ofLog (s.log.take since)).state? id = some .approved
  kept : GrantKept s.log since id
  fresh : ∀ {place event}, s.log[place]? = some (.seen event) → event.call? = some call →
    since ≤ place
  registered : boundTo ((s.log.take since).filterMap Happening.event?) write.command ≠ none
  unimpeded : Unimpeded s.traffic.history ttl call write.resolvedKey

section Fulfilling

variable {regime : Regime} {ttl : Span} {since : Nat} {s : Governed} {call : CallId}
  {write : Envelope} {id : String}

/-- The guardrails allow the write. -/
theorem Fulfilling.allowed (hfulfilling : s.Fulfilling regime ttl since call write id)
    (hrecorded : s.Recorded regime ttl) {request : WriteRequest} {answer : Except Fault Decision}
    (hruled : Ruled s.traffic.history call request answer) :
    ∃ reason, answer = .ok (.allow reason) := by
  have hseen := hruled.replied
  rw [← hrecorded.history, mem_seen_iff] at hseen
  obtain ⟨place, hplace⟩ := List.mem_iff_getElem?.mp hseen
  obtain ⟨hquestion, hanswer⟩ := hrecorded.ruling hfulfilling.requested hplace
  have hgranted := hfulfilling.kept.state? hfulfilling.granted (hfulfilling.fresh hplace rfl)
  rw [hanswer, hquestion]
  exact Guardrails.decideBy_of_granted hfulfilling.free hfulfilling.approval hgranted

/-- The call finds the write under the token that it redeems. -/
theorem Fulfilling.redemption (hfulfilling : s.Fulfilling regime ttl since call write id)
    (hrecorded : s.Recorded regime ttl) {used : Nat} {token : String} {now : Moment}
    {worth : Redemption}
    (hredeemed : s.traffic.history[used]? = some (.redeemed call token now worth)) :
    worth = .valid { write with key := write.resolvedKey } := by
  have hlasting := hrecorded.of_runs (Traffic.lasting_run _ ttl)
  have horder := hrecorded.of_runs (Traffic.inOrder_run _ ttl)
  have hunimpeded := hfulfilling.unimpeded
  obtain ⟨asked, hasked⟩ := List.mem_iff_getElem?.mp hfulfilling.requested
  have hbefore : asked < used := by
    rcases Nat.lt_trichotomy asked used with hlt | rfl | hlt
    · exact hlt
    · rw [hasked] at hredeemed
      cases hredeemed
    · exact absurd (horder.milestone_lt hredeemed hasked rfl rfl rfl rfl hlt) (by decide)
  have hrequested := List.mem_of_getElem? ((List.getElem?_take_of_lt hbefore).trans hasked)
  obtain ⟨mintedAt, hmem⟩ := hlasting.own hredeemed hrequested
  obtain ⟨place, hplace⟩ := List.mem_iff_getElem?.mp hmem
  obtain ⟨hlt, hminted⟩ := of_place_take hplace
  obtain ⟨expiresAt, hexpires⟩ := hlasting.dated (List.mem_of_getElem? hminted)
  -- Of the redemptions of its token there is one by the call, so nobody can have come before.
  have hown : ∀ {later event}, place < later → s.traffic.history[later]? = some event →
      event.touches token expiresAt → used ≤ later ∧ now < expiresAt := by
    intro later event hlater hevent htouches
    obtain ⟨redeemed, moment, found, hle, hmoment, hfound⟩ :=
      hunimpeded.prompt ⟨mintedAt, hminted, hexpires⟩ hlater hevent htouches
    obtain rfl := horder.place_unique hfound hredeemed rfl rfl rfl rfl
    obtain ⟨_, _, rfl, _⟩ :=
      GatewayEvent.redeemed.inj (Option.some.inj (hfound.symm.trans hredeemed))
    exact ⟨hle, hmoment⟩
  have huntouched : Untouched (s.traffic.history.take used) place token expiresAt := by
    intro later event hlater hevent
    obtain ⟨hearlier, hevent⟩ := of_place_take hevent
    by_contra htouches
    obtain ⟨hle, _⟩ := hown hlater hevent (by simpa using htouches)
    omega
  obtain ⟨_, hintime⟩ := hown hlt hredeemed (by simp [GatewayEvent.touches])
  obtain ⟨envelope, hworth, original, horiginal, henvelope⟩ :=
    hlasting.redeemed hredeemed ⟨mintedAt, hplace, hexpires⟩ huntouched hintime
  obtain ⟨_, rfl⟩ := GatewayEvent.requested.inj
    (horder.event_unique horiginal hfulfilling.requested rfl rfl rfl rfl)
  rw [hworth, henvelope]

/-- What the call commits is the write, and nobody has taken its key before. -/
theorem Fulfilling.committed (hfulfilling : s.Fulfilling regime ttl since call write id)
    (hrecorded : s.Recorded regime ttl) {place : Nat} {envelope : Envelope} {key : WriteKey}
    (hcommitted : CommittedAt s.traffic.history place call envelope key) :
    envelope = { write with key := write.resolvedKey } ∧ write.resolvedKey = some key ∧
      ¬ TakenBefore s.traffic.history place key := by
  obtain ⟨hkey, token, now, hplace⟩ := hcommitted
  obtain rfl := Redemption.valid.inj (hfulfilling.redemption hrecorded hplace)
  rw [Envelope.resolvedKey_filled] at hkey
  refine ⟨rfl, hkey, ?_⟩
  rintro ⟨earlier, other, envelope, hlt, hother, otherToken, moment, hearlier⟩
  have hfirst := hfulfilling.unimpeded.first hplace hlt hearlier
  simp [GatewayEvent.commits, hother, hkey] at hfirst

/-- A handler was there for the write when the call came to it. -/
theorem Fulfilling.bound (hfulfilling : s.Fulfilling regime ttl since call write id)
    (hrecorded : s.Recorded regime ttl) {place : Nat} {event : GatewayEvent}
    (hplace : s.traffic.history[place]? = some event) (hcall : event.call? = some call) :
    boundTo (s.traffic.history.take place) write.command ≠ none := by
  rw [← hrecorded.history] at hplace ⊢
  obtain ⟨found, hfound, rfl⟩ := place_of_seen hplace
  have hsince := hfulfilling.fresh hfound hcall
  have hregistered := hfulfilling.registered
  rw [take_seenBefore]
  -- What was bound stays bound, to this handler or another.
  have hstays : (((s.log.take since).filterMap Happening.event?).filterMap
      (GatewayEvent.binds? write.command)).Sublist
      (((s.log.take found).filterMap Happening.event?).filterMap
        (GatewayEvent.binds? write.command)) :=
    ((List.take_sublist_take_left hsince).filterMap _).filterMap _
  intro hnone
  rw [boundTo, List.getLast?_eq_none_iff] at hnone
  rw [hnone, List.sublist_nil] at hstays
  exact hregistered (by rw [boundTo, hstays]; rfl)

/-- The call is answered that the write was carried out, and so it was. -/
theorem Fulfilling.carriedOut (hfulfilling : s.Fulfilling regime ttl since call write id)
    (hrecorded : s.Recorded regime ttl) {outcome : WriteOutcome}
    (hanswered : .answered call outcome ∈ s.traffic.history) :
    outcome.status = .applied ∧ ∃ handler envelope data,
      envelope.resolvedKey = write.resolvedKey ∧
        .replied call (.handler handler envelope) (.applied (.ok data)) ∈ s.traffic.history := by
  have horder := hrecorded.of_runs (Traffic.inOrder_run _ ttl)
  have hexplained := hrecorded.of_runs (Traffic.explained_run _ ttl)
  obtain ⟨place, hplace⟩ := List.mem_iff_getElem?.mp hanswered
  obtain ⟨given, auditId, hgrounds, houtcome⟩ := hexplained.answered hplace
  have hgrounds := hgrounds.append (s.traffic.history.drop place)
  rw [List.take_append_drop] at hgrounds
  have hstatus : outcome.status = given.status := by rw [houtcome]
  have hvalid : ∀ {token now worth}, .redeemed call token now worth ∈ s.traffic.history →
      worth = .valid { write with key := write.resolvedKey } := by
    intro token now worth hmem
    obtain ⟨used, hused⟩ := List.mem_iff_getElem?.mp hmem
    exact hfulfilling.redemption hrecorded hused
  rw [hstatus]
  cases hgrounds with
  | unnamed envelope hunnamed hmissing =>
      obtain ⟨_, rfl⟩ := GatewayEvent.requested.inj
        (horder.event_unique hfulfilling.requested hunnamed rfl rfl rfl rfl)
      exact absurd hmissing hfulfilling.execution
  | unavailable _ _ hruled | denied _ _ hruled | parked _ _ _ _ hruled | opened _ _ _ _ hruled
  | unopened _ _ _ _ _ hruled | unasked _ _ _ _ _ hruled =>
      obtain ⟨reason, hallowed⟩ := hfulfilling.allowed hrecorded hruled
      cases hallowed
  | accepted request reason token now =>
      exact absurd (by rw [hstatus]; rfl) (hfulfilling.meant.accepted rfl outcome hanswered)
  | unknown _ _ hredeemed | expired _ _ _ hredeemed => cases hvalid hredeemed
  | keyless token now envelope hredeemed hkey =>
      obtain rfl := Redemption.valid.inj (hvalid hredeemed)
      obtain ⟨execution, hexecution⟩ := Option.ne_none_iff_exists'.mp hfulfilling.execution
      obtain ⟨key, hresolved⟩ := write.resolvedKey_of_execution hexecution
      rw [Envelope.resolvedKey_filled, hresolved] at hkey
      contradiction
  | busy _ _ _ hcommitted htaken | replayed _ _ _ _ hcommitted htaken =>
      exact absurd htaken (hfulfilling.committed hrecorded hcommitted).2.2
  | unhandled place envelope key hcommitted hbound =>
      obtain ⟨rfl, _, _⟩ := hfulfilling.committed hrecorded hcommitted
      obtain ⟨_, token, now, hredeemed⟩ := hcommitted
      exact absurd hbound (hfulfilling.bound hrecorded hredeemed rfl)
  | settled place envelope key handler answer hcommitted hreplied =>
      have hkey := (hfulfilling.committed hrecorded hcommitted).2.1
      have hsame : envelope.resolvedKey = write.resolvedKey := hcommitted.1.trans hkey.symm
      cases answer with
      | error fault => exact absurd hsame (hfulfilling.unimpeded.succeeds hreplied)
      | ok data => exact ⟨rfl, handler, envelope, data, hsame, hreplied⟩

/-- Once the call is answered a handler has been called for the key of the write, and that once. -/
theorem Fulfilling.once (hfulfilling : s.Fulfilling regime ttl since call write id)
    (hrecorded : s.Recorded regime ttl) {outcome : WriteOutcome}
    (hanswered : .answered call outcome ∈ s.traffic.history) :
    ∃! place, HandledAt s.traffic.history write.resolvedKey place := by
  have horder := hrecorded.of_runs (Traffic.inOrder_run _ ttl)
  have hprompted := hrecorded.of_runs (Traffic.prompted_run _ ttl)
  have hjustified := hrecorded.of_runs (Traffic.justified_run _ ttl)
  obtain ⟨_, handler, envelope, data, hkey, hreplied⟩ :=
    hfulfilling.carriedOut hrecorded hanswered
  obtain ⟨own, hown⟩ := List.mem_iff_getElem?.mp (hprompted.asked hreplied)
  refine ⟨own, ⟨call, handler, envelope, hown, hkey⟩, ?_⟩
  rintro place ⟨other, bound, found, hplace, hfound⟩
  rcases Nat.lt_trichotomy place own with hlt | heq | hlt
  · -- Before a handler is called a valid token is redeemed, and the call was the first to do so.
    obtain ⟨_, before, token, now, rfl, hredeemed⟩ := hjustified.handled hown
    obtain ⟨_, earlier, _, _, rfl, hearlier⟩ := hjustified.handled hplace
    have hfirst := hfulfilling.unimpeded.first hredeemed (by omega) hearlier
    simp [GatewayEvent.commits, hfound] at hfirst
  · exact heq
  · -- Later ones are called only after this one has left, and it left for good.
    rcases hprompted.again hown hplace hlt (hkey.trans hfound.symm) with ⟨reply, hleft⟩ | hdropped
    · obtain ⟨left, hleft⟩ := List.mem_iff_getElem?.mp hleft
      obtain ⟨hearlier, hleft⟩ := of_place_take hleft
      obtain rfl := (GatewayEvent.replied.inj (horder.event_unique hreplied
        (List.mem_of_getElem? hleft) rfl rfl rfl rfl)).2.2
      obtain ⟨execution, hexecution⟩ := Option.ne_none_iff_exists'.mp hfulfilling.execution
      obtain ⟨key, hresolved⟩ := write.resolvedKey_of_execution hexecution
      have hremembers : s.traffic.Remembers := hrecorded.of_runs fun actions =>
        Traffic.run_keeps_sound Traffic.remembers_step (Traffic.remembers_start _ ttl) actions
      exact absurd (hfound.trans hresolved)
        (hremembers.rests ⟨hkey.trans hresolved, handler, hleft⟩ hearlier hplace)
    · have hsame := horder.event_unique hanswered (List.mem_of_mem_take hdropped) rfl rfl rfl rfl
      contradiction

end Fulfilling

end Governed

end Gatehouse
