import Gatehouse.Proofs.Policy.Governed

/-! # Guardrails hold from the ruling to the handler

Between the ruling of the guardrails and the call of a handler lie a token, its
redemption and any number of other calls. Every handler call goes back to a
ruling on that very write, and the ruling followed from the book as it stood
then. So no handler is called for a denied command, and for a command that
needs an approval only on one that the operator had granted. Commands are
compared exactly, by the guardrails and by the table of handlers alike.
-/

namespace Gatehouse

theorem registered_of_boundTo {history : List GatewayEvent} {command : String}
    {handler : HandlerId} (hbound : boundTo history command = some handler) :
    .registered command handler ∈ history := by
  have hmem := List.mem_of_getLast? hbound
  obtain ⟨event, hevent, hbinds⟩ := List.mem_filterMap.mp hmem
  cases event with
  | registered bound other =>
      simp only [GatewayEvent.binds?] at hbinds
      split at hbinds
      next heq =>
        rw [heq, Option.some.inj hbinds] at hevent
        exact hevent
      next => contradiction
  | _ => contradiction

theorem Granted.mem {log : List Happening} {id : String} (hgranted : Granted log id) :
    .decided id .approved ∈ log := by
  obtain ⟨_, _, granted, _, hplace, _⟩ := hgranted
  exact List.mem_of_getElem? hplace

namespace Governed

/-- The write came with an approval that the book, when the guardrails gave the ruling that pays for
the handler call, had opened and held as granted. -/
def ApprovedFor (log : List Happening) (ttl : Span) (place : Nat) (call : CallId)
    (envelope : Envelope) : Prop :=
  ∃ ruled granter approval, ruled < place ∧
    Traffic.Pays (log.filterMap Happening.event?) ttl (seenBefore log ruled)
      (seenBefore log place) call envelope ∧
    log[ruled]? = some (.seen (.replied granter (.evaluator envelope.question)
      (.decided (.ok (.allow (some "approval_granted")))))) ∧
    envelope.approval = some approval ∧
    (ApprovalBook.ofLog (log.take ruled)).state? approval = some .approved ∧
    Granted (log.take ruled) approval

section Recorded

variable {regime : Regime} {ttl : Span} {s : Governed} {place : Nat} {call : CallId}
  {handler : HandlerId} {envelope : Envelope}

theorem Recorded.boundTo_eq (hrecorded : s.Recorded regime ttl)
    (hasked : s.log[place]? = some (.seen (.asked call (.handler handler envelope)))) :
    boundTo ((s.log.take place).filterMap Happening.event?) envelope.command = some handler := by
  have hjustified := hrecorded.of_runs (Traffic.justified_run _ ttl)
  have hseen := seen_of_place hasked
  rw [hrecorded.history] at hseen
  rw [← take_seenBefore, hrecorded.history]
  exact (hjustified.handled hseen).1

/-- The guardrails ruled at one place, by the book as it stood then, and the ruling pays for the
handler call at another. -/
theorem Recorded.ruledFor (hrecorded : s.Recorded regime ttl)
    (hasked : s.log[place]? = some (.seen (.asked call (.handler handler envelope)))) :
    ∃ ruled granter reason, ruled < place ∧
      Traffic.Pays (s.log.filterMap Happening.event?) ttl (seenBefore s.log ruled)
        (seenBefore s.log place) call envelope ∧
      s.log[ruled]? = some (.seen (.replied granter (.evaluator envelope.question)
        (.decided (.ok (.allow reason))))) ∧
      regime.guardrails.decideBy (.ofLog (s.log.take ruled)) envelope.question =
        .ok (.allow reason) := by
  have hjustified := hrecorded.of_runs (Traffic.justified_run _ ttl)
  have hseen := seen_of_place hasked
  rw [hrecorded.history] at hseen
  obtain ⟨paid, hpays⟩ := hjustified.pays hseen
  rw [← hrecorded.history] at hpays
  obtain ⟨granter, reason, hallowed⟩ := hpays.allowed
  obtain ⟨ruled, hruled, rfl⟩ := place_of_seen hallowed
  refine ⟨ruled, granter, reason, ?_, hpays, hruled, (hrecorded.ruled hruled).symm⟩
  -- What pays for a call comes before it in the history, and so it does in the log.
  by_contra hlater
  exact absurd hpays.before (Nat.not_lt.mpr (seenBefore_mono _ (Nat.not_lt.mp hlater)))

theorem Recorded.not_denied (hrecorded : s.Recorded regime ttl)
    (hasked : s.log[place]? = some (.seen (.asked call (.handler handler envelope)))) :
    envelope.command ∉ regime.guardrails.denied := by
  obtain ⟨ruled, _, reason, _, _, _, hruling⟩ := hrecorded.ruledFor hasked
  exact (Guardrails.decideBy_allow_iff.mp hruling).1

theorem Recorded.approvedFor (hrecorded : s.Recorded regime ttl)
    (hasked : s.log[place]? = some (.seen (.asked call (.handler handler envelope))))
    (hrequired : envelope.command ∈ regime.guardrails.approvalRequired) :
    ApprovedFor s.log ttl place call envelope := by
  obtain ⟨ruled, granter, reason, hlt, hpays, hruled, hruling⟩ := hrecorded.ruledFor hasked
  rcases (Guardrails.decideBy_allow_iff.mp hruling).2 with
    ⟨hfree, _⟩ | ⟨_, rfl, approval, happroval, hstate⟩
  · exact absurd hrequired hfree
  · exact ⟨ruled, granter, approval, hlt, hpays, hruled, happroval, hstate,
      ApprovalBook.granted_of_approved hstate⟩

end Recorded

/-- What it takes for guardrails to hold of every handler call. -/
structure Guarded (s : Governed) (guardrails : Guardrails) (ttl : Span) : Prop where
  /-- The book is what the log makes of it. -/
  book : s.book = .ofLog s.log
  /-- The handler that is called is the one bound to exactly the command of the write. -/
  bound : ∀ {place : Nat} {call handler envelope},
    s.log[place]? = some (.seen (.asked call (.handler handler envelope))) →
    boundTo ((s.log.take place).filterMap Happening.event?) envelope.command = some handler
  /-- No handler is called for a denied command, whatever was granted. -/
  denied : ∀ {place : Nat} {call handler envelope},
    s.log[place]? = some (.seen (.asked call (.handler handler envelope))) →
    envelope.command ∉ guardrails.denied
  /-- For a command that needs an approval, a handler is called only on a granted one. -/
  approved : ∀ {place : Nat} {call handler envelope},
    s.log[place]? = some (.seen (.asked call (.handler handler envelope))) →
    envelope.command ∈ guardrails.approvalRequired → ApprovedFor s.log ttl place call envelope
  /-- A handler that was bound only to commands that are denied, or that need an approval while the
  operator has granted none, is not called, whatever the command of the write. -/
  closed : ∀ {place : Nat} {handler},
    (∀ command, .seen (.registered command handler) ∈ s.log.take place →
      command ∈ guardrails.denied ∨ command ∈ guardrails.approvalRequired ∧
        ∀ id, .decided id .approved ∉ s.log.take place) →
    ∀ call envelope, s.log[place]? ≠ some (.seen (.asked call (.handler handler envelope)))

/-- In every run of a gateway under guardrails they hold of every handler call. -/
theorem run_guarded (regime : Regime) (ttl : Span) (actions : List Action) :
    ((start regime ttl).run regime actions).Guarded regime.guardrails ttl := by
  have hrecorded := recorded_run regime ttl actions
  generalize (start regime ttl).run regime actions = s at hrecorded
  constructor
  case book => exact hrecorded.book
  case bound => exact hrecorded.boundTo_eq
  case denied => exact hrecorded.not_denied
  case approved => exact hrecorded.approvedFor
  case closed =>
    intro place handler hclosed call envelope hasked
    have hregistered := registered_of_boundTo (hrecorded.boundTo_eq hasked)
    rcases hclosed _ (mem_seen_iff.mp hregistered) with hforbidden | ⟨hrequired, hungranted⟩
    · exact hrecorded.not_denied hasked hforbidden
    · obtain ⟨ruled, _, approval, hlt, _, _, _, _, hgranted⟩ :=
        hrecorded.approvedFor hasked hrequired
      apply hungranted approval
      exact List.take_subset_take_left s.log (Nat.le_of_lt hlt) hgranted.mem

end Governed

end Gatehouse
