import Gatehouse.Proofs.Gateway.Allowance
import Gatehouse.Proofs.Policy.Log

/-! # A gateway under guardrails

Governance is now the guardrails and an approval book that the operator decides
in, while everybody else around the gateway may still do what they like. The
guardrails rule by the book as it stands at that moment. Approvals are opened
by the book itself when the gateway asks it to, or by somebody else the gateway
turns to, or by nobody, and perhaps also behind the gateway's back. The traffic
of such a run is a run of traffic, and the log of it tells of every ruling how
it followed from the book.
-/

namespace Gatehouse

namespace Traffic

/-- What an action adds to the history. -/
def newEvents (s : Traffic) (action : Action) : List GatewayEvent :=
  (s.step action).history.drop s.history.length

theorem history_step (s : Traffic) (action : Action) :
    (s.step action).history = s.history ++ s.newEvents action :=
  (List.prefix_iff_eq_append.mp (s.step_cases action).history_grows).symm

theorem replied_not_mem_events (call other : CallId) (now : Moment) (progress : Progress)
    (whom : Awaited) (reply : Reply) : .replied other whom reply ∉ progress.events call now := by
  unfold Progress.events
  split <;> simp

section Replies

variable {s : Traffic} {call : CallId} {stage : Call} {reply : Reply}

/-- The reply that a call waited for is seen first. -/
theorem newEvents_reply (stamp : Stamp) (hstage : s.calls.get? call = some stage)
    (hexpects : stage.awaits.expects reply) :
    ∃ rest, s.newEvents (.reply call stamp reply) = .replied call stage.awaits reply :: rest := by
  simp [newEvents, step, hstage, hexpects, advance]

/-- A reply is seen only when it is given to the call that waited for it. -/
theorem of_replied_newEvents {action : Action} {whom : Awaited}
    (hmem : .replied call whom reply ∈ s.newEvents action) :
    ∃ stamp stage, action = .reply call stamp reply ∧ s.calls.get? call = some stage ∧
      stage.awaits = whom := by
  cases action with
  | register command handler => simp [newEvents, step] at hmem
  | purge now => simp [newEvents, step] at hmem
  | request other stamp envelope thenCommit =>
      simp only [newEvents, step] at hmem
      split at hmem <;> simp [advance, replied_not_mem_events] at hmem
  | commit other stamp token =>
      simp only [newEvents, step] at hmem
      split at hmem <;> simp [advance, redemption, replied_not_mem_events] at hmem
  | drop other now =>
      simp only [newEvents, step] at hmem
      split at hmem <;> simp [advance, replied_not_mem_events] at hmem
  | reply other stamp given =>
      cases hstage : s.calls.get? other with
      | none => simp [newEvents, step, hstage] at hmem
      | some stage =>
          by_cases hexpects : stage.awaits.expects given
          · simp only [newEvents, step, hstage, hexpects, if_true, advance, List.drop_left,
              List.cons_append, List.mem_cons, List.mem_append, replied_not_mem_events,
              or_false] at hmem
            rcases hmem with hreplied | hredeemed
            · obtain ⟨rfl, rfl, rfl⟩ := GatewayEvent.replied.inj hreplied
              exact ⟨stamp, stage, rfl, hstage, rfl⟩
            · unfold redemptionsAfter at hredeemed
              split at hredeemed <;> simp [redemption] at hredeemed
          · simp [newEvents, step, hstage, hexpects] at hmem

end Replies

end Traffic

/-- Who opens the approvals that a gateway needs. -/
inductive Opener where
  | nobody
  | book
  | other
  deriving DecidableEq

/-- Who has a say about the writes of a gateway. -/
structure Regime where
  guardrails : Guardrails
  opener : Opener
  /-- Approvals are opened also behind the gateway's back. -/
  outsiders : Bool

/-- The actions that pass the guardrails and the book by. -/
def Regime.leaves (regime : Regime) : Traffic.Action → Bool
  | .reply _ _ (.decided _) => false
  | .reply _ _ (.opened _) => regime.opener = .other
  | _ => true

/-- A gateway with calls in flight, the approval book behind it, and the log of both. -/
structure Governed where
  traffic : Traffic
  book : ApprovalBook
  log : List Happening

namespace Governed

/-- What can happen to a gateway under guardrails. -/
inductive Action where
  | gateway (action : Traffic.Action)
  /-- The guardrails rule on the write of a call. -/
  | rule (call : CallId) (stamp : Stamp)
  /-- The book opens an approval, under the first stamp, for the write of a call. -/
  | openFor (call : CallId) (opening stamp : Stamp)
  /-- The book opens an approval that no call asked for. -/
  | openAside (opening : Stamp)
  | approve (id : String)
  | reject (id : String)

/-- A gateway and a book that nothing has happened to. -/
def start (regime : Regime) (ttl : Span) : Governed where
  traffic := .start (regime.opener ≠ .nobody) ttl
  book := .empty
  log := []

/-- The gateway goes on. -/
def move (s : Governed) (action : Traffic.Action) : Governed where
  traffic := s.traffic.step action
  book := s.book
  log := s.log ++ (s.traffic.newEvents action).map .seen

/-- The book opens an approval. -/
def openApproval (s : Governed) (opening : Stamp) : Governed :=
  { s with book := s.book.opened opening, log := s.log ++ [.opened opening] }

/-- What an action makes of a gateway under guardrails. -/
def step (regime : Regime) (s : Governed) : Action → Governed
  | .gateway action => if regime.leaves action then s.move action else s
  | .rule call stamp =>
    match s.traffic.calls.get? call with
    | some (.evaluating request) =>
      s.move (.reply call stamp (.decided (regime.guardrails.decideBy s.book request.question)))
    | _ => s
  | .openFor call opening stamp =>
    match s.traffic.calls.get? call with
    | some (.opening ..) =>
      if regime.opener = .book then
        (s.openApproval opening).move
          (.reply call stamp (.opened (.ok (ApprovalBook.nameFor opening))))
      else s
    | _ => s
  | .openAside opening => if regime.outsiders then s.openApproval opening else s
  | .approve id => { s with book := s.book.approve id, log := s.log ++ [.decided id .approved] }
  | .reject id => { s with book := s.book.reject id, log := s.log ++ [.decided id .rejected] }

/-- What a list of actions makes of a gateway under guardrails. -/
def run (regime : Regime) (s : Governed) (actions : List Action) : Governed :=
  actions.foldl (step regime) s

/-- Every way in which a gateway under guardrails can change. -/
inductive Step (regime : Regime) (s : Governed) : Governed → Prop where
  | still : Step regime s s
  | moved (action : Traffic.Action) (hleaves : regime.leaves action) :
      Step regime s (s.move action)
  | ruled (call : CallId) (stamp : Stamp) (request : WriteRequest)
      (hstage : s.traffic.calls.get? call = some (.evaluating request)) :
      Step regime s
        (s.move (.reply call stamp
          (.decided (regime.guardrails.decideBy s.book request.question))))
  | openedFor (call : CallId) (opening stamp : Stamp) (request : WriteRequest) (reason : String)
      (payload : Json)
      (hstage : s.traffic.calls.get? call = some (.opening request reason payload)) :
      Step regime s
        ((s.openApproval opening).move
          (.reply call stamp (.opened (.ok (ApprovalBook.nameFor opening)))))
  | openedAside (opening : Stamp) (houtsiders : regime.outsiders) :
      Step regime s (s.openApproval opening)
  | decided (id : String) (decision : ApprovalState) :
      Step regime s
        { s with book := s.book.decide id decision, log := s.log ++ [.decided id decision] }

theorem step_cases (regime : Regime) (s : Governed) (action : Action) :
    Step regime s (s.step regime action) := by
  cases action with
  | gateway action =>
      simp only [step]
      split
      next hleaves => exact .moved action hleaves
      next => exact .still
  | rule call stamp =>
      simp only [step]
      split
      next request hstage => exact .ruled call stamp request hstage
      next => exact .still
  | openFor call opening stamp =>
      simp only [step]
      split
      next request reason payload hstage =>
        split
        next => exact .openedFor call opening stamp request reason payload hstage
        next => exact .still
      next => exact .still
  | openAside opening =>
      simp only [step]
      split
      next houtsiders => exact .openedAside opening houtsiders
      next => exact .still
  | approve id => exact .decided id .approved
  | reject id => exact .decided id .rejected

/-- The log tells of the gateway and of the book what they went through, and of every ruling that it
follows from the book as it stood then. -/
structure Recorded (regime : Regime) (ttl : Span) (s : Governed) : Prop where
  course : ∃ actions, s.traffic = (Traffic.start (regime.opener ≠ .nobody) ttl).run actions
  history : s.log.filterMap Happening.event? = s.traffic.history
  book : s.book = .ofLog s.log
  ruled : ∀ {place call question answer},
    s.log[place]? = some (.seen (.replied call (.evaluator question) (.decided answer))) →
    answer = regime.guardrails.decideBy (.ofLog (s.log.take place)) question

theorem recorded_start (regime : Regime) (ttl : Span) : (start regime ttl).Recorded regime ttl where
  course := ⟨[], rfl⟩
  history := rfl
  book := rfl
  ruled := by simp [start]

section Recorded

variable {regime : Regime} {ttl : Span} {s : Governed}

/-- What every run of traffic comes to holds of the traffic. -/
theorem Recorded.of_runs (hrecorded : s.Recorded regime ttl) {holds : Traffic → Prop}
    (hruns : ∀ actions, holds ((Traffic.start (regime.opener ≠ .nobody) ttl).run actions)) :
    holds s.traffic := by
  obtain ⟨actions, hactions⟩ := hrecorded.course
  rw [hactions]
  exact hruns actions

/-- The gateway goes on, and what rulings are seen of it are by the book. -/
theorem Recorded.move (hrecorded : s.Recorded regime ttl) {action : Traffic.Action}
    (hruling : ∀ {call question answer},
      .replied call (.evaluator question) (.decided answer) ∈ s.traffic.newEvents action →
      answer = regime.guardrails.decideBy s.book question) :
    (s.move action).Recorded regime ttl where
  course := by
    obtain ⟨actions, hactions⟩ := hrecorded.course
    refine ⟨actions ++ [action], ?_⟩
    rw [Traffic.run_concat, ← hactions]
    rfl
  history := by
    simp only [Governed.move, List.filterMap_append, hrecorded.history, Traffic.history_step]
    simp [List.filterMap_map, Function.comp_def, Happening.event?]
  book := by
    rw [Governed.move, ApprovalBook.ofLog_append_seen]
    exact hrecorded.book
  ruled := by
    intro place call question answer hplace
    rcases place_cases hplace with ⟨_, hbefore⟩ | ⟨hlater, hadded⟩
    · rw [Governed.move, take_append hbefore]
      exact hrecorded.ruled hbefore
    · -- What was seen of the gateway in the meantime changes nothing in the book.
      have htake : (s.move action).log.take place = s.log ++
          ((s.traffic.newEvents action).take (place - s.log.length)).map .seen := by
        rw [Governed.move, List.take_append, List.take_of_length_le hlater, List.map_take]
      rw [htake, ApprovalBook.ofLog_append_seen, ← hrecorded.book]
      have hreplied : .replied call (.evaluator question) (.decided answer) ∈
          s.traffic.newEvents action := by
        simpa using hadded
      exact hruling hreplied

theorem Recorded.note (hrecorded : s.Recorded regime ttl) (happening : Happening)
    (hevent : happening.event? = none) :
    Recorded regime ttl
      { s with book := s.book.after happening, log := s.log ++ [happening] } where
  course := hrecorded.course
  history := by simp [hevent, hrecorded.history]
  book := by rw [ApprovalBook.ofLog_append_singleton, hrecorded.book]
  ruled := by
    intro place call question answer hplace
    rcases place_cases hplace with ⟨_, hbefore⟩ | ⟨_, hadded⟩
    · rw [take_append hbefore]
      exact hrecorded.ruled hbefore
    · rw [← List.mem_singleton.mp hadded] at hevent
      contradiction

theorem Recorded.openApproval (hrecorded : s.Recorded regime ttl) (opening : Stamp) :
    (s.openApproval opening).Recorded regime ttl :=
  hrecorded.note (.opened opening) rfl

theorem recorded_step {next : Governed} (hstep : Step regime s next)
    (hrecorded : s.Recorded regime ttl) : next.Recorded regime ttl := by
  cases hstep with
  | still => exact hrecorded
  | moved action hleaves =>
      -- Rulings are no replies that may be given past the guardrails.
      apply hrecorded.move
      intro call question answer hreplied
      obtain ⟨stamp, stage, rfl, _, _⟩ := Traffic.of_replied_newEvents hreplied
      contradiction
  | ruled call stamp request hstage =>
      apply hrecorded.move
      intro other question answer hreplied
      obtain ⟨_, stage, haction, hother, hawaits⟩ := Traffic.of_replied_newEvents hreplied
      obtain ⟨rfl, rfl, hreply⟩ := Traffic.Action.reply.inj haction
      obtain rfl := Option.some.inj (hstage.symm.trans hother)
      obtain rfl := Awaited.evaluator.inj hawaits
      exact (Reply.decided.inj hreply).symm
  | openedFor call opening stamp request reason payload hstage =>
      apply (hrecorded.openApproval opening).move
      intro other question answer hreplied
      obtain ⟨_, stage, haction, _, _⟩ := Traffic.of_replied_newEvents hreplied
      have hreply := (Traffic.Action.reply.inj haction).2.2
      contradiction
  | openedAside opening houtsiders => exact hrecorded.openApproval opening
  | decided id decision => exact hrecorded.note (.decided id decision) rfl

end Recorded

/-- What every step keeps, beside what the log tells, holds throughout a run. -/
theorem run_keeps {regime : Regime} {ttl : Span} {holds : Governed → Prop}
    (hkeeps : ∀ {s next : Governed}, Step regime s next → s.Recorded regime ttl → holds s →
      holds next)
    (hstart : holds (start regime ttl)) (actions : List Action) :
    ((start regime ttl).run regime actions).Recorded regime ttl ∧
      holds ((start regime ttl).run regime actions) := by
  induction actions using List.reverseRecOn with
  | nil => exact ⟨recorded_start regime ttl, hstart⟩
  | append_singleton actions action ih =>
      obtain ⟨hrecorded, hholds⟩ := ih
      have hstep := step_cases regime ((start regime ttl).run regime actions) action
      rw [run, List.foldl_concat, ← run]
      exact ⟨recorded_step hstep hrecorded, hkeeps hstep hrecorded hholds⟩

theorem recorded_run (regime : Regime) (ttl : Span) (actions : List Action) :
    ((start regime ttl).run regime actions).Recorded regime ttl :=
  (run_keeps (fun _ _ _ => trivial) trivial actions).1

end Governed

end Gatehouse
