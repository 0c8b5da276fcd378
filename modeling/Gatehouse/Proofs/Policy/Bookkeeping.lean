import Gatehouse.Proofs.Policy.Unlocking

/-! # How approvals stand

How an approval stands changes only where it is opened or decided on, and the
book opens one right before it tells the call that had it opened. The
guardrails name an approval only while it waits for its decision, and for a
command that needs one they rule by how it stands.
-/

namespace Gatehouse

namespace Guardrails

variable {g : Guardrails} {book : ApprovalBook} {question : PolicyRequest}

/-- The guardrails name an approval only while it is pending. -/
theorem of_parked_decideBy {reason approval : String} {payload : Json}
    (hruling : g.decideBy book question = .ok (.requiresApproval reason (some approval) payload)) :
    question.approval = some approval ∧ book.state? approval = some .pending := by
  unfold decideBy decide at hruling
  split at hruling
  · simp at hruling
  · split at hruling
    · simp at hruling
    · cases hgiven : question.approval with
      | none => simp [hgiven, parked] at hruling
      | some given =>
          rcases hstate : book.state? given with _ | _ | _ | _ <;>
            simp [hgiven, hstate, Except.map, decideOn, parked] at hruling
          obtain ⟨_, rfl, _⟩ := hruling
          exact ⟨rfl, hstate⟩

/-- On a command that needs an approval they rule by how the approval stands. -/
theorem decideBy_of_approval {approval : String} (hfree : question.command ∉ g.denied)
    (hrequired : question.command ∈ g.approvalRequired)
    (happroval : question.approval = some approval) :
    g.decideBy book question = .ok (decideOn question approval (book.state? approval)) := by
  simp [decideBy, decide, hfree, hrequired, happroval, Except.map]

end Guardrails

/-- The operator decided about an approval between two places, and nothing was done about it from
then on up to the later one. -/
def DecidedBetween (log : List Happening) (first last : Nat) (id : String)
    (decision : ApprovalState) : Prop :=
  ∃ decided, first ≤ decided ∧ decided < last ∧ log[decided]? = some (.decided id decision) ∧
    ∀ later happening, decided < later → later < last → log[later]? = some happening →
      happening.approval? ≠ some id

theorem DecidedBetween.succ {log : List Happening} {first last : Nat} {id : String}
    {decision : ApprovalState} (hdecided : DecidedBetween log first last id decision)
    (hquiet : ∀ happening, log[last]? = some happening → happening.approval? ≠ some id) :
    DecidedBetween log first (last + 1) id decision := by
  obtain ⟨decided, hfirst, hlast, hplace, hbefore⟩ := hdecided
  refine ⟨decided, hfirst, Nat.lt_succ_of_lt hlast, hplace, ?_⟩
  intro later happening hlater hbound hfound
  rcases Nat.lt_succ_iff_lt_or_eq.mp hbound with hlt | rfl
  · exact hbefore later happening hlater hlt hfound
  · exact hquiet happening hfound

namespace ApprovalBook

theorem ofLog_take_of_none {log : List Happening} {place : Nat} (hplace : log[place]? = none) :
    ofLog (log.take (place + 1)) = ofLog (log.take place) := by
  rw [List.take_add_one, hplace, Option.toList_none, List.append_nil]

theorem ofLog_take_succ {log : List Happening} {place : Nat} {happening : Happening}
    (hplace : log[place]? = some happening) :
    ofLog (log.take (place + 1)) = (ofLog (log.take place)).after happening := by
  rw [List.take_add_one, hplace, Option.toList_some, ofLog_append_singleton]

/-- What holds of the book at one place, and what every happening from there on preserves, holds of
it at a later place. -/
theorem ofLog_take_invariant {motive : ApprovalBook → Prop} {log : List Happening}
    {first last : Nat} (hle : first ≤ last) (hfirst : motive (ofLog (log.take first)))
    (hnext : ∀ place happening, first ≤ place → place < last → log[place]? = some happening →
      motive (ofLog (log.take place)) → motive ((ofLog (log.take place)).after happening)) :
    motive (ofLog (log.take last)) := by
  induction last, hle using Nat.le_induction with
  | base => exact hfirst
  | succ last hle ih =>
      have hlast := ih fun place happening hfrom hlt =>
        hnext place happening hfrom (Nat.lt_succ_of_lt hlt)
      cases hplace : log[last]? with
      | none => rwa [ofLog_take_of_none hplace]
      | some happening =>
          rw [ofLog_take_succ hplace]
          exact hnext last happening hle (Nat.lt_succ_self last) hplace hlast

/-- An approval that was pending is pending still, or the operator has decided about it since. -/
theorem state?_of_pending {log : List Happening} {id : String} {first last : Nat}
    (hle : first ≤ last) (hpending : (ofLog (log.take first)).state? id = some .pending) :
    ∃ state, (ofLog (log.take last)).state? id = some state ∧
      (state = .pending ∨ DecidedBetween log first last id state) := by
  induction last, hle using Nat.le_induction with
  | base => exact ⟨.pending, hpending, .inl rfl⟩
  | succ last hle ih =>
      obtain ⟨state, hstate, hsince⟩ := ih
      cases hplace : log[last]? with
      | none =>
          rw [ofLog_take_of_none hplace]
          refine ⟨state, hstate, hsince.imp_right fun hdecided => hdecided.succ ?_⟩
          simp [hplace]
      | some happening =>
          rw [ofLog_take_succ hplace]
          by_cases habout : happening.approval? = some id
          · cases happening with
            | seen event => contradiction
            | opened stamp =>
                refine ⟨.pending, ?_, .inl rfl⟩
                rw [after, state?_opened, if_pos (Option.some.inj habout).symm]
            | decided other decision =>
                obtain rfl := Option.some.inj habout
                refine ⟨decision, ?_, .inr ⟨last, hle, Nat.lt_succ_self _, hplace, ?_⟩⟩
                · rw [after, state?_decide, if_pos rfl, hstate]
                  rfl
                · intro later happening hlater hbound
                  omega
          · rw [state?_after_of_ne habout]
            refine ⟨state, hstate, hsince.imp_right fun hdecided => hdecided.succ ?_⟩
            simpa [hplace] using habout

/-- A decision on an approval that was opened takes effect. -/
theorem state?_of_decided {log : List Happening} {place : Nat} {id : String}
    {decision : ApprovalState} (hplace : log[place]? = some (.decided id decision))
    (hknown : (ofLog (log.take place)).state? id ≠ none) :
    (ofLog (log.take (place + 1))).state? id = some decision := by
  obtain ⟨state, hstate⟩ := Option.ne_none_iff_exists'.mp hknown
  rw [ofLog_take_succ hplace, after, state?_decide, if_pos rfl, hstate]
  rfl

/-- An approval that was opened stays in the book. -/
theorem state?_ne_none {log : List Happening} {id : String} {first last : Nat}
    (hle : first ≤ last) (hknown : (ofLog (log.take first)).state? id ≠ none) :
    (ofLog (log.take last)).state? id ≠ none := by
  refine ofLog_take_invariant (motive := fun book => book.state? id ≠ none) hle hknown ?_
  intro place happening _ _ _ hkept
  cases happening with
  | seen event => exact hkept
  | opened stamp =>
      rw [after, state?_opened]
      split <;> simp [hkept]
  | decided other decision =>
      rw [after, state?_decide]
      split
      next heq => simpa [heq] using hkept
      next => exact hkept

end ApprovalBook

namespace Traffic

variable {s : Traffic} {call : CallId}

/-- When an approval was opened for a call, it goes on to record that. -/
theorem newEvents_opened {request : WriteRequest} {reason : String} {payload : Json}
    (hstage : s.calls.get? call = some (.opening request reason payload)) (stamp : Stamp)
    (id : String) :
    ∃ event, s.newEvents (.reply call stamp (.opened (.ok id))) =
      [.replied call (.creator request.envelope payload) (.opened (.ok id)),
        .asked call (.sink event)] := by
  refine ⟨((AuditEvent.forWrite stamp request.envelope "write.approval_required"
    .pending).withData "approval_id" (.str id)).withData "reason" (.str reason), ?_⟩
  simp only [newEvents, step, hstage, Call.awaits, Awaited.expects, if_true, advance,
    List.drop_left]
  rfl

end Traffic

namespace Governed

variable {regime : Regime} {ttl : Span} {s : Governed}

/-- The book opens every approval that a call is told of, right before it is. -/
def Bookkept (s : Governed) : Prop :=
  ∀ place call envelope payload answer,
    s.log[place]? = some (.seen (.replied call (.creator envelope payload) (.opened answer))) →
    ∃ before opening, place = before + 1 ∧ s.log[before]? = some (.opened opening) ∧
      answer = .ok (ApprovalBook.nameFor opening)

theorem Bookkept.append (hbookkept : s.Bookkept) {next : Governed} {added : List Happening}
    (hlog : next.log = s.log ++ added)
    (hadded : ∀ call envelope payload answer,
      .seen (.replied call (.creator envelope payload) (.opened answer)) ∉ added) :
    next.Bookkept := by
  intro place call envelope payload answer hplace
  rw [hlog] at hplace ⊢
  rcases place_cases hplace with ⟨_, hbefore⟩ | ⟨_, hlater⟩
  · obtain ⟨before, opening, hnext, hopened, hanswer⟩ := hbookkept _ _ _ _ _ hbefore
    exact ⟨before, opening, hnext, place_append hopened added, hanswer⟩
  · exact absurd hlater (hadded call envelope payload answer)

theorem bookkept_step {next : Governed} (hopener : regime.opener = .book)
    (hstep : Step regime s next) (hbookkept : s.Bookkept) : next.Bookkept := by
  cases hstep with
  | still => exact hbookkept
  | moved action hleaves =>
      refine hbookkept.append rfl fun call envelope payload answer hmem => ?_
      simp only [List.mem_map, Happening.seen.injEq, exists_eq_right] at hmem
      obtain ⟨stamp, stage, rfl, _, _⟩ := Traffic.of_replied_newEvents hmem
      simp [Regime.leaves, hopener] at hleaves
  | ruled call stamp request hstage =>
      refine hbookkept.append rfl fun other envelope payload answer hmem => ?_
      simp only [List.mem_map, Happening.seen.injEq, exists_eq_right] at hmem
      obtain ⟨_, stage, haction, _, _⟩ := Traffic.of_replied_newEvents hmem
      have hreply := (Traffic.Action.reply.inj haction).2.2
      contradiction
  | openedFor call opening stamp request reason payload hstage =>
      obtain ⟨event, hevents⟩ :=
        Traffic.newEvents_opened hstage stamp (ApprovalBook.nameFor opening)
      intro place other envelope given answer hplace
      simp only [Governed.move, openApproval, hevents, List.map_cons, List.map_nil] at hplace ⊢
      rw [List.append_assoc] at hplace ⊢
      rcases place_cases hplace with ⟨_, hbefore⟩ | ⟨hlater, _⟩
      · obtain ⟨before, earlier, hnext, hopened, hanswer⟩ := hbookkept _ _ _ _ _ hbefore
        exact ⟨before, earlier, hnext, place_append hopened _, hanswer⟩
      · -- Of what is new only the reply that follows the opening is one.
        rw [List.getElem?_append_right hlater] at hplace
        rcases hoffset : place - s.log.length with _ | _ | _ | offset <;>
          simp [hoffset] at hplace
        obtain ⟨rfl, ⟨rfl, rfl⟩, rfl⟩ := hplace
        exact ⟨s.log.length, opening, by omega, by simp, rfl⟩
  | openedAside opening houtsiders => exact hbookkept.append rfl (by simp)
  | decided id decision => exact hbookkept.append rfl (by simp)

theorem bookkept_run (regime : Regime) (ttl : Span) (hopener : regime.opener = .book)
    (actions : List Action) : ((start regime ttl).run regime actions).Bookkept :=
  (run_keeps (fun hstep _ hbookkept => bookkept_step hopener hstep hbookkept)
    (by simp [Bookkept, start]) actions).2

end Governed

end Gatehouse
