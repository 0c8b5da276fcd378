import Gatehouse.Policy.Guardrails
import Gatehouse.Proofs.Gateway.Course

/-! # The log of a governed gateway

Beside what can be seen of a gateway, the log keeps what happens to the
approval book: approvals are opened, and the operator decides on them. The book
is what the log makes of it, so an approval that the book holds as granted was
opened, was granted later, and nothing was said about it since. A ruling of the
guardrails is an allowance only for a command that needs no approval or for one
whose approval the book holds as granted.
-/

namespace Gatehouse

/-- What can happen to a gateway and to the approval book behind it. -/
inductive Happening where
  | seen (event : GatewayEvent)
  | opened (stamp : Stamp)
  | decided (id : String) (decision : ApprovalState)

namespace Happening

/-- What could be seen of the gateway. -/
def event? : Happening → Option GatewayEvent
  | .seen event => some event
  | .opened _ | .decided .. => none

/-- The approval that something was done about. -/
def approval? : Happening → Option String
  | .seen _ => none
  | .opened stamp => some (ApprovalBook.nameFor stamp)
  | .decided id _ => some id

theorem event?_eq_some_iff {happening : Happening} {event : GatewayEvent} :
    happening.event? = some event ↔ happening = .seen event := by
  cases happening <;> simp [event?]

end Happening

/-- How much was seen of the gateway up to a place in the log. -/
def seenBefore (log : List Happening) (place : Nat) : Nat :=
  ((log.take place).filterMap Happening.event?).length

section Seen

variable {log : List Happening} {place : Nat} {event : GatewayEvent}

theorem mem_seen_iff : event ∈ log.filterMap Happening.event? ↔ .seen event ∈ log := by
  simp [List.mem_filterMap, Happening.event?_eq_some_iff]

theorem seenBefore_mono (log : List Happening) {i j : Nat} (hle : i ≤ j) :
    seenBefore log i ≤ seenBefore log j :=
  ((List.take_sublist_take_left hle).filterMap _).length_le

theorem take_seenBefore (log : List Happening) (place : Nat) :
    (log.filterMap Happening.event?).take (seenBefore log place) =
      (log.take place).filterMap Happening.event? := by
  have hsplit : log.filterMap Happening.event? = (log.take place).filterMap Happening.event? ++
      (log.drop place).filterMap Happening.event? := by
    rw [← List.filterMap_append, List.take_append_drop]
  rw [hsplit, seenBefore, List.take_left]

theorem seen_of_place (hplace : log[place]? = some (.seen event)) :
    (log.filterMap Happening.event?)[seenBefore log place]? = some event := by
  obtain ⟨hlt, hhappening⟩ := List.getElem?_eq_some_iff.mp hplace
  have hlog : log = log.take place ++ .seen event :: log.drop (place + 1) := by
    rw [← hhappening, List.getElem_cons_drop, List.take_append_drop]
  have hseen : log.filterMap Happening.event? = (log.take place).filterMap Happening.event? ++
      event :: (log.drop (place + 1)).filterMap Happening.event? := by
    conv_lhs => rw [hlog]
    rw [List.filterMap_append, List.filterMap_cons_some (by rfl)]
  rw [hseen, seenBefore]
  simp

theorem place_of_seen {i : Nat} (hseen : (log.filterMap Happening.event?)[i]? = some event) :
    ∃ place, log[place]? = some (.seen event) ∧ seenBefore log place = i := by
  -- The place counts everything in the log, `i` only what could be seen of the gateway.
  induction log generalizing i with
  | nil => simp at hseen
  | cons happening rest ih =>
      cases hevent : happening.event? with
      | none =>
          rw [List.filterMap_cons_none hevent] at hseen
          obtain ⟨place, hplace, rfl⟩ := ih hseen
          exact ⟨place + 1, hplace, by simp [seenBefore, hevent]⟩
      | some first =>
          rw [List.filterMap_cons_some hevent] at hseen
          cases i with
          | zero =>
              obtain rfl := Option.some.inj hseen
              exact ⟨0, by rw [Happening.event?_eq_some_iff.mp hevent]; rfl, rfl⟩
          | succ i =>
              obtain ⟨place, hplace, rfl⟩ := ih hseen
              exact ⟨place + 1, hplace, by simp [seenBefore, hevent]⟩

end Seen

namespace ApprovalBook

/-- What a happening makes of the book. -/
def after (book : ApprovalBook) : Happening → ApprovalBook
  | .seen _ => book
  | .opened stamp => book.opened stamp
  | .decided id decision => book.decide id decision

/-- What a log makes of an empty book. -/
def ofLog (log : List Happening) : ApprovalBook :=
  log.foldl after .empty

theorem ofLog_append_singleton (log : List Happening) (happening : Happening) :
    ofLog (log ++ [happening]) = (ofLog log).after happening := by
  rw [ofLog, List.foldl_append, ← ofLog]
  rfl

theorem ofLog_append_seen (log : List Happening) (events : List GatewayEvent) :
    ofLog (log ++ events.map .seen) = ofLog log := by
  induction events using List.reverseRecOn with
  | nil => simp
  | append_singleton events event ih =>
      rw [List.map_append, List.map_singleton, ← List.append_assoc, ofLog_append_singleton, ih]
      rfl

end ApprovalBook

/-- At this place an approval was opened. -/
def OpenedAt (log : List Happening) (place : Nat) (id : String) : Prop :=
  ∃ stamp, log[place]? = some (.opened stamp) ∧ ApprovalBook.nameFor stamp = id

/-- The operator granted an approval after this place, and nothing was done about it since. -/
def GrantedSince (log : List Happening) (place : Nat) (id : String) : Prop :=
  ∃ granted, place < granted ∧ log[granted]? = some (.decided id .approved) ∧
    ∀ later happening, granted < later → log[later]? = some happening →
      happening.approval? ≠ some id

/-- The operator granted an approval that had been opened, and nothing was done about it since. -/
def Granted (log : List Happening) (id : String) : Prop :=
  ∃ place, OpenedAt log place id ∧ GrantedSince log place id

theorem OpenedAt.append {log : List Happening} {place : Nat} {id : String}
    (hopened : OpenedAt log place id) (added : List Happening) :
    OpenedAt (log ++ added) place id := by
  obtain ⟨stamp, hplace, hname⟩ := hopened
  exact ⟨stamp, place_append hplace added, hname⟩

theorem OpenedAt.lt_length {log : List Happening} {place : Nat} {id : String}
    (hopened : OpenedAt log place id) : place < log.length := by
  obtain ⟨stamp, hplace, _⟩ := hopened
  exact (List.getElem?_eq_some_iff.mp hplace).1

theorem GrantedSince.append_singleton {log : List Happening} {place : Nat} {id : String}
    (hgranted : GrantedSince log place id) {happening : Happening}
    (hother : happening.approval? ≠ some id) : GrantedSince (log ++ [happening]) place id := by
  obtain ⟨granted, hlater, hplace, hquiet⟩ := hgranted
  refine ⟨granted, hlater, place_append hplace _, ?_⟩
  intro after found hafter hfound
  rcases place_cases hfound with ⟨_, hbefore⟩ | ⟨_, hadded⟩
  · exact hquiet after found hafter hbefore
  · rwa [List.mem_singleton.mp hadded]

theorem grantedSince_append_singleton {log : List Happening} {place : Nat} {id : String}
    (hplace : place < log.length) : GrantedSince (log ++ [.decided id .approved]) place id := by
  refine ⟨log.length, hplace, by simp, ?_⟩
  intro later happening hlater hfound
  have hbound := (List.getElem?_eq_some_iff.mp hfound).1
  rw [List.length_append, List.length_singleton] at hbound
  omega

namespace ApprovalBook

theorem state?_after_of_ne {book : ApprovalBook} {happening : Happening} {id : String}
    (hother : happening.approval? ≠ some id) :
    (book.after happening).state? id = book.state? id := by
  cases happening with
  | seen event => rfl
  | opened stamp => rw [after, state?_opened, if_neg fun heq => hother (by rw [heq]; rfl)]
  | decided other decision =>
      rw [after, state?_decide, if_neg fun heq => hother (by rw [heq]; rfl)]

/-- The book knows only approvals that were opened. -/
theorem openedAt_of_state? {log : List Happening} {id : String} {state : ApprovalState}
    (hstate : (ofLog log).state? id = some state) : ∃ place, OpenedAt log place id := by
  induction log using List.reverseRecOn generalizing state with
  | nil => simp [ofLog, empty, state?] at hstate
  | append_singleton log happening ih =>
      rw [ofLog_append_singleton] at hstate
      by_cases habout : happening.approval? = some id
      · cases happening with
        | seen event => contradiction
        | opened stamp => exact ⟨log.length, stamp, by simp, Option.some.inj habout⟩
        | decided other decision =>
            -- A decision takes effect only on an approval that is there.
            rw [after, state?_decide, if_pos (Option.some.inj habout).symm] at hstate
            obtain ⟨earlier, hearlier, _⟩ := Option.map_eq_some_iff.mp hstate
            obtain ⟨place, hopened⟩ := ih hearlier
            exact ⟨place, hopened.append _⟩
      · rw [state?_after_of_ne habout] at hstate
        obtain ⟨place, hopened⟩ := ih hstate
        exact ⟨place, hopened.append _⟩

/-- What the book holds as granted was opened, and granted later for good. -/
theorem granted_of_approved {log : List Happening} {id : String}
    (hstate : (ofLog log).state? id = some .approved) : Granted log id := by
  induction log using List.reverseRecOn with
  | nil => simp [ofLog, empty, state?] at hstate
  | append_singleton log happening ih =>
      rw [ofLog_append_singleton] at hstate
      by_cases habout : happening.approval? = some id
      · cases happening with
        | seen event => contradiction
        | opened stamp =>
            -- An approval that was just opened waits for its decision.
            rw [after, state?_opened, if_pos (Option.some.inj habout).symm] at hstate
            contradiction
        | decided other decision =>
            obtain rfl := Option.some.inj habout
            rw [after, state?_decide, if_pos rfl] at hstate
            obtain ⟨earlier, hearlier, rfl⟩ := Option.map_eq_some_iff.mp hstate
            obtain ⟨place, hopened⟩ := openedAt_of_state? hearlier
            exact ⟨place, hopened.append _, grantedSince_append_singleton hopened.lt_length⟩
      · rw [state?_after_of_ne habout] at hstate
        obtain ⟨place, hopened, hsince⟩ := ih hstate
        exact ⟨place, hopened.append _, hsince.append_singleton habout⟩

end ApprovalBook

namespace Guardrails

variable {g : Guardrails} {book : ApprovalBook} {question : PolicyRequest}

/-- The guardrails allow a command that needs no approval, and one whose approval is granted; a
denied command they never allow. -/
theorem decideBy_allow_iff {reason : Option String} :
    g.decideBy book question = .ok (.allow reason) ↔
      question.command ∉ g.denied ∧
        (question.command ∉ g.approvalRequired ∧ reason = none ∨
          question.command ∈ g.approvalRequired ∧ reason = some "approval_granted" ∧
            ∃ approval, question.approval = some approval ∧
              book.state? approval = some .approved) := by
  unfold decideBy decide
  split
  next hdenied => simp [hdenied]
  next hdenied =>
    split
    next hfree => simp [hdenied, hfree, eq_comm]
    next hrequired =>
      have hrequired := not_not.mp hrequired
      cases question.approval with
      | none => simp [hdenied, hrequired, parked]
      | some approval =>
          rcases hstate : book.state? approval with _ | _ | _ | _ <;>
            simp [hdenied, hrequired, hstate, Except.map, decideOn, parked, eq_comm]

/-- The guardrails park only writes of commands that need an approval. -/
theorem decideBy_requiresApproval {reason : String} {approval : Option String} {payload : Json}
    (hruling : g.decideBy book question = .ok (.requiresApproval reason approval payload)) :
    question.command ∉ g.denied ∧ question.command ∈ g.approvalRequired := by
  unfold decideBy decide at hruling
  split at hruling
  next => simp at hruling
  next hdenied =>
    split at hruling
    next => simp at hruling
    next hrequired => exact ⟨hdenied, not_not.mp hrequired⟩

end Guardrails

end Gatehouse
