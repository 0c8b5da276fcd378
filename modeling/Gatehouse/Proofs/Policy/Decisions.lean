import Gatehouse.Proofs.Policy.Guarded
import Gatehouse.Proofs.Policy.Steering

/-! # The last word about an approval

The book does not ask what was decided before. Of an approval that was opened it
holds what was said about it last, and to open it anew says that it waits again.
So a decision stays until somebody says otherwise, and it stays no longer: an
approval that was rejected is granted like any other if the operator approves it
after all. What an operator can rely on is that nobody else grants it, and that
no write is let through on it unless it was approved since it was last rejected.
-/

namespace Gatehouse

/-- What a happening says about an approval. -/
def Happening.word? (id : String) : Happening → Option ApprovalState
  | .seen _ => none
  | .opened stamp => if ApprovalBook.nameFor stamp = id then some .pending else none
  | .decided other decision => if other = id then some decision else none

theorem Happening.word?_eq_approved_iff {happening : Happening} {id : String} :
    happening.word? id = some .approved ↔ happening = .decided id .approved := by
  cases happening with
  | seen event => simp [word?]
  | opened stamp => simp [word?]
  | decided other decision => simp [word?]

/-- This was said about an approval at some place of the log, and nothing after it. -/
def LastSaid (log : List Happening) (place : Nat) (id : String) (state : ApprovalState) : Prop :=
  (∃ happening, log[place]? = some happening ∧ happening.word? id = some state) ∧
    ∀ later happening, place < later → log[later]? = some happening → happening.word? id = none

/-- An approval was opened, and nothing else was said about it since this was. -/
def LastsAs (log : List Happening) (id : String) (state : ApprovalState) : Prop :=
  ∃ opened last, OpenedAt log opened id ∧ opened ≤ last ∧ LastSaid log last id state

section Log

variable {log : List Happening} {happening : Happening} {place opened : Nat} {id : String}
  {state said : ApprovalState}

theorem openedAt_append_singleton : OpenedAt (log ++ [happening]) opened id ↔
    OpenedAt log opened id ∨
      opened = log.length ∧
        ∃ stamp, happening = .opened stamp ∧ ApprovalBook.nameFor stamp = id := by
  constructor
  · rintro ⟨stamp, hplace, hname⟩
    rcases place_singleton_cases hplace with ⟨-, hbefore⟩ | ⟨hlast, rfl⟩
    · exact .inl ⟨stamp, hbefore, hname⟩
    · exact .inr ⟨hlast, stamp, rfl, hname⟩
  · rintro (hbefore | ⟨rfl, stamp, rfl, hname⟩)
    · exact hbefore.append _
    · exact ⟨stamp, by simp, hname⟩

/-- Whatever is said about an approval now is what lasts, if the approval was opened. -/
theorem lastsAs_append_of_word (hword : happening.word? id = some said) :
    LastsAs (log ++ [happening]) id state ↔
      (∃ opened, OpenedAt (log ++ [happening]) opened id) ∧ said = state := by
  have hlast : (log ++ [happening])[log.length]? = some happening := by simp
  constructor
  · rintro ⟨opened, last, hopened, -, ⟨found, hfound, hfoundWord⟩, hquiet⟩
    refine ⟨⟨opened, hopened⟩, ?_⟩
    rcases place_singleton_cases hfound with ⟨hlt, -⟩ | ⟨-, rfl⟩
    · rw [hquiet log.length happening hlt hlast] at hword
      contradiction
    · exact Option.some.inj (hword.symm.trans hfoundWord)
  · rintro ⟨⟨opened, hopened⟩, rfl⟩
    refine ⟨opened, log.length, hopened, ?_, ⟨happening, hlast, hword⟩, ?_⟩
    · have hbound := hopened.lt_length
      rw [List.length_append, List.length_singleton] at hbound
      exact Nat.le_of_lt_succ hbound
    · intro later other hlater hother
      have hbound := (List.getElem?_eq_some_iff.mp hother).1
      rw [List.length_append, List.length_singleton] at hbound
      omega

theorem nameFor_ne_of_quiet (hquiet : happening.word? id = none) {stamp : Stamp}
    (hopening : happening = .opened stamp) : ApprovalBook.nameFor stamp ≠ id := by
  rintro rfl
  simp [hopening, Happening.word?] at hquiet

/-- What has nothing to do with an approval changes nothing about what lasts. -/
theorem lastsAs_append_of_quiet (hquiet : happening.word? id = none) :
    LastsAs (log ++ [happening]) id state ↔ LastsAs log id state := by
  constructor
  · rintro ⟨opened, last, hopened, hle, ⟨found, hfound, hword⟩, hlater⟩
    rcases openedAt_append_singleton.mp hopened with hbefore | ⟨-, stamp, hopening, hname⟩
    · rcases place_singleton_cases hfound with ⟨-, hplace⟩ | ⟨-, rfl⟩
      · exact ⟨opened, last, hbefore, hle, ⟨found, hplace, hword⟩, fun later other hlt hother =>
          hlater later other hlt (place_append hother _)⟩
      · rw [hquiet] at hword
        contradiction
    · exact absurd hname (nameFor_ne_of_quiet hquiet hopening)
  · rintro ⟨opened, last, hopened, hle, ⟨found, hfound, hword⟩, hlater⟩
    refine ⟨opened, last, hopened.append _, hle, ⟨found, place_append hfound _, hword⟩, ?_⟩
    intro later other hlt hother
    rcases place_singleton_cases hother with ⟨-, hplace⟩ | ⟨-, rfl⟩
    · exact hlater later other hlt hplace
    · exact hquiet

end Log

namespace ApprovalBook

variable {book : ApprovalBook} {log : List Happening} {happening : Happening} {id : String}
  {state said : ApprovalState}

theorem state?_after_of_quiet (hquiet : happening.word? id = none) :
    (book.after happening).state? id = book.state? id := by
  refine state?_after_of_ne fun habout => ?_
  cases happening <;> simp_all [Happening.word?, Happening.approval?]

/-- Whatever is said about an approval that the book knows, or gets to know by it, it holds. -/
theorem state?_after_of_word (hword : happening.word? id = some said) :
    (book.after happening).state? id =
      if (book.after happening).knows id then some said else none := by
  cases happening with
  | seen event => contradiction
  | opened stamp =>
      obtain ⟨rfl, hpending⟩ := Option.ite_none_right_eq_some.mp hword
      obtain rfl := Option.some.inj hpending
      simp [after, knows, state?_opened]
  | decided other decision =>
      obtain ⟨rfl, hdecision⟩ := Option.ite_none_right_eq_some.mp hword
      obtain rfl := Option.some.inj hdecision
      cases hstate : book.state? other <;> simp [after, knows, state?_decide, hstate]

theorem knows_after : (book.after happening).knows id ↔
    book.knows id ∨ ∃ stamp, happening = .opened stamp ∧ nameFor stamp = id := by
  cases happening with
  | seen event => simp [after]
  | opened stamp =>
      simp only [after, knows, state?_opened]
      split
      next heq => simp [heq]
      next hne => simp [Ne.symm hne]
  | decided other decision =>
      simp only [after, knows, state?_decide]
      split <;> simp

/-- The book knows the approvals that were opened. -/
theorem knows_ofLog : (ofLog log).knows id ↔ ∃ opened, OpenedAt log opened id := by
  induction log using List.reverseRecOn with
  | nil => simp [ofLog, empty, knows, state?, OpenedAt]
  | append_singleton log happening ih =>
      simp only [ofLog_append_singleton, knows_after, ih, openedAt_append_singleton, exists_or,
        exists_eq_left]

/-- The book holds what lasts. -/
theorem state?_ofLog : (ofLog log).state? id = some state ↔ LastsAs log id state := by
  induction log using List.reverseRecOn with
  | nil => simp [ofLog, empty, state?, LastsAs, OpenedAt]
  | append_singleton log happening ih =>
      cases hword : happening.word? id with
      | none =>
          rw [ofLog_append_singleton, state?_after_of_quiet hword, ih,
            lastsAs_append_of_quiet hword]
      | some said =>
          rw [lastsAs_append_of_word hword, ← knows_ofLog, ofLog_append_singleton,
            state?_after_of_word hword, Option.ite_none_right_eq_some, Option.some.injEq]

/-- Nobody said otherwise about an approval, so it is as it was. -/
theorem state?_of_agreed {earlier later : Nat} (hle : earlier ≤ later)
    (hstate : (ofLog (log.take earlier)).state? id = some state)
    (hagreed : ∀ place happening, earlier ≤ place → place < later →
      log[place]? = some happening →
      happening.word? id = none ∨ happening.word? id = some state) :
    (ofLog (log.take later)).state? id = some state := by
  refine ofLog_take_invariant (motive := fun book => book.state? id = some state) hle hstate ?_
  intro place happening hfrom hlt hplace hkept
  rcases hagreed place happening hfrom hlt hplace with hquiet | hword
  · rwa [state?_after_of_quiet hquiet]
  · rw [state?_after_of_word hword, if_pos]
    exact knows_after.mpr (.inl (by rw [knows, hkept]; rfl))

/-- An approval that was not granted and now is was approved by the operator in between. -/
theorem approved_between {earlier later : Nat} (hle : earlier ≤ later)
    (hbefore : (ofLog (log.take earlier)).state? id ≠ some .approved)
    (hafter : (ofLog (log.take later)).state? id = some .approved) :
    ∃ place, earlier ≤ place ∧ place < later ∧ log[place]? = some (.decided id .approved) := by
  by_contra hnever
  refine ofLog_take_invariant (motive := fun book => book.state? id ≠ some .approved) hle hbefore
    ?_ hafter
  intro place happening hfrom hlt hplace hkept
  cases hword : happening.word? id with
  | none => rwa [state?_after_of_quiet hword]
  | some said =>
      rw [state?_after_of_word hword, ne_eq, Option.ite_none_right_eq_some, not_and]
      rintro - hsame
      rw [hsame, Happening.word?_eq_approved_iff] at hword
      exact hnever ⟨place, hfrom, hlt, hword ▸ hplace⟩

/-- A decision takes effect on the approvals that were opened. -/
theorem state?_take_succ {place : Nat} {decision : ApprovalState}
    (hplace : log[place]? = some (.decided id decision)) (other : String) :
    (ofLog (log.take (place + 1))).state? other =
      if other = id ∧ (ofLog (log.take place)).knows id then some decision
      else (ofLog (log.take place)).state? other := by
  rw [ofLog_take_succ hplace, after, state?_decide]
  by_cases hsame : other = id
  · subst hsame
    cases hstate : (ofLog (log.take place)).state? other <;> simp [knows, hstate]
  · simp [hsame]

end ApprovalBook

namespace Governed

variable {regime : Regime} {ttl : Span} {s : Governed}

/-- What the decisions of the operator come to. -/
structure Decided (s : Governed) (guardrails : Guardrails) : Prop where
  /-- The book is what the log makes of it. -/
  book : s.book = .ofLog s.log
  known : ∀ place id, (ApprovalBook.ofLog (s.log.take place)).knows id ↔
    ∃ opened, OpenedAt (s.log.take place) opened id
  /-- What was said last about an approval that was opened is its state. -/
  state : ∀ place id state, (ApprovalBook.ofLog (s.log.take place)).state? id = some state ↔
    LastsAs (s.log.take place) id state
  /-- A decision takes effect on the approvals that were opened, whatever was decided before. -/
  effective : ∀ place id decision, s.log[place]? = some (.decided id decision) →
    ∀ other, (ApprovalBook.ofLog (s.log.take (place + 1))).state? other =
      if other = id ∧ (ApprovalBook.ofLog (s.log.take place)).knows id then some decision
      else (ApprovalBook.ofLog (s.log.take place)).state? other
  /-- It stays until something else is said about the approval. -/
  lasting : ∀ earlier later id state, earlier ≤ later →
    (ApprovalBook.ofLog (s.log.take earlier)).state? id = some state →
    (∀ place happening, earlier ≤ place → place < later → s.log[place]? = some happening →
      happening.word? id = none ∨ happening.word? id = some state) →
    (ApprovalBook.ofLog (s.log.take later)).state? id = some state
  /-- An approval comes to be granted by the operator alone. -/
  granted : ∀ earlier later id, earlier ≤ later →
    (ApprovalBook.ofLog (s.log.take earlier)).state? id ≠ some .approved →
    (ApprovalBook.ofLog (s.log.take later)).state? id = some .approved →
    ∃ place, earlier ≤ place ∧ place < later ∧ s.log[place]? = some (.decided id .approved)
  /-- A handler is called for a command that needs an approval only on one that stood as granted
  at the ruling, and that was approved again if it had been rejected before. -/
  released : ∀ place call handler envelope,
    s.log[place]? = some (.seen (.asked call (.handler handler envelope))) →
    envelope.command ∈ guardrails.approvalRequired →
    ∃ ruled granter approval, ruled < place ∧ envelope.approval = some approval ∧
      s.log[ruled]? = some (.seen (.replied granter (.evaluator envelope.question)
        (.decided (.ok (.allow (some "approval_granted")))))) ∧
      LastsAs (s.log.take ruled) approval .approved ∧
      ∀ rejected, rejected < ruled → s.log[rejected]? = some (.decided approval .rejected) →
        ∃ granted, rejected < granted ∧ granted < ruled ∧
          s.log[granted]? = some (.decided approval .approved)

/-- Whatever happens to a gateway under guardrails and to its book, the last word about an approval
counts. -/
theorem run_decided (regime : Regime) (ttl : Span) (actions : List Action) :
    ((start regime ttl).run regime actions).Decided regime.guardrails := by
  have hrecorded := recorded_run regime ttl actions
  generalize (start regime ttl).run regime actions = s at hrecorded
  constructor
  case book => exact hrecorded.book
  case known => exact fun _ _ => ApprovalBook.knows_ofLog
  case state => exact fun _ _ _ => ApprovalBook.state?_ofLog
  case effective => exact fun _ _ _ hplace => ApprovalBook.state?_take_succ hplace
  case lasting => exact fun _ _ _ _ hle => ApprovalBook.state?_of_agreed hle
  case granted => exact fun _ _ _ hle => ApprovalBook.approved_between hle
  case released =>
    intro place call handler envelope hasked hrequired
    obtain ⟨ruled, granter, approval, hlt, -, hruled, happroval, hstate, -⟩ :=
      hrecorded.approvedFor hasked hrequired
    refine ⟨ruled, granter, approval, hlt, happroval, hruled, ApprovalBook.state?_ofLog.mp hstate,
      ?_⟩
    intro rejected hbefore hrejected
    -- Just after it was rejected, the approval is rejected or not known, and not granted.
    refine ApprovalBook.approved_between hbefore ?_ hstate
    rw [ApprovalBook.state?_take_succ hrejected]
    split
    next => simp
    next hunknown =>
      intro happroved
      exact hunknown ⟨rfl, by rw [ApprovalBook.knows, happroved]; rfl⟩

/-- A write is parked, and the operator rejects its approval. -/
def refusal : List Action :=
  requestedToTheEnd ⟨0⟩ publication ++ [.reject "apr_publication"]

/-- The operator thinks better of it, and the write comes once more with its approval. -/
def secondThoughts : List Action :=
  .approve "apr_publication" :: requestedToTheEnd ⟨1⟩ resumption

/-- A rejection is not final: the same approval is granted afterwards, and the write is let through
on it. -/
theorem secondThoughts_released :
    let refused := twoGuardedApp.governed.run twoGuardedApp.regime refusal
    let reconsidered := refused.run twoGuardedApp.regime secondThoughts
    resumption.command ∈ twoGuarded.approvalRequiredCommands ∧
    refused.book.state? "apr_publication" = some .rejected ∧
    reconsidered.book.state? "apr_publication" = some .approved ∧
    answers reconsidered.log = [
      (.requiresApproval, some "approval_required", some "apr_publication"),
      (.accepted, some "approval_granted", none)] := by
  decide +kernel

end Governed

end Gatehouse
