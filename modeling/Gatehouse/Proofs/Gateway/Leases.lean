import Gatehouse.Gateway.Tokens
import Gatehouse.Proofs.Tables
import Mathlib

/-! # Commit tokens as leases

A commit token is a lease on one write. It is good from the moment it is issued
for as long as tokens last, unless somebody tries it before that, and nobody can
use it twice. Purging drops the leases that are over. It asks about the end of a
lease what a try asks, so whoever comes in time cannot tell whether tokens were
purged; who comes too late can tell, for a lease that was not purged is still
known as one that is over.

A run is any list of calls, in which a token may be tried that was never issued.
Of the times of calls nothing is asked but that nobody purged at a later moment
than the one at which a token is tried. What a lease is worth is said by looking
at the calls alone: `Leased` finds the call that issued it and asks about those
that came after.
-/

namespace Gatehouse.CommitTokens

/-- What can be asked of the tokens. -/
inductive Action where
  | issue (token : String) (envelope : Envelope) (now : Moment)
  | take (token : String) (now : Moment)
  | purge (now : Moment)
  deriving DecidableEq

namespace Action

/-- The token that a call issues. -/
def issued? : Action → Option String
  | .issue token .. => some token
  | .take .. | .purge .. => none

/-- The call is a purge. -/
def isPurge : Action → Bool
  | .purge _ => true
  | .issue .. | .take .. => false

/-- The call tries a token. -/
def Tries (token : String) : Action → Prop
  | .take other _ => other = token
  | .issue .. | .purge .. => False

/-- The call is a purge that comes when a lease is over. -/
def Sweeps (ttl : Span) (since : Moment) : Action → Prop
  | .purge now => ttl ≤ now.since since
  | .issue .. | .take .. => False

end Action

/-- What a call is answered. -/
inductive Answer where
  | issued (expiresAt : Moment)
  | worth (redemption : Redemption)
  | purged (count : Nat)
  deriving DecidableEq

namespace Answer

/-- How many entries a try took from the table. -/
def taken : Answer → Nat
  | .worth (.valid _) | .worth (.expired _) => 1
  | .worth .unknown | .issued _ | .purged _ => 0

/-- How many entries a purge says it dropped. -/
def dropped : Answer → Nat
  | .purged count => count
  | .issued _ | .worth _ => 0

end Answer

/-- What a call makes of the tokens, and its answer. A token whose end no calendar shows is not
issued, and there is no answer. -/
def perform (t : CommitTokens) : Action → CommitTokens × Option Answer
  | .issue token envelope now =>
    match t.issue token envelope now with
    | some (expiresAt, issued) => (issued, some (.issued expiresAt))
    | none => (t, none)
  | .take token now =>
    let (redemption, rest) := t.take token now
    (rest, some (.worth redemption))
  | .purge now => (t.purge now, some (.purged (t.purged now)))

/-- What a list of calls makes of the tokens. -/
def run (t : CommitTokens) (actions : List Action) : CommitTokens :=
  actions.foldl (fun tokens action => (tokens.perform action).1) t

/-- What a list of calls is answered. -/
def answers (t : CommitTokens) : List Action → List Answer
  | [] => []
  | action :: rest => (t.perform action).2.toList ++ (t.perform action).1.answers rest

theorem run_concat (t : CommitTokens) (actions : List Action) (action : Action) :
    t.run (actions ++ [action]) = ((t.run actions).perform action).1 := by
  simp [run]

theorem answers_concat (t : CommitTokens) (actions : List Action) (action : Action) :
    t.answers (actions ++ [action]) =
      t.answers actions ++ ((t.run actions).perform action).2.toList := by
  induction actions generalizing t with
  | nil => simp [answers, run]
  | cons first rest ih =>
      rw [List.cons_append, answers, answers, ih, List.append_assoc]
      rfl

/-- A token was issued for a write at a moment, and no call that spends it has come since. -/
def Leased (spent : Action → Prop) (actions : List Action) (token : String) (envelope : Envelope)
    (since : Moment) : Prop :=
  ∃ before after, actions = before ++ .issue token envelope since :: after ∧
    ∀ action ∈ after, ¬ spent action

/-- Nobody has tried a token since it was issued. -/
def Untried (actions : List Action) (token : String) (envelope : Envelope) (since : Moment) :
    Prop :=
  Leased (Action.Tries token) actions token envelope since

/-- Nobody has tried a token since it was issued, nor were tokens purged after its time. -/
def Held (ttl : Span) (actions : List Action) (token : String) (envelope : Envelope)
    (since : Moment) : Prop :=
  Leased (fun action => action.Tries token ∨ action.Sweeps ttl since) actions token envelope since

/-- No token is issued twice, and the calendar shows the end of every token. -/
structure Orderly (ttl : Span) (actions : List Action) : Prop where
  distinct : (actions.filterMap Action.issued?).Nodup
  ending : ∀ token envelope now, .issue token envelope now ∈ actions → now.add? ttl ≠ none

/-- Tokens were not purged at a later moment. -/
def Passed (actions : List Action) (now : Moment) : Prop :=
  ∀ swept, .purge swept ∈ actions → swept ≤ now

section Lease

variable {spent : Action → Prop} {actions : List Action} {action : Action} {token : String}
  {envelope : Envelope} {since now : Moment} {ttl : Span}

theorem not_leased_nil : ¬ Leased spent [] token envelope since := by
  rintro ⟨before, after, hactions, -⟩
  simp at hactions

/-- One more call begins a lease, or lets it go on unless it spends it. -/
theorem leased_concat : Leased spent (actions ++ [action]) token envelope since ↔
    action = .issue token envelope since ∨
      Leased spent actions token envelope since ∧ ¬ spent action := by
  constructor
  · rintro ⟨before, after, hactions, hafter⟩
    rcases after.eq_nil_or_concat' with rfl | ⟨later, last, rfl⟩
    · exact .inl (List.append_inj_right' hactions rfl |> List.singleton_inj.mp)
    · rw [← List.cons_append, ← List.append_assoc] at hactions
      obtain ⟨rfl, hlast⟩ := List.append_inj' hactions rfl
      obtain rfl := List.singleton_inj.mp hlast
      refine .inr ⟨⟨before, later, rfl, ?_⟩, hafter action (by simp)⟩
      intro other hother
      exact hafter other (List.mem_append_left _ hother)
  · rintro (rfl | ⟨⟨before, after, rfl, hafter⟩, hspent⟩)
    · exact ⟨actions, [], rfl, by simp⟩
    · refine ⟨before, after ++ [action], by simp, ?_⟩
      intro other hother
      rcases List.mem_append.mp hother with hbefore | hlast
      · exact hafter other hbefore
      · rwa [List.mem_singleton.mp hlast]

theorem Leased.issued_mem (hleased : Leased spent actions token envelope since) :
    token ∈ actions.filterMap Action.issued? := by
  obtain ⟨before, after, rfl, -⟩ := hleased
  simp [Action.issued?]

theorem Leased.exists_end (hleased : Leased spent actions token envelope since)
    (horderly : Orderly ttl actions) : ∃ expiresAt, since.add? ttl = some expiresAt := by
  obtain ⟨before, after, rfl, -⟩ := hleased
  exact Option.ne_none_iff_exists'.mp (horderly.ending token envelope since (by simp))

/-- As long as a lease is not over no purge has swept it away. -/
theorem held_iff_untried (hpassed : Passed actions now) (hlasts : now.since since < ttl) :
    Held ttl actions token envelope since ↔ Untried actions token envelope since := by
  constructor
  · rintro ⟨before, after, hactions, hafter⟩
    exact ⟨before, after, hactions, fun action haction => fun htries =>
      hafter action haction (.inl htries)⟩
  · rintro ⟨before, after, rfl, hafter⟩
    refine ⟨before, after, rfl, ?_⟩
    rintro action haction (htries | hsweeps)
    · exact hafter action haction htries
    · -- A purge that swept the lease away would have come after its end, and so after this moment.
      cases action with
      | purge swept =>
          have hswept : swept ≤ now := hpassed swept (by simp [haction])
          change ttl.nanos ≤ swept.nanos - since.nanos at hsweeps
          change now.nanos - since.nanos < ttl.nanos at hlasts
          change swept.nanos ≤ now.nanos at hswept
          omega
      | issue | take => exact hsweeps

/-- Purges make no difference to who has tried what. -/
theorem untried_filter (actions : List Action) :
    Untried (actions.filter fun action => !action.isPurge) token envelope since ↔
      Untried actions token envelope since := by
  induction actions using List.reverseRecOn with
  | nil => rfl
  | append_singleton actions action ih =>
      unfold Untried at ih ⊢
      rw [List.filter_append, leased_concat, ← ih]
      cases action with
      | purge => simp [Action.isPurge, Action.Tries]
      | issue | take => simp [Action.isPurge, leased_concat]

theorem Orderly.before (horderly : Orderly ttl (actions ++ [action])) : Orderly ttl actions where
  distinct := by
    have htokens := horderly.distinct
    rw [List.filterMap_append, List.nodup_append] at htokens
    exact htokens.1
  ending := fun token envelope now hissue =>
    horderly.ending token envelope now (List.mem_append_left _ hissue)

/-- A token that is issued now has never been issued before. -/
theorem Orderly.fresh (horderly : Orderly ttl (actions ++ [.issue token envelope now])) :
    token ∉ actions.filterMap Action.issued? := by
  have htokens := horderly.distinct
  rw [List.filterMap_append, List.nodup_append] at htokens
  exact fun hmem => htokens.2.2 token hmem token (by simp [Action.issued?]) rfl

end Lease

section Run

variable {ttl : Span} {actions : List Action} {token : String} {envelope : Envelope}
  {expiresAt : Moment}

theorem perform_issue {t : CommitTokens} {now : Moment} (hends : now.add? t.ttl = some expiresAt) :
    t.perform (.issue token envelope now) =
      ({ t with pending := t.pending.put token ⟨envelope, expiresAt⟩ },
        some (.issued expiresAt)) := by
  simp [perform, issue, hends]

theorem ttl_perform (t : CommitTokens) (action : Action) : (t.perform action).1.ttl = t.ttl := by
  cases action with
  | issue token envelope now =>
      cases hends : now.add? t.ttl with
      | none => simp [perform, issue, hends]
      | some expiresAt => rw [perform_issue hends]
  | take | purge => rfl

theorem ttl_run (ttl : Span) (actions : List Action) : ((new ttl).run actions).ttl = ttl := by
  induction actions using List.reverseRecOn with
  | nil => rfl
  | append_singleton actions action ih => rw [run_concat, ttl_perform, ih]

/-- In an orderly run every token that is asked for is issued. -/
theorem issue_run {now : Moment}
    (horderly : Orderly ttl (actions ++ [.issue token envelope now])) :
    ∃ expiresAt, now.add? ttl = some expiresAt ∧
      ((new ttl).run actions).perform (.issue token envelope now) =
        ({ (new ttl).run actions with
            pending := ((new ttl).run actions).pending.put token ⟨envelope, expiresAt⟩ },
          some (.issued expiresAt)) := by
  obtain ⟨expiresAt, hends⟩ :=
    Option.ne_none_iff_exists'.mp (horderly.ending token envelope now (by simp))
  exact ⟨expiresAt, hends, perform_issue (by rwa [ttl_run])⟩

/-- Every call of an orderly run is answered. -/
theorem length_answers (horderly : Orderly ttl actions) :
    ((new ttl).answers actions).length = actions.length := by
  induction actions using List.reverseRecOn with
  | nil => rfl
  | append_singleton actions action ih =>
      rw [answers_concat, List.length_append, ih horderly.before, List.length_append]
      cases action with
      | issue token envelope now =>
          obtain ⟨expiresAt, -, hissue⟩ := issue_run horderly
          rw [hissue]
          rfl
      | take | purge => rfl

theorem held_issue {other : String} {write : Envelope} {now : Moment} {since : Moment}
    (hfresh : other ∉ actions.filterMap Action.issued?) :
    Held ttl (actions ++ [.issue other write now]) token envelope since ↔
      if token = other then write = envelope ∧ now = since
      else Held ttl actions token envelope since := by
  rw [Held, leased_concat]
  split
  next heq =>
    subst heq
    -- The lease that begins is the only one, for the token has not been issued before.
    have hnot : ¬ Held ttl actions token envelope since := fun hheld => hfresh hheld.issued_mem
    constructor
    · rintro (hissue | ⟨hheld, -⟩)
      · cases hissue
        exact ⟨rfl, rfl⟩
      · exact absurd hheld hnot
    · rintro ⟨rfl, rfl⟩
      exact .inl rfl
  next hne => simp [Held, Action.Tries, Action.Sweeps, Ne.symm hne]

theorem held_take {other : String} {now : Moment} {since : Moment} :
    Held ttl (actions ++ [.take other now]) token envelope since ↔
      token ≠ other ∧ Held ttl actions token envelope since := by
  rw [Held, leased_concat, ← Held]
  simp [Action.Tries, Action.Sweeps, eq_comm, and_comm]

theorem held_purge {now : Moment} {since : Moment} :
    Held ttl (actions ++ [.purge now]) token envelope since ↔
      Held ttl actions token envelope since ∧ now.since since < ttl := by
  have hlt : ¬ ttl ≤ now.since since ↔ now.since since < ttl := Int.not_le
  rw [Held, leased_concat, ← Held]
  simp [Action.Tries, Action.Sweeps, hlt]

/-- The table holds the leases that nobody tried and no purge swept away, each with its end. -/
theorem get?_run (horderly : Orderly ttl actions) :
    ((new ttl).run actions).pending.get? token = some ⟨envelope, expiresAt⟩ ↔
      ∃ since, Held ttl actions token envelope since ∧ since.add? ttl = some expiresAt := by
  induction actions using List.reverseRecOn generalizing token envelope expiresAt with
  | nil =>
      have hnone : ∀ since, ¬ Held ttl [] token envelope since := fun since => not_leased_nil
      simp [run, new, hnone]
  | append_singleton actions action ih =>
      have hheld := @ih token envelope expiresAt horderly.before
      rw [run_concat]
      cases action with
      | issue other write now =>
          obtain ⟨last, hlast, hissue⟩ := issue_run horderly
          rw [hissue, Table.get?_put]
          simp only [held_issue horderly.fresh]
          split
          next => simp [hlast]
          next => exact hheld
      | take other now =>
          change (((new ttl).run actions).pending.erase other).get? token = _ ↔ _
          simp only [Table.get?_erase, held_take]
          split
          next heq => simp [heq]
          next hne => simp [hne, hheld]
      | purge now =>
          -- The purge asks for the end in the table, the lease for the time since it began.
          change (((new ttl).run actions).pending.filter _).get? token = _ ↔ _
          simp only [Table.get?_filter, held_purge, Option.filter_eq_some_iff, hheld,
            decide_eq_true_eq]
          constructor
          · rintro ⟨⟨since, hsince, hends⟩, hlt⟩
            exact ⟨since, ⟨hsince, (Moment.lt_iff_since_lt hends).mp hlt⟩, hends⟩
          · rintro ⟨since, ⟨hsince, hlasts⟩, hends⟩
            exact ⟨⟨since, hsince, hends⟩, (Moment.lt_iff_since_lt hends).mpr hlasts⟩

/-- The number of tokens that were issued. -/
def issuedCount (actions : List Action) : Nat :=
  (actions.filterMap Action.issued?).length

/-- The number of entries that tries took from the table. -/
def takenCount (answers : List Answer) : Nat :=
  (answers.map Answer.taken).sum

/-- The number of entries that purges said they dropped. -/
def droppedCount (answers : List Answer) : Nat :=
  (answers.map Answer.dropped).sum

theorem taken_worth (t : CommitTokens) (token : String) (now : Moment) :
    (Answer.worth (t.worth token now)).taken = if (t.pending.get? token).isSome then 1 else 0 := by
  unfold worth
  cases t.pending.get? token with
  | none => rfl
  | some write =>
      simp only [PendingWrite.redeem]
      split <;> rfl

theorem size_without (t : CommitTokens) (token : String) :
    (t.without token).size + (if (t.pending.get? token).isSome then 1 else 0) = t.size := by
  cases hpending : t.pending.get? token with
  | none => exact Table.size_erase_of_none hpending
  | some write => exact (Table.size_erase_of_some hpending).symm

theorem size_purge (t : CommitTokens) (now : Moment) :
    (t.purge now).size + t.purged now = t.size :=
  Nat.add_sub_cancel' (List.length_filter_le _ _)

/-- Under a token that is issued now there is nothing yet. -/
theorem get?_run_fresh {now : Moment}
    (horderly : Orderly ttl (actions ++ [.issue token envelope now])) :
    ((new ttl).run actions).pending.get? token = none := by
  cases hpending : ((new ttl).run actions).pending.get? token with
  | none => rfl
  | some write =>
      obtain ⟨since, hheld, -⟩ := (get?_run horderly.before).mp hpending
      exact absurd hheld.issued_mem horderly.fresh

/-- What was issued is in the table, or was taken from it or dropped. -/
theorem size_run (horderly : Orderly ttl actions) :
    ((new ttl).run actions).size + takenCount ((new ttl).answers actions) +
      droppedCount ((new ttl).answers actions) = issuedCount actions := by
  induction actions using List.reverseRecOn with
  | nil => rfl
  | append_singleton actions action ih =>
      have hbefore := ih horderly.before
      unfold takenCount droppedCount issuedCount at hbefore ⊢
      rw [run_concat, answers_concat]
      simp only [List.map_append, List.sum_append, List.filterMap_append, List.length_append]
      cases action with
      | issue token envelope now =>
          obtain ⟨expiresAt, -, hissue⟩ := issue_run horderly
          have hsize := Table.size_put_of_none (get?_run_fresh horderly) ⟨envelope, expiresAt⟩
          rw [hissue]
          simp [size, hsize, Answer.taken, Answer.dropped, Action.issued?] at hbefore ⊢
          omega
      | take token now =>
          have hsize := size_without ((new ttl).run actions) token
          simp [perform, take, taken_worth, Answer.dropped, Action.issued?, List.filterMap_cons]
          omega
      | purge now =>
          have hsize := size_purge ((new ttl).run actions) now
          simp [perform, Answer.taken, Answer.dropped, Action.issued?, List.filterMap_cons]
          omega

theorem take_valid_iff (horderly : Orderly ttl actions) {now : Moment}
    (hpassed : Passed actions now) :
    (((new ttl).run actions).take token now).1 = .valid envelope ↔
      ∃ since, Untried actions token envelope since ∧ now.since since < ttl := by
  rw [take, worth_valid_iff]
  simp only [get?_run horderly]
  constructor
  · rintro ⟨expiresAt, ⟨since, hheld, hends⟩, hlt⟩
    have hlasts := (Moment.lt_iff_since_lt hends).mp hlt
    exact ⟨since, (held_iff_untried hpassed hlasts).mp hheld, hlasts⟩
  · rintro ⟨since, huntried, hlasts⟩
    have hheld := (held_iff_untried hpassed hlasts).mpr huntried
    obtain ⟨expiresAt, hends⟩ := hheld.exists_end horderly
    exact ⟨expiresAt, ⟨since, hheld, hends⟩, (Moment.lt_iff_since_lt hends).mpr hlasts⟩

/-- The tokens that are there and over. -/
theorem over_iff (horderly : Orderly ttl actions) {now : Moment} :
    (∃ expiresAt, ((new ttl).run actions).pending.get? token = some ⟨envelope, expiresAt⟩ ∧
      expiresAt ≤ now) ↔
      ∃ since, Held ttl actions token envelope since ∧ ttl ≤ now.since since := by
  simp only [get?_run horderly]
  constructor
  · rintro ⟨expiresAt, ⟨since, hheld, hends⟩, hle⟩
    exact ⟨since, hheld, (Moment.le_iff_le_since hends).mp hle⟩
  · rintro ⟨since, hheld, hover⟩
    obtain ⟨expiresAt, hends⟩ := hheld.exists_end horderly
    exact ⟨expiresAt, ⟨since, hheld, hends⟩, (Moment.le_iff_le_since hends).mpr hover⟩

theorem take_expired_iff (horderly : Orderly ttl actions) {now : Moment} :
    (((new ttl).run actions).take token now).1 = .expired envelope ↔
      ∃ since, Held ttl actions token envelope since ∧ ttl ≤ now.since since := by
  rw [take, worth_expired_iff, over_iff horderly]

theorem take_unknown_iff (horderly : Orderly ttl actions) {now : Moment} :
    (((new ttl).run actions).take token now).1 = .unknown ↔
      ∀ envelope since, ¬ Held ttl actions token envelope since := by
  rw [take, worth_unknown_iff, Option.eq_none_iff_forall_ne_some]
  constructor
  · intro hnone envelope since hheld
    obtain ⟨expiresAt, hends⟩ := hheld.exists_end horderly
    exact hnone ⟨envelope, expiresAt⟩ ((get?_run horderly).mpr ⟨since, hheld, hends⟩)
  · rintro hnone ⟨envelope, expiresAt⟩ hpending
    obtain ⟨since, hheld, -⟩ := (get?_run horderly).mp hpending
    exact hnone envelope since hheld

/-- A purge drops the leases that are over and says how many they are. -/
theorem purge_drops (horderly : Orderly ttl actions) (now : Moment) :
    ∃ gone : List String, gone.Nodup ∧ ((new ttl).run actions).purged now = gone.length ∧
      (∀ token, token ∈ gone ↔
        ∃ envelope since, Held ttl actions token envelope since ∧ ttl ≤ now.since since) ∧
      ∀ token, (((new ttl).run actions).purge now).pending.get? token =
        if token ∈ gone then none else ((new ttl).run actions).pending.get? token := by
  obtain ⟨gone, hnodup, hsize, hgone⟩ := Table.exists_filtered
    (fun write : PendingWrite => decide (now < write.expiresAt)) ((new ttl).run actions).pending
  refine ⟨gone, hnodup, ?_, ?_, ?_⟩
  · rw [purged, size, hsize]
    exact Nat.add_sub_cancel_left ..
  · intro token
    rw [hgone]
    simp only [← over_iff horderly, decide_eq_false_iff_not]
    constructor
    · rintro ⟨⟨envelope, expiresAt⟩, hpending, hover⟩
      exact ⟨envelope, expiresAt, hpending, Int.not_lt.mp hover⟩
    · rintro ⟨envelope, expiresAt, hpending, hover⟩
      exact ⟨⟨envelope, expiresAt⟩, hpending, Int.not_lt.mpr hover⟩
  · intro token
    rw [purge, Table.get?_filter]
    simp only [hgone]
    cases ((new ttl).run actions).pending.get? token with
    | none => simp
    | some write => simp [Option.filter_some]

/-- Tokens are leases. -/
structure Leases (ttl : Span) (actions : List Action) : Prop where
  answered : ((new ttl).answers actions).length = actions.length
  /-- Whoever comes first and in time finds the write, whenever tokens were purged. -/
  valid : ∀ token envelope now, Passed actions now →
    ((((new ttl).run actions).take token now).1 = .valid envelope ↔
      ∃ since, Untried actions token envelope since ∧ now.since since < ttl)
  /-- A lease that is over shows until it is purged, and nothing else is known. -/
  expired : ∀ token envelope now,
    (((new ttl).run actions).take token now).1 = .expired envelope ↔
      ∃ since, Held ttl actions token envelope since ∧ ttl ≤ now.since since
  unknown : ∀ token now, (((new ttl).run actions).take token now).1 = .unknown ↔
    ∀ envelope since, ¬ Held ttl actions token envelope since
  /-- A purge drops the leases that are over and says how many they were. -/
  purged : ∀ now, ∃ gone : List String, gone.Nodup ∧
    ((new ttl).run actions).purged now = gone.length ∧
    (∀ token, token ∈ gone ↔
      ∃ envelope since, Held ttl actions token envelope since ∧ ttl ≤ now.since since) ∧
    ∀ token, (((new ttl).run actions).purge now).pending.get? token =
      if token ∈ gone then none else ((new ttl).run actions).pending.get? token
  balance : ((new ttl).run actions).size + takenCount ((new ttl).answers actions) +
    droppedCount ((new ttl).answers actions) = issuedCount actions
  /-- With more purges, or fewer, the same tokens are good. -/
  invisible : ∀ others, Orderly ttl others →
    (others.filter fun action => !action.isPurge) = actions.filter (fun action => !action.isPurge) →
    ∀ token envelope now, Passed actions now → Passed others now →
      ((((new ttl).run others).take token now).1 = .valid envelope ↔
        (((new ttl).run actions).take token now).1 = .valid envelope)

theorem run_leases (horderly : Orderly ttl actions) : Leases ttl actions where
  answered := length_answers horderly
  valid := fun token envelope now hpassed => take_valid_iff horderly hpassed
  expired := fun token envelope now => take_expired_iff horderly
  unknown := fun token now => take_unknown_iff horderly
  purged := fun now => purge_drops horderly now
  balance := size_run horderly
  invisible := by
    intro others hothers hsame token envelope now hpassed hpassedToo
    rw [take_valid_iff horderly hpassed, take_valid_iff hothers hpassedToo]
    simp only [← untried_filter others, hsame, untried_filter]

/-- A write that somebody wants done twice. -/
def newTitle : Envelope :=
  .new ⟨.ofNanos 0, "id", "event", "token"⟩ "rename_page" "u1" "notion:page/1" .null

/-- Two tokens are issued and one of them is used; tokens are purged when the other has a moment
left. -/
def twoTokens : List Action := [
  .issue "a" newTitle (.ofNanos 0),
  .issue "b" newTitle (.ofNanos 5),
  .take "a" (.ofNanos 9),
  .purge (.ofNanos 14)]

theorem twoTokens_leases :
    Orderly ⟨10⟩ twoTokens ∧
    (((new ⟨10⟩).run twoTokens).take "b" (.ofNanos 14)).1 = .valid newTitle ∧
    (((new ⟨10⟩).run twoTokens).take "b" (.ofNanos 15)).1 = .expired newTitle ∧
    (((new ⟨10⟩).run twoTokens).take "a" (.ofNanos 14)).1 = .unknown ∧
    ((new ⟨10⟩).run twoTokens).purged (.ofNanos 15) = 1 ∧
    Leases ⟨10⟩ twoTokens := by
  have horderly : Orderly ⟨10⟩ twoTokens := by
    refine ⟨by decide, ?_⟩
    intro token envelope now hissue
    simp only [twoTokens, List.mem_cons, Action.issue.injEq, reduceCtorEq, List.not_mem_nil,
      or_false] at hissue
    rcases hissue with ⟨_, _, rfl⟩ | ⟨_, _, rfl⟩ <;> decide
  exact ⟨horderly, by decide +kernel, by decide +kernel, by decide +kernel, by decide +kernel,
    run_leases horderly⟩

end Run

end Gatehouse.CommitTokens
