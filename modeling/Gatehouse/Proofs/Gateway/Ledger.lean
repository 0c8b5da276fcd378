import Gatehouse.Gateway.Ledger
import Mathlib

/-! # Laws of the key ledger

What beginning and finishing an attempt do to the record of every key. An
attempt is granted exactly while none is running for the key and none has left
an outcome to repeat; granting it marks the key, and nothing but a later finish
takes the mark away. Records of other keys are never touched.
-/

namespace Gatehouse.KeyLedger

/-- An attempt for the key is marked as running. -/
def Marks (l : KeyLedger) (key : WriteKey) : Prop :=
  ∃ record, l.get? key = some record ∧ record.state = .processing

/-- An attempt for the key succeeded and left the outcome. -/
def Keeps (l : KeyLedger) (key : WriteKey) (outcome : WriteOutcome) : Prop :=
  ∃ record, l.get? key = some record ∧ record.state = .succeeded ∧ record.outcome = some outcome

/-- How many attempts were granted for the key. -/
def attemptsOf (l : KeyLedger) (key : WriteKey) : Nat :=
  ((l.get? key).map KeyRecord.attempts).getD 0

theorem attemptsOf_of_get? {l : KeyLedger} {key : WriteKey} {record : KeyRecord}
    (hrecord : l.get? key = some record) : l.attemptsOf key = record.attempts := by
  rw [attemptsOf, hrecord]
  rfl

theorem not_marks_of_get? {l : KeyLedger} {key : WriteKey} {record : KeyRecord}
    (hrecord : l.get? key = some record) (hstate : record.state ≠ .processing) :
    ¬ l.Marks key := by
  rintro ⟨marked, hmarked, hprocessing⟩
  obtain rfl := Option.some.inj (hrecord.symm.trans hmarked)
  exact hstate hprocessing

@[simp] theorem get?_empty (key : WriteKey) : empty.get? key = none := rfl

theorem not_marks_empty (key : WriteKey) : ¬ empty.Marks key := by
  simp [Marks]

theorem keeps_congr {l m : KeyLedger} {key : WriteKey} {outcome : WriteOutcome}
    (hget : m.get? key = l.get? key) : m.Keeps key outcome ↔ l.Keeps key outcome := by
  simp [Keeps, hget]

theorem Keeps.not_marks {l : KeyLedger} {key : WriteKey} {outcome : WriteOutcome}
    (hkeeps : l.Keeps key outcome) : ¬ l.Marks key := by
  obtain ⟨record, hget, hsucceeded, _⟩ := hkeeps
  exact not_marks_of_get? hget (by simp [hsucceeded])

theorem Keeps.unique {l : KeyLedger} {key : WriteKey} {first second : WriteOutcome}
    (hfirst : l.Keeps key first) (hsecond : l.Keeps key second) : first = second := by
  obtain ⟨_, hget, _, houtcome⟩ := hfirst
  obtain ⟨_, hget', _, houtcome'⟩ := hsecond
  rw [hget, Option.some.injEq] at hget'
  rw [← hget', houtcome, Option.some.injEq] at houtcome'
  exact houtcome'

section Begin

variable {l : KeyLedger} {key : WriteKey} {now : Moment}

theorem begin_of_marks (hmarks : l.Marks key) : l.begin key now = (.inProgress, l) := by
  obtain ⟨record, hget, hstate⟩ := hmarks
  simp only [begin, hget, hstate]

theorem begin_of_keeps {outcome : WriteOutcome} (hkeeps : l.Keeps key outcome) :
    l.begin key now = (.replay outcome, l) := by
  obtain ⟨record, hget, hstate, houtcome⟩ := hkeeps
  simp only [begin, hget, hstate, houtcome]

/-- An attempt is granted as soon as none is running and none has left an outcome. -/
theorem begin_of_free (hmarks : ¬ l.Marks key) (hkeeps : ∀ outcome, ¬ l.Keeps key outcome) :
    (l.begin key now).1 = .reserved := by
  cases hget : l.get? key with
  | none => simp only [begin, hget]
  | some record =>
      cases hstate : record.state with
      | processing => exact absurd ⟨record, hget, hstate⟩ hmarks
      | failed => simp only [begin, hget, hstate]
      | succeeded =>
          cases houtcome : record.outcome with
          | none => simp only [begin, hget, hstate, houtcome]
          | some outcome => exact absurd ⟨record, hget, hstate, houtcome⟩ (hkeeps outcome)

theorem begin_of_failed {record : KeyRecord} (hrecord : l.get? key = some record)
    (hfailed : record.state = .failed) : (l.begin key now).1 = .reserved := by
  simp only [begin, hrecord, hfailed]

theorem begin_reserved_iff :
    (l.begin key now).1 = .reserved ↔ ¬ l.Marks key ∧ ∀ outcome, ¬ l.Keeps key outcome := by
  refine ⟨fun hreserved => ⟨?_, ?_⟩, fun hfree => begin_of_free hfree.1 hfree.2⟩
  · intro hmarks
    rw [begin_of_marks hmarks] at hreserved
    contradiction
  · intro outcome hkeeps
    rw [begin_of_keeps hkeeps] at hreserved
    contradiction

theorem begin_inProgress_iff : (l.begin key now).1 = .inProgress ↔ l.Marks key := by
  refine ⟨fun hbegin => ?_, fun hmarks => by rw [begin_of_marks hmarks]⟩
  by_contra hmarks
  by_cases hkeeps : ∃ outcome, l.Keeps key outcome
  · obtain ⟨outcome, hkeeps⟩ := hkeeps
    rw [begin_of_keeps hkeeps] at hbegin
    contradiction
  · rw [begin_of_free hmarks (not_exists.mp hkeeps)] at hbegin
    contradiction

theorem begin_replay_iff {outcome : WriteOutcome} :
    (l.begin key now).1 = .replay outcome ↔ l.Keeps key outcome := by
  refine ⟨fun hbegin => ?_, fun hkeeps => by rw [begin_of_keeps hkeeps]⟩
  by_cases hmarks : l.Marks key
  · rw [begin_of_marks hmarks] at hbegin
    contradiction
  · by_cases hkeeps : ∃ outcome, l.Keeps key outcome
    · obtain ⟨stored, hkeeps⟩ := hkeeps
      rw [begin_of_keeps hkeeps] at hbegin
      rwa [← Reservation.replay.inj hbegin]
    · rw [begin_of_free hmarks (not_exists.mp hkeeps)] at hbegin
      contradiction

theorem begin_of_not_reserved (hreserved : (l.begin key now).1 ≠ .reserved) :
    (l.begin key now).2 = l := by
  cases hbegin : (l.begin key now).1 with
  | reserved => contradiction
  | inProgress => rw [begin_of_marks (begin_inProgress_iff.mp hbegin)]
  | replay outcome => rw [begin_of_keeps (begin_replay_iff.mp hbegin)]

/-- The record that a granted attempt leaves of its key. -/
def granted (l : KeyLedger) (key : WriteKey) (now : Moment) : KeyRecord :=
  match l.get? key with
  | none => ⟨key, .processing, none, 1, now, now⟩
  | some record =>
    { record with
      state := .processing, outcome := none, attempts := record.attempts + 1, updatedAt := now }

/-- A granted attempt changes the record of its key and no other, and nothing else is changed by who
asks for one. -/
theorem get?_begin (l : KeyLedger) (key other : WriteKey) (now : Moment) :
    (l.begin key now).2.get? other =
      if (l.begin key now).1 = .reserved ∧ other = key then some (l.granted key now)
      else l.get? other := by
  by_cases hreserved : (l.begin key now).1 = .reserved
  · simp only [hreserved, true_and, granted]
    unfold begin at hreserved ⊢
    cases hget : l.get? key with
    | none => exact Table.get?_put ..
    | some record =>
        have hagain : (l.reserveAgain record key now).get? other =
            if other = key then some { record with
              state := .processing, outcome := none, attempts := record.attempts + 1,
              updatedAt := now }
            else l.get? other := Table.get?_put ..
        cases hstate : record.state with
        | processing => simp [hget, hstate] at hreserved
        | failed => simpa [hstate] using hagain
        | succeeded =>
            cases houtcome : record.outcome with
            | none => simpa [hstate, houtcome] using hagain
            | some outcome => simp [hget, hstate, houtcome] at hreserved
  · rw [begin_of_not_reserved hreserved, if_neg fun hgranted => hreserved hgranted.1]

/-- A granted attempt leaves a marked record that counts one attempt more, and no other record
changes. -/
theorem get?_begin_reserved (hreserved : (l.begin key now).1 = .reserved) :
    ∃ record : KeyRecord, record.state = .processing ∧ record.outcome = none ∧
      record.attempts = l.attemptsOf key + 1 ∧
      ∀ other, (l.begin key now).2.get? other =
        if other = key then some record else l.get? other := by
  have hget := fun other => l.get?_begin key other now
  simp only [hreserved, true_and] at hget
  refine ⟨l.granted key now, ?_, ?_, ?_, hget⟩ <;>
  unfold granted
  · cases l.get? key <;> rfl
  · cases l.get? key <;> rfl
  · cases hbefore : l.get? key <;> simp [attemptsOf, hbefore]

theorem attemptsOf_begin_reserved (hreserved : (l.begin key now).1 = .reserved) :
    (l.begin key now).2.attemptsOf key = l.attemptsOf key + 1 := by
  obtain ⟨record, _, _, hattempts, hget⟩ := get?_begin_reserved hreserved
  simp [attemptsOf, hget, hattempts]

theorem get?_begin_reserved_ne (hreserved : (l.begin key now).1 = .reserved) {other : WriteKey}
    (hother : other ≠ key) : (l.begin key now).2.get? other = l.get? other := by
  obtain ⟨record, _, _, _, hget⟩ := get?_begin_reserved hreserved
  rw [hget, if_neg hother]

theorem marks_begin_reserved (hreserved : (l.begin key now).1 = .reserved) (other : WriteKey) :
    (l.begin key now).2.Marks other ↔ other = key ∨ l.Marks other := by
  obtain ⟨record, hstate, _, _, hget⟩ := get?_begin_reserved hreserved
  by_cases hother : other = key
  · simp [Marks, hget, hother, hstate]
  · simp [Marks, hget, hother]

end Begin

theorem get?_finish (l : KeyLedger) (key other : WriteKey) (state : KeyState)
    (outcome : WriteOutcome) (now : Moment) :
    (l.finish key state outcome now).get? other =
      if other = key then
        some { (l.get? key).getD ⟨key, state, none, 1, now, now⟩ with
          state := state, outcome := some outcome, updatedAt := now }
      else l.get? other :=
  Table.get?_put ..

/-- Finishing takes the mark from the key, unless it is finished as running. -/
theorem marks_finish {state : KeyState} (hstate : state ≠ .processing) (l : KeyLedger)
    (key other : WriteKey) (outcome : WriteOutcome) (now : Moment) :
    (l.finish key state outcome now).Marks other ↔ other ≠ key ∧ l.Marks other := by
  by_cases hother : other = key
  · simp [Marks, get?_finish, hother, hstate]
  · simp [Marks, get?_finish, hother]

theorem get?_finish_ne {key other : WriteKey} (hother : other ≠ key) (l : KeyLedger)
    (state : KeyState) (outcome : WriteOutcome) (now : Moment) :
    (l.finish key state outcome now).get? other = l.get? other := by
  rw [get?_finish, if_neg hother]

theorem get?_finish_self {l : KeyLedger} {key : WriteKey} {record : KeyRecord}
    (hrecord : l.get? key = some record) (state : KeyState) (outcome : WriteOutcome)
    (now : Moment) :
    (l.finish key state outcome now).get? key =
      some { record with state := state, outcome := some outcome, updatedAt := now } := by
  rw [get?_finish, if_pos rfl, hrecord]
  rfl

theorem attemptsOf_finish {l : KeyLedger} {key : WriteKey} (hmarks : l.Marks key)
    (state : KeyState) (outcome : WriteOutcome) (now : Moment) :
    (l.finish key state outcome now).attemptsOf key = l.attemptsOf key := by
  obtain ⟨record, hrecord, _⟩ := hmarks
  simp [attemptsOf, get?_finish_self hrecord, hrecord]

theorem keeps_finish_succeeded (l : KeyLedger) (key : WriteKey) (outcome : WriteOutcome)
    (now : Moment) : (l.finish key .succeeded outcome now).Keeps key outcome := by
  simp [Keeps, get?_finish]

end Gatehouse.KeyLedger
