import Gatehouse.Power

/-! # Moments and spans

A moment is a count of nanoseconds since 1970-01-01T00:00:00Z and a span is a
difference of two counts. Adding a span to a moment can leave the years that
the calendar represents; `Moment.add?` then has no answer, and whoever asked
has to say what that means. Lengths of time given in seconds or milliseconds
become spans only while they fit sixty-three bits of milliseconds.
-/

namespace Gatehouse

/-- A length of time in nanoseconds; it may be negative. -/
structure Span where
  nanos : Int
  deriving DecidableEq, Inhabited, Repr

namespace Span

/-- A span of whole milliseconds. -/
def ofMillis (n : Int) : Span :=
  ⟨n * 1000000⟩

/-- A span of whole seconds. -/
def ofSeconds (n : Int) : Span :=
  ⟨n * 1000000000⟩

/-- The longest length of time, in milliseconds, that a span may be made of. -/
def maxMillis : Nat := pow2 63 - 1

/-- A length of time in milliseconds as a span, while it is short enough. -/
def ofMillis? (n : Nat) : Option Span :=
  if n ≤ maxMillis then some (ofMillis n) else none

/-- A length of time in seconds as a span, while it is short enough. -/
def ofSeconds? (n : Nat) : Option Span :=
  ofMillis? (1000 * n)

/-- The whole milliseconds of a span, the rest cut off. -/
def millis (s : Span) : Int :=
  Int.tdiv s.nanos 1000000

instance : LT Span := ⟨fun s t => s.nanos < t.nanos⟩
instance : LE Span := ⟨fun s t => s.nanos ≤ t.nanos⟩
instance (s t : Span) : Decidable (s < t) := inferInstanceAs (Decidable (s.nanos < t.nanos))
instance (s t : Span) : Decidable (s ≤ t) := inferInstanceAs (Decidable (s.nanos ≤ t.nanos))

end Span

/-- A moment in Universal Time. A leap second shares its count with the second after it, from
which the flag tells it apart. Order and arithmetic look at the count alone and so know a single
line of nanoseconds. Clocks read no leap seconds; for one that a text names this differs from the
calendars in which it is a moment of its own, comes before the second that shares its count, and
spans may begin and end within it. -/
structure Moment where
  nanos : Int
  leap : Bool
  deriving DecidableEq, Inhabited, Repr

namespace Moment

/-- The moment that is `n` nanoseconds after the start of 1970. -/
def ofNanos (n : Int) : Moment :=
  ⟨n, false⟩

/-- The first representable count: the start of the year -262143. -/
def firstNanos : Int := -8334601228800 * 1000000000

/-- The last representable count: the last nanosecond of the year 262142. -/
def lastNanos : Int := 8210266876799 * 1000000000 + 999999999

/-- A count of nanoseconds that the calendar can show. -/
def Representable (n : Int) : Prop :=
  firstNanos ≤ n ∧ n ≤ lastNanos

instance (n : Int) : Decidable (Representable n) :=
  inferInstanceAs (Decidable (_ ∧ _))

instance : LT Moment := ⟨fun s t => s.nanos < t.nanos⟩
instance : LE Moment := ⟨fun s t => s.nanos ≤ t.nanos⟩
instance (s t : Moment) : Decidable (s < t) := inferInstanceAs (Decidable (s.nanos < t.nanos))
instance (s t : Moment) : Decidable (s ≤ t) := inferInstanceAs (Decidable (s.nanos ≤ t.nanos))

/-- The moment a span later, while the calendar can show it. -/
def add? (t : Moment) (s : Span) : Option Moment :=
  if Representable (t.nanos + s.nanos) then some (ofNanos (t.nanos + s.nanos)) else none

/-- The span from `s` to `t`. -/
def since (t s : Moment) : Span :=
  ⟨t.nanos - s.nanos⟩

section Later

variable {t u now : Moment} {s : Span}

theorem nanos_of_add? (hadd : t.add? s = some u) : u.nanos = t.nanos + s.nanos := by
  unfold add? at hadd
  split at hadd
  next =>
    rw [← Option.some.inj hadd]
    rfl
  next => contradiction

/-- The moment a span later is ahead for as long as the span is not over. -/
theorem lt_iff_since_lt (hadd : t.add? s = some u) : now < u ↔ now.since t < s := by
  change now.nanos < u.nanos ↔ now.nanos - t.nanos < s.nanos
  rw [nanos_of_add? hadd]
  omega

theorem le_iff_le_since (hadd : t.add? s = some u) : u ≤ now ↔ s ≤ now.since t := by
  change u.nanos ≤ now.nanos ↔ s.nanos ≤ now.nanos - t.nanos
  rw [nanos_of_add? hadd]
  omega

end Later

end Moment

end Gatehouse
