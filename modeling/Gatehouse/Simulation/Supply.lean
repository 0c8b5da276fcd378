import Gatehouse.Stamp
import Gatehouse.Text.Digits

/-! # A supply of stamps

A source of clock readings and names for runs that have to be repeatable. The
clock starts at a fixed day of the present, so that dates of long ago are past
and dates far ahead are not, and it advances by a microsecond with every stamp,
so that what is made later is dated later. Identifiers count up in the form of
version 4; tokens are the multiples of a large number, thirty-two bytes long,
which nobody writes down by accident.
-/

namespace Gatehouse.Simulation

/-- How many stamps have been handed out. -/
structure Supply where
  drawn : Nat
  deriving DecidableEq, Inhabited

namespace Supply

/-- The clock before the first stamp: 2026-11-20T00:00:00Z. -/
def startNanos : Int := 1795132800 * 1000000000

/-- What the clock shows. -/
def now (s : Supply) : Moment :=
  .ofNanos (startNanos + 1000 * s.drawn)

/-- The identifier with a number. -/
def identifier (n : Nat) : String :=
  "00000000-0000-4000-8000-" ++ Text.hexPadded 12 n

/-- What all tokens are multiples of. -/
def tokenUnit : Nat := 0xC3A5C85C97CB3127B492B66FBE98F2739AE16A3B2F90404FD6E8

/-- The token with a number. -/
def token (n : Nat) : String :=
  Text.hexPadded 64 ((n + 1) * tokenUnit)

/-- The stamp that comes next. -/
def stamp (s : Supply) : Stamp where
  now := s.now
  id := identifier (2 * s.drawn)
  eventId := identifier (2 * s.drawn + 1)
  token := token s.drawn

/-- The supply after one more stamp. -/
def next (s : Supply) : Supply :=
  ⟨s.drawn + 1⟩

/-- Hands out a stamp. -/
def draw (s : Supply) : Stamp × Supply :=
  (s.stamp, s.next)

end Supply

end Gatehouse.Simulation
