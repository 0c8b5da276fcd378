import Gatehouse.Time.Moment

/-! # Stamps

Everything that a step of the system takes from outside besides its arguments:
a reading of the clock, an identifier for what it makes, another for the record
it leaves in the audit trail, and a commit token. A definition that stamps what
it makes takes a `Stamp`; that the names in it are new is a promise of whoever
hands it out.
-/

namespace Gatehouse

/-- A reading of the clock together with names for whatever comes into being at that moment. -/
structure Stamp where
  now : Moment
  id : String
  eventId : String
  token : String
  deriving DecidableEq

end Gatehouse
