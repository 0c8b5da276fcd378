import Gatehouse.Json.Decode

/-! # Faults

A fault is how a collaborator, or the decoding of a payload, says that a piece
of work could not be done: a kind for programs and a message for people.
-/

namespace Gatehouse

/-- A failure with its kind. -/
structure Fault where
  kind : String
  message : String
  deriving DecidableEq

namespace Fault

/-- A payload that cannot be understood. -/
def invalidPayload (message : String) : Fault := ⟨"InvalidPayload", message⟩

/-- A job that nobody can do. -/
def invalidJob (message : String) : Fault := ⟨"InvalidJob", message⟩

/-- A collaborator that failed. -/
def integration (message : String) : Fault := ⟨"IntegrationError", message⟩

/-- A collaborator that took too long. -/
def timeout (message : String) : Fault := ⟨"Timeout", message⟩

/-- A failure of this program itself. -/
def internal (message : String) : Fault := ⟨"InternalError", message⟩

/-- A value that does not decode is an invalid payload. -/
def ofDecodeError (e : DecodeError) : Fault := invalidPayload e.message

/-- Kind and message on one line. -/
def text (f : Fault) : String := f.kind ++ ":" ++ f.message

end Fault

end Gatehouse
