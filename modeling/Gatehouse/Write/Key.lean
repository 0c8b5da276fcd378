import Gatehouse.Sha256

/-! # Idempotency keys

The key under which a logical write is carried out at most once. A caller may
supply one; otherwise it is the SHA-256 digest of the four coordinates of the
write, joined by bars.
-/

namespace Gatehouse

/-- The name of one envelope on its way through the gateway. -/
structure WriteId where
  text : String
  deriving DecidableEq, Inhabited

/-- The name of a logical write. -/
structure WriteKey where
  text : String
  deriving DecidableEq, Inhabited

namespace WriteKey

/-- The coordinates of a write, joined by bars: task, execution, command, resource. A write that
belongs to no task has the empty task. -/
def preimage (task : Option String) (execution command resource : String) : String :=
  task.getD "" ++ "|" ++ execution ++ "|" ++ command ++ "|" ++ resource

/-- The key of a write that comes without one: the digest of its coordinates. -/
def derive (task : Option String) (execution command resource : String) : WriteKey :=
  ⟨Sha256.hexDigest (Text.utf8 (preimage task execution command resource))⟩

end WriteKey

end Gatehouse
