import Gatehouse.Table

/-! # The environment

The environment variables the system can read.
-/

namespace Gatehouse

/-- Environment variables and their values. -/
structure Environment where
  settings : Table String String
  deriving DecidableEq, Inhabited

namespace Environment

/-- The environment with the given variables, later ones replacing earlier ones. -/
def ofList (pairs : List (String × String)) : Environment :=
  ⟨pairs.foldl (fun t (name, value) => t.put name value) .empty⟩

/-- The value of a variable, if it is set. -/
def get? (env : Environment) (name : String) : Option String :=
  env.settings.get? name

/-- Sets a variable. -/
def set (env : Environment) (name value : String) : Environment :=
  ⟨env.settings.put name value⟩

/-- Unsets a variable. -/
def unset (env : Environment) (name : String) : Environment :=
  ⟨env.settings.erase name⟩

end Environment

end Gatehouse
