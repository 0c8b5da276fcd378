import Gatehouse.Double

/-! # TOML values

The values of a TOML document. Of dates and times only their presence is kept.
-/

namespace Gatehouse

/-- A TOML value. -/
inductive Toml where
  | text (value : String)
  | integer (value : Int)
  | float (value : Double)
  | boolean (value : Bool)
  | datetime
  | array (items : List Toml)
  | table (fields : List (String × Toml))
  deriving Inhabited

end Gatehouse
