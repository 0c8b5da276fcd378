import Gatehouse.Json.Basic

/-! # Writing JSON text

The compact form: no blanks, fields in the order they are kept, and only the
characters escaped that have to be.
-/

namespace Gatehouse.Json

/-- A character inside a JSON string. -/
def escapedChar (c : Char) : String :=
  if c = '\x22' then "\\\""
  else if c = '\x5c' then "\\\\"
  else if c.toNat < 0x20 then "\\u" ++ Text.hexPadded 4 c.toNat
  else String.singleton c

/-- A JSON string. -/
def renderString (s : String) : String :=
  "\"" ++ String.join (s.toList.map escapedChar) ++ "\""

mutual

/-- A value as text. -/
def render : Json → String
  | .null => "null"
  | .bool true => "true"
  | .bool false => "false"
  | .int n => toString n
  | .double x => x.text
  | .str s => renderString s
  | .arr items => "[" ++ String.intercalate "," (renderItems items) ++ "]"
  | .obj fields => "\x7b" ++ String.intercalate "," (renderFields fields) ++ "\x7d"

/-- The items of an array as texts. -/
def renderItems : List Json → List String
  | [] => []
  | x :: rest => render x :: renderItems rest

/-- The fields of an object as texts. -/
def renderFields : List (String × Json) → List String
  | [] => []
  | (k, x) :: rest => (renderString k ++ ":" ++ render x) :: renderFields rest

end

end Gatehouse.Json
