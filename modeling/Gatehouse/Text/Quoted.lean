import Gatehouse.Text.Digits
import Gatehouse.Text.Printable

/-! # Quoted text

The quoted form of a text inside messages: double quotes around it, a backslash
before a quote or a backslash, short escapes for the common controls and
`\u` with a braced hexadecimal number for every other character that does not
print.
-/

namespace Gatehouse.Text

/-- A character as it appears inside a quoted text. -/
def quotedChar (c : Char) : String :=
  if c = '\x22' then "\\\""
  else if c = '\x5c' then "\\\\"
  else if c = '\x00' then "\\0"
  else if c = '\x09' then "\\t"
  else if c = '\x0a' then "\\n"
  else if c = '\x0d' then "\\r"
  else if isPrintable c then String.singleton c
  else "\\u\x7b" ++ hexPadded 1 c.toNat ++ "\x7d"

/-- A text between double quotes, with every awkward character escaped. -/
def quoted (s : String) : String :=
  "\"" ++ String.join (s.toList.map quotedChar) ++ "\""

/-- Texts in brackets, each quoted. -/
def quotedList (items : List String) : String :=
  "[" ++ String.intercalate ", " (items.map quoted) ++ "]"

end Gatehouse.Text
