/-! # Blank characters

White space in the sense of the Unicode property White_Space, and the two
normalisations applied to names that people type: trimming both ends and
lowering the letters A to Z. Neither touches anything inside the text that is
not an ASCII capital.
-/

namespace Gatehouse.Text

/-- The characters that have the Unicode property White_Space. -/
def isBlank (c : Char) : Bool :=
  let n := c.toNat
  (9 ≤ n && n ≤ 13) || n == 0x20 || n == 0x85 || n == 0xA0 || n == 0x1680 ||
    (0x2000 ≤ n && n ≤ 0x200A) || n == 0x2028 || n == 0x2029 || n == 0x202F ||
    n == 0x205F || n == 0x3000

/-- Drops the blanks in front. -/
def trimStart (cs : List Char) : List Char :=
  cs.dropWhile isBlank

/-- Drops the blanks at both ends. -/
def trimChars (cs : List Char) : List Char :=
  (trimStart (trimStart cs).reverse).reverse

/-- Drops the blanks at both ends of a text. -/
def trim (s : String) : String :=
  String.ofList (trimChars s.toList)

/-- A text is blank when trimming leaves nothing of it. -/
def isBlankText (s : String) : Bool :=
  (trimChars s.toList).isEmpty

/-- Lowers the letters A to Z and leaves every other character alone. -/
def lowerAscii (s : String) : String :=
  s.map Char.toLower

/-- The form in which status names are compared: trimmed, ASCII letters lowered. -/
def normalName (s : String) : String :=
  lowerAscii (trim s)

end Gatehouse.Text
