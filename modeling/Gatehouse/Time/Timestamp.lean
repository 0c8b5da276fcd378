import Gatehouse.Text.Blank
import Gatehouse.Text.Digits
import Gatehouse.Time.Calendar
import Gatehouse.Time.Moment

/-! # Timestamps

Moments as text in the form of RFC 3339. Writing is strict: `T` between date
and time, a fraction of three, six or nine digits when there is one, `Z` at the
end. Reading is lenient about the separator, blanks, the number of digits of a
field and the way the offset is written, and says at which rule it gave up.
-/

namespace Gatehouse

/-- Why a text is no timestamp. -/
inductive TimestampError where
  | invalidCharacter
  | tooShort
  | outOfRange
  | trailingInput
  | impossible
  deriving DecidableEq, Repr

/-- The wording of a timestamp error. -/
def TimestampError.message : TimestampError → String
  | .invalidCharacter => "input contains invalid characters"
  | .tooShort => "premature end of input"
  | .outOfRange => "input is out of range"
  | .trailingInput => "trailing input"
  | .impossible => "no possible date and time matching input"

namespace Timestamp

open Text

/-- A reader of the front of a text: what it found and what is left. -/
abbrev Reader (α : Type) := List Char → Except TimestampError (α × List Char)

/-- One digit or more, taken up to `atMost`, as a number of at most 63 bits. -/
def number (atMost : Nat) : Reader Nat := fun cs =>
  let digits := (cs.take atMost).takeWhile Char.isDigit
  if cs.isEmpty then .error .tooShort
  else if digits.isEmpty then .error .invalidCharacter
  else if decimalValue digits ≥ pow2 63 then .error .outOfRange
  else .ok (decimalValue digits, cs.drop digits.length)

/-- A number after blanks, within limits. -/
def field (atMost low high : Nat) : Reader Nat := fun cs => do
  let (n, rest) ← number atMost (trimStart cs)
  if low ≤ n ∧ n ≤ high then .ok (n, rest) else .error .outOfRange

/-- A year of at most 32 bits. -/
def checkYear (year : Int) : Except TimestampError Int :=
  if -(pow2 31 : Int) ≤ year ∧ year < pow2 31 then .ok year else .error .outOfRange

/-- The year: after a sign any number of digits, otherwise up to four. -/
def year : Reader Int := fun cs =>
  match trimStart cs with
  | '-' :: rest => do
    let (n, rest) ← number rest.length rest
    .ok (← checkYear (-(n : Int)), rest)
  | '+' :: rest => do
    let (n, rest) ← number rest.length rest
    .ok (← checkYear n, rest)
  | rest => do
    let (n, rest) ← number 4 rest
    .ok (← checkYear n, rest)

/-- One given character, after blanks. -/
def literal (c : Char) : Reader Unit := fun cs =>
  match trimStart cs with
  | [] => .error .tooShort
  | d :: rest => if d = c then .ok ((), rest) else .error .invalidCharacter

/-- What stands between date and time: `T`, `t` or a space. -/
def separator : Reader Unit := fun cs =>
  match cs with
  | [] => .error .tooShort
  | c :: rest =>
    if c = 't' ∨ c = 'T' ∨ c = ' ' then .ok ((), rest) else .error .invalidCharacter

/-- The fraction of a second in nanoseconds: up to nine digits count, more are skipped. -/
def fraction : Reader Nat := fun cs =>
  match cs with
  | '.' :: rest => do
    let (n, after) ← number 9 rest
    let used := rest.length - after.length
    .ok (n * pow10 (9 - used), after.dropWhile Char.isDigit)
  | _ => .ok (0, cs)

/-- The two digits at the front. A single character counts as too short only if it is ASCII. -/
def twoDigits : Reader (Char × Char) := fun cs =>
  match cs with
  | a :: b :: rest =>
    if a.isDigit ∧ b.isDigit then .ok ((a, b), rest) else .error .invalidCharacter
  | [a] => if a.toNat < 128 then .error .tooShort else .error .invalidCharacter
  | [] => .error .tooShort

/-- The offset from Universal Time in seconds: `UTC`, `Z`, or a sign, hours and minutes. -/
def offset : Reader Int := fun cs =>
  match cs with
  | [] => .error .tooShort
  | c :: rest =>
    if lowerAscii (String.ofList (cs.take 3)) = "utc" then .ok (0, cs.drop 3)
    else if c = 'Z' ∨ c = 'z' then .ok (0, rest)
    else if c = '+' ∨ c = '-' ∨ c = '\u2212' then do
      let ((h1, h2), rest) ← twoDigits rest
      let rest := rest.dropWhile fun c => c = ':' || isBlank c
      let ((m1, m2), rest) ← twoDigits rest
      if digitValue m1 ≥ 6 then .error .outOfRange
      else
        let seconds : Int :=
          decimalValue [h1, h2] * 3600 + decimalValue [m1, m2] * 60
        .ok (if c = '+' then seconds else -seconds, rest)
    else .error .invalidCharacter

/-- A moment from its parts; the sixtieth second is a leap second. -/
def assemble (date : Date) (hour minute second nanos : Nat) (offset : Int) :
    Except TimestampError Moment :=
  if ¬ date.IsValid ∨ date.year < -262143 ∨ 262142 < date.year then .error .outOfRange
  else if 86400 ≤ offset.natAbs then .error .outOfRange
  else
    let clock : Int := hour * 3600 + minute * 60 + (min second 59 : Nat)
    let instant := (date.toDays * 86400 + clock - offset) * 1000000000
    if Moment.Representable instant then
      if second = 60 then .ok ⟨instant + 1000000000 + nanos, true⟩
      else .ok ⟨instant + nanos, false⟩
    else .error .impossible

/-- Reads a timestamp. -/
def parse (s : String) : Except TimestampError Moment := do
  let (year, cs) ← year s.toList
  let ((), cs) ← literal '-' cs
  let (month, cs) ← field 2 1 12 cs
  let ((), cs) ← literal '-' cs
  let (day, cs) ← field 2 1 31 cs
  let ((), cs) ← separator cs
  let (hour, cs) ← field 2 0 23 cs
  let ((), cs) ← literal ':' cs
  let (minute, cs) ← field 2 0 59 cs
  let ((), cs) ← literal ':' cs
  let (second, cs) ← field 2 0 60 cs
  let (nanos, cs) ← fraction cs
  let (offset, cs) ← offset (trimStart cs)
  if (trimStart cs).isEmpty then assemble ⟨year, month, day⟩ hour minute second nanos offset
  else .error .trailingInput

/-- The year with four digits, signed when it needs more or lies before year zero. -/
def yearText (year : Int) : String :=
  if 0 ≤ year ∧ year ≤ 9999 then padded 4 year.toNat
  else (if year < 0 then "-" else "+") ++ padded 4 year.natAbs

/-- The fraction of a second: nothing, or a point and three, six or nine digits. -/
def fractionText (nanos : Nat) : String :=
  if nanos = 0 then ""
  else if nanos % 1000000 = 0 then "." ++ padded 3 (nanos / 1000000)
  else if nanos % 1000 = 0 then "." ++ padded 6 (nanos / 1000)
  else "." ++ padded 9 nanos

/-- Date and time of a moment with the given text between them. -/
def render (separator ending : String) (t : Moment) : String :=
  let count := if t.leap then t.nanos - 1000000000 else t.nanos
  let seconds := count / 1000000000
  let nanos := (count % 1000000000).toNat
  let date := Date.ofDays (seconds / 86400)
  let clock := (seconds % 86400).toNat
  let second := clock % 60 + if t.leap then 1 else 0
  yearText date.year ++ "-" ++ padded 2 date.month ++ "-" ++ padded 2 date.day ++ separator ++
    padded 2 (clock / 3600) ++ ":" ++ padded 2 (clock / 60 % 60) ++ ":" ++ padded 2 second ++
    fractionText nanos ++ ending

end Timestamp

namespace Moment

/-- The timestamp of a moment, ending in `Z`. -/
def text (t : Moment) : String :=
  Timestamp.render "T" "Z" t

/-- The timestamp of a moment, ending in the offset zero. -/
def textWithOffset (t : Moment) : String :=
  Timestamp.render "T" "+00:00" t

/-- The timestamp of a moment as it stands in messages. -/
def display (t : Moment) : String :=
  Timestamp.render " " " UTC" t

end Moment

end Gatehouse
