import Gatehouse.Text.Digits
import Gatehouse.Time.Calendar
import Gatehouse.Toml.Outline

/-! # Reading TOML text

A reader of TOML 1.0 documents. It either finds the document or fails; why it
fails nobody asks. Values may nest, and keys may have parts, below a fixed
limit of eighty.
-/

namespace Gatehouse.Toml.Reader

open Text

/-- A reader of the front of a text. -/
abbrev Read := StateT (List Char) Option

/-- Gives up. -/
def reject {α : Type} : Read α := fun _ => none

/-- The next character, left in place. -/
def peek : Read (Option Char) := fun cs => some (cs.head?, cs)

/-- Takes the next character. -/
def next : Read Char := fun cs =>
  match cs with
  | [] => none
  | c :: rest => some (c, rest)

/-- Takes an expected character. -/
def expect (c : Char) : Read Unit := do
  if (← next) ≠ c then reject

/-- Takes an expected word, if it is there. -/
def accept (word : String) : Read Bool := fun cs =>
  let w := word.toList
  if cs.take w.length = w then some (true, cs.drop w.length) else some (false, cs)

/-- Takes the characters in front that pass a test. -/
def takeWhile (p : Char → Bool) : Read (List Char) := fun cs =>
  some (cs.takeWhile p, cs.dropWhile p)

/-- Skips spaces and tabs. -/
def skipBlanks : Read Unit := do
  let _ ← takeWhile fun c => c = ' ' || c = '\x09'

/-- A character that may stand in comments and literal strings. -/
def isPlain (c : Char) : Bool :=
  c = '\x09' || (0x20 ≤ c.toNat && c.toNat ≠ 0x7F)

/-- Takes a line end, if there is one. -/
def acceptNewline : Read Bool := do
  if ← accept "\n" then return true
  accept "\r\n"

/-- Skips a comment, if there is one. -/
def skipComment : Read Unit := do
  if ← accept "#" then
    let _ ← takeWhile isPlain

/-- The end of a line: blanks, perhaps a comment, a line end or the end of the text. -/
def lineEnd : Read Unit := do
  skipBlanks
  skipComment
  if ← acceptNewline then return
  if (← peek).isSome then reject

/-- Skips blanks, comments and line ends. -/
def skipLines : Nat → Read Unit
  | 0 => reject
  | fuel + 1 => do
    skipBlanks
    skipComment
    if ← acceptNewline then skipLines fuel

/-- Skips spaces, tabs and line ends. -/
def skipWhite : Nat → Read Unit
  | 0 => reject
  | fuel + 1 => do
    skipBlanks
    if ← acceptNewline then skipWhite fuel

/-- So many hexadecimal digits, as the character with that number. -/
def hexChar (count : Nat) : Read Char := fun cs => do
  let digits := cs.take count
  if digits.length ≠ count then none
  let values ← digits.mapM hexValue?
  let n := values.foldl (fun n d => 16 * n + d) 0
  if n < 0xD800 ∨ (0xE000 ≤ n ∧ n < 0x110000) then some (Char.ofNat n, cs.drop count) else none

/-- What an escape stands for, behind its backslash. -/
def escape : Read Char := do
  let c ← next
  if c = 'b' then return '\x08'
  if c = 't' then return '\x09'
  if c = 'n' then return '\x0a'
  if c = 'f' then return '\x0c'
  if c = 'r' then return '\x0d'
  if c = '\x22' ∨ c = '\x5c' then return c
  if c = 'u' then return ← hexChar 4
  if c = 'U' then return ← hexChar 8
  reject

/-- A string on one line, behind its opening double quote. -/
def basicString : Nat → List Char → Read String
  | 0, _ => reject
  | fuel + 1, read => do
    let c ← next
    if c = '\x22' then return String.ofList read.reverse
    if c = '\x5c' then
      let c ← escape
      basicString fuel (c :: read)
    else if isPlain c then basicString fuel (c :: read)
    else reject

/-- A string without escapes on one line, behind its opening single quote. -/
def literalString : Read String := do
  let body ← takeWhile fun c => isPlain c && c ≠ '\x27'
  expect '\x27'
  return String.ofList body

/-- The end of a string of several lines, at a run of quotes: the quotes that belong to the text,
and whether the string ends. -/
def closingQuotes (quote : Char) : Read (List Char × Bool) := fun cs =>
  let run := (cs.takeWhile (· = quote)).length
  if run < 3 then some ((List.replicate run quote, false), cs.drop run)
  else
    let kept := min (run - 3) 2
    some ((List.replicate kept quote, true), cs.drop (kept + 3))

/-- A string of several lines, behind its opening double quotes. -/
def longBasicString : Nat → List Char → Read String
  | 0, _ => reject
  | fuel + 1, read => do
    match ← peek with
    | none => reject
    | some c =>
      if c = '\x22' then
        let (kept, closed) ← closingQuotes '\x22'
        if closed then return String.ofList (kept ++ read).reverse
        else longBasicString fuel (kept ++ read)
      else if c = '\x5c' then
        let _ ← next
        let before ← get
        skipBlanks
        if ← acceptNewline then
          skipWhite ((← get).length + 1)
          longBasicString fuel read
        else
          set before
          let c ← escape
          longBasicString fuel (c :: read)
      else if ← acceptNewline then longBasicString fuel ('\x0a' :: read)
      else if isPlain c then
        let _ ← next
        longBasicString fuel (c :: read)
      else reject

/-- A string of several lines without escapes, behind its opening single quotes. -/
def longLiteralString : Nat → List Char → Read String
  | 0, _ => reject
  | fuel + 1, read => do
    match ← peek with
    | none => reject
    | some c =>
      if c = '\x27' then
        let (kept, closed) ← closingQuotes '\x27'
        if closed then return String.ofList (kept ++ read).reverse
        else longLiteralString fuel (kept ++ read)
      else if ← acceptNewline then longLiteralString fuel ('\x0a' :: read)
      else if isPlain c then
        let _ ← next
        longLiteralString fuel (c :: read)
      else reject

/-- A string of any kind, as a value. -/
def string : Read String := do
  let fuel := (← get).length + 1
  if ← accept "\"\"\"" then
    let _ ← acceptNewline
    longBasicString fuel []
  else if ← accept "\"" then basicString fuel []
  else if ← accept "\x27\x27\x27" then
    let _ ← acceptNewline
    longLiteralString fuel []
  else if ← accept "\x27" then literalString
  else reject

/-- The parts a key may be made of without quotes. -/
def isBare (c : Char) : Bool :=
  c.isAlphanum || c = '_' || c = '-'

/-- One part of a key, with the blanks around it. -/
def keyPart : Read String := do
  skipBlanks
  let part ←
    if ← accept "\"" then basicString ((← get).length + 1) []
    else if ← accept "\x27" then literalString
    else
      let bare ← takeWhile isBare
      if bare.isEmpty then reject
      pure (String.ofList bare)
  skipBlanks
  return part

/-- The parts of a key behind the first one. -/
def moreKeyParts : Nat → Read (List String)
  | 0 => reject
  | fuel + 1 => do
    if ← accept "." then
      let part ← keyPart
      return part :: (← moreKeyParts fuel)
    else return []

/-- The limit for nested values and parts of a key. -/
def depthLimit : Nat := 80

/-- A key: the path in front of its last part, and the last part. -/
def key : Read (List String × String) := do
  let first ← keyPart
  let more ← moreKeyParts ((← get).length + 1)
  let parts := first :: more
  if depthLimit ≤ parts.length then reject
  return (parts.dropLast, parts.getLastD first)

/-- Digits of a base with single underscores between them. -/
def digitRun (isDigit : Char → Bool) : Nat → List Char → Read (List Char)
  | 0, read => pure read.reverse
  | fuel + 1, read => fun cs =>
    match cs with
    | '_' :: d :: rest =>
      if isDigit d && !read.isEmpty then digitRun isDigit fuel (d :: read) rest
      else some (read.reverse, cs)
    | d :: rest =>
      if isDigit d then digitRun isDigit fuel (d :: read) rest else some (read.reverse, cs)
    | [] => some (read.reverse, [])

/-- At least one digit of a base. -/
def digits (isDigit : Char → Bool) : Read (List Char) := do
  let run ← digitRun isDigit (← get).length []
  if run.isEmpty then reject
  return run

/-- An integer of at most sixty-four bits. -/
def checkedInteger (n : Int) : Read Toml :=
  if -(pow2 63 : Int) ≤ n ∧ n < pow2 63 then pure (.integer n) else reject

/-- The number of a run of digits in a base. -/
def valueIn (base : Nat) (digits : List Char) : Nat :=
  digits.foldl (fun n c => base * n + (hexValue? c).getD 0) 0

/-- The fraction of a float: its digits, if there are any. -/
def fractionDigits : Read (List Char) := do
  if ← accept "." then digits Char.isDigit else return []

/-- The exponent of a float, if there is one. -/
def exponent : Read (Option Int) := do
  let marked := (← accept "e") || (← accept "E")
  if marked then
    let negative ← accept "-"
    if !negative then
      let _ ← accept "+"
    let n : Int := decimalValue (← digits Char.isDigit)
    return some (if negative then -n else n)
  else return none

/-- A decimal integer or a float behind its sign. -/
def decimal (negative : Bool) : Read Toml := do
  let whole ← digits Char.isDigit
  if whole.length > 1 ∧ whole.head? = some '0' then reject
  let fraction ← fractionDigits
  let exponent ← exponent
  if fraction.isEmpty && exponent.isNone then
    let n : Int := decimalValue whole
    checkedInteger (if negative then -n else n)
  else
    let x := Double.ofDecimal negative (decimalValue (whole ++ fraction))
      (exponent.getD 0 - fraction.length)
    if !x.isFinite && !negative then reject
    return .float x

/-- A number. -/
def number : Read Toml := do
  if ← accept "0x" then
    checkedInteger (valueIn 16 (← digits fun c => (hexValue? c).isSome))
  else if ← accept "0o" then checkedInteger (valueIn 8 (← digits fun c => '0' ≤ c && c ≤ '7'))
  else if ← accept "0b" then checkedInteger (valueIn 2 (← digits fun c => c = '0' || c = '1'))
  else
    let negative ← accept "-"
    if !negative then
      let _ ← accept "+"
    if ← accept "inf" then return .float (Double.ofMagnitude negative Double.infinityBits)
    if ← accept "nan" then
      return .float (Double.ofMagnitude negative (Double.infinityBits + pow2 51))
    decimal negative

/-- Exactly so many digits, as a number. -/
def fixedDigits (count : Nat) : Read Nat := fun cs =>
  let found := (cs.take count).takeWhile Char.isDigit
  if found.length = count then some (decimalValue found, cs.drop count) else none

/-- A date that the calendar has. -/
def fullDate : Read Unit := do
  let year ← fixedDigits 4
  expect '-'
  let month ← fixedDigits 2
  expect '-'
  let day ← fixedDigits 2
  if ¬ (Date.mk year month day).IsValid then reject

/-- A time of day. -/
def partialTime : Read Unit := do
  let hour ← fixedDigits 2
  expect ':'
  let minute ← fixedDigits 2
  expect ':'
  let second ← fixedDigits 2
  if 23 < hour ∨ 59 < minute ∨ 60 < second then reject
  if ← accept "." then
    if (← takeWhile Char.isDigit).isEmpty then reject

/-- An offset from Universal Time, if there is one. -/
def timeOffset : Read Unit := do
  if (← accept "Z") || (← accept "z") then return
  if (← accept "+") || (← accept "-") then
    let hour ← fixedDigits 2
    expect ':'
    let minute ← fixedDigits 2
    if 23 < hour ∨ 59 < minute then reject

/-- Reads something or, failing that, nothing. -/
def attempt (r : Read Unit) : Read Bool := fun cs =>
  match r cs with
  | some ((), rest) => some (true, rest)
  | none => some (false, cs)

/-- A date, a time, or both. -/
def datetime : Read Unit := do
  if ← attempt fullDate then
    let _ ← attempt do
      if !((← accept "T") || (← accept "t") || (← accept " ")) then reject
      partialTime
      timeOffset
  else partialTime

/-- A value that starts with a digit or a sign. -/
def numeric : Read Toml := do
  if ← attempt datetime then return .datetime
  number

mutual

/-- A value, so many levels deep. -/
def value : Nat → Nat → Read Toml
  | 0, _ => reject
  | fuel + 1, depth => do
    match ← peek with
    | none => reject
    | some c =>
      if c = '\x22' ∨ c = '\x27' then return .text (← string)
      else if c = '[' then
        if depthLimit ≤ depth + 1 then reject
        expect '['
        return .array (← items fuel (depth + 1))
      else if c = '\x7b' then
        if depthLimit ≤ depth + 1 then reject
        expect '\x7b'
        skipBlanks
        if ← accept "\x7d" then return .table []
        return (← pairs fuel (depth + 1) .opened).close
      else if c = 't' then
        if ← accept "true" then return .boolean true
        reject
      else if c = 'f' then
        if ← accept "false" then return .boolean false
        reject
      else if c.isDigit ∨ c = '+' ∨ c = '-' ∨ c = 'i' ∨ c = 'n' then numeric
      else reject

/-- The items of an array up to and with its closing bracket. -/
def items : Nat → Nat → Read (List Toml)
  | 0, _ => reject
  | fuel + 1, depth => do
    skipLines ((← get).length + 1)
    if ← accept "]" then return []
    let v ← value fuel depth
    skipLines ((← get).length + 1)
    if ← accept "," then return v :: (← items fuel depth)
    expect ']'
    return [v]

/-- The pairs of an inline table up to and with its closing brace. -/
def pairs : Nat → Nat → Branch → Read Branch
  | 0, _, _ => reject
  | fuel + 1, depth, before => do
    let (path, last) ← key
    expect '='
    skipBlanks
    let v ← value fuel depth
    skipBlanks
    match before.assign path last v with
    | none => reject
    | some after =>
      if ← accept "," then pairs fuel depth after
      else
        expect '\x7d'
        return after

end

/-- The lines of a document. -/
def lines : Nat → Outline → Read Outline
  | 0, _ => reject
  | fuel + 1, outline => do
    skipBlanks
    match ← peek with
    | none => return outline
    | some c =>
      if c = '#' then
        lineEnd
        lines fuel outline
      else if c = '\x0a' ∨ c = '\x0d' then
        if ← acceptNewline then lines fuel outline
        else reject
      else if c = '[' then
        let inArray ← accept "[["
        if !inArray then expect '['
        let (path, last) ← key
        expect ']'
        if inArray then expect ']'
        lineEnd
        match if inArray then outline.openArrayTable path last
            else outline.openTable path last with
        | none => reject
        | some outline => lines fuel outline
      else
        let (path, last) ← key
        expect '='
        skipBlanks
        let v ← value (2 * (← get).length + 2) 0
        lineEnd
        match outline.assign path last v with
        | none => reject
        | some outline => lines fuel outline

/-- Reads a document. -/
def read (s : String) : Option Toml := do
  let cs := match s.toList with
    | '\ufeff' :: rest => rest
    | cs => cs
  let (outline, _) ← lines (cs.length + 1) .start cs
  outline.close

end Gatehouse.Toml.Reader
