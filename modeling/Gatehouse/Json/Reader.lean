import Gatehouse.Json.Basic

/-! # Reading JSON text

A recursive reader of RFC 8259 text. Integers that fit sixty-four bits, signed
or unsigned, stay integers; every other number becomes a double, and so does
the negative zero. A double is read the quick way: as many digits as fit
sixty-four bits are rounded and then scaled by a power of ten. The fuel is the
length of the text, which bounds both nesting and the number of items.
-/

namespace Gatehouse.Json.Reader

open Text

/-- Drops the blanks that JSON allows between tokens. -/
def skipBlanks (cs : List Char) : List Char :=
  cs.dropWhile fun c => c = ' ' || c = '\x09' || c = '\x0a' || c = '\x0d'

/-- The number written by four hexadecimal digits. -/
def hexQuad : List Char → Option (Nat × List Char)
  | a :: b :: c :: d :: rest => do
    let a ← hexValue? a
    let b ← hexValue? b
    let c ← hexValue? c
    let d ← hexValue? d
    some (((a * 16 + b) * 16 + c) * 16 + d, rest)
  | _ => none

/-- The character behind an escaped `u`: one quad, or two that form a surrogate pair. -/
def unicodeEscape (cs : List Char) : Option (Char × List Char) := do
  let (high, rest) ← hexQuad cs
  if 0xD800 ≤ high ∧ high < 0xDC00 then
    match rest with
    | '\x5c' :: 'u' :: rest => do
      let (low, rest) ← hexQuad rest
      if 0xDC00 ≤ low ∧ low < 0xE000 then
        some (Char.ofNat (0x10000 + (high - 0xD800) * 0x400 + (low - 0xDC00)), rest)
      else none
    | _ => none
  else if 0xDC00 ≤ high ∧ high < 0xE000 then none
  else some (Char.ofNat high, rest)

/-- The character that a letter after a backslash stands for. -/
def simpleEscape (c : Char) : Option Char :=
  if c = '\x22' ∨ c = '\x5c' ∨ c = '/' then some c
  else if c = 'b' then some '\x08'
  else if c = 'f' then some '\x0c'
  else if c = 'n' then some '\x0a'
  else if c = 'r' then some '\x0d'
  else if c = 't' then some '\x09'
  else none

/-- The rest of a string behind its opening quote; `read` holds what was read, reversed. -/
def stringBody : Nat → List Char → List Char → Option (String × List Char)
  | 0, _, _ => none
  | fuel + 1, read, cs =>
    match cs with
    | [] => none
    | c :: rest =>
      if c = '\x22' then some (String.ofList read.reverse, rest)
      else if c = '\x5c' then
        match rest with
        | 'u' :: rest => do
          let (c, rest) ← unicodeEscape rest
          stringBody fuel (c :: read) rest
        | c :: rest => do
          let c ← simpleEscape c
          stringBody fuel (c :: read) rest
        | [] => none
      else if c.toNat < 0x20 then none
      else stringBody fuel (c :: read) rest

/-- The digits in front, at least one. -/
def digits (cs : List Char) : Option (List Char × List Char) :=
  let found := cs.takeWhile Char.isDigit
  if found.isEmpty then none else some (found, cs.drop found.length)

/-- Appends decimal digits to a number as long as it stays below `2 ^ 64`; the second part holds the
digits from the first one that would not fit. -/
def absorb : Nat → List Char → Nat × List Char
  | n, [] => (n, [])
  | n, d :: ds =>
    let next := n * 10 + digitValue d
    if next < pow2 64 then absorb next ds else (n, d :: ds)

/-- A number that is written as a double. Digits that do not fit sixty-four bits count as zeros in
front of the point and for nothing behind it. -/
def makeDouble (negative : Bool) (whole fraction : List Char) (exponent : Int) : Option Json :=
  let (significand, surplus) := absorb 0 whole
  let (significand, unread) := absorb significand fraction
  let places : Int := surplus.length - (fraction.length - unread.length : Nat)
  (Double.ofScaled? negative significand (places + exponent)).map .double

/-- A number from its parts. There is none when it is too large for a double. -/
def makeNumber (negative : Bool) (whole : List Char) (fraction : Option (List Char))
    (exponent : Option Int) : Option Json :=
  match fraction, exponent with
  | none, none =>
    let n := decimalValue whole
    if negative then
      if n = 0 ∨ pow2 63 < n then makeDouble negative whole [] 0 else some (.int (-(n : Int)))
    else if n < pow2 64 then some (.int n)
    else makeDouble negative whole [] 0
  | fraction, exponent => makeDouble negative whole (fraction.getD []) (exponent.getD 0)

/-- A number. -/
def number (cs : List Char) : Option (Json × List Char) := do
  let (negative, cs) := match cs with
    | '-' :: rest => (true, rest)
    | _ => (false, cs)
  let (whole, cs) ← digits cs
  if whole.length > 1 ∧ whole.head? = some '0' then none
  let (fraction, cs) ← match cs with
    | '.' :: rest => (digits rest).map fun (f, rest) => (some f, rest)
    | _ => some (none, cs)
  let (exponent, cs) ← match cs with
    | c :: rest =>
      if c = 'e' ∨ c = 'E' then
        let (minus, rest) := match rest with
          | '-' :: rest => (true, rest)
          | '+' :: rest => (false, rest)
          | _ => (false, rest)
        (digits rest).map fun (d, rest) =>
          let n : Int := decimalValue d
          (some (if minus then -n else n), rest)
      else some (none, cs)
    | [] => some (none, cs)
  (makeNumber negative whole fraction exponent).map fun n => (n, cs)

/-- Drops an expected word. -/
def word (expected : String) (cs : List Char) : Option (List Char) :=
  let w := expected.toList
  if cs.take w.length = w then some (cs.drop w.length) else none

mutual

/-- A value. -/
def value : Nat → List Char → Option (Json × List Char)
  | 0, _ => none
  | fuel + 1, cs =>
    match skipBlanks cs with
    | [] => none
    | c :: rest =>
      if c = '\x7b' then
        match skipBlanks rest with
        | [] => none
        | d :: after =>
          if d = '\x7d' then some (.obj [], after)
          else (fields fuel (d :: after)).map fun (fs, rest) => (Json.ofFields fs, rest)
      else if c = '[' then
        match skipBlanks rest with
        | [] => none
        | d :: after =>
          if d = ']' then some (.arr [], after)
          else (items fuel (d :: after)).map fun (xs, rest) => (.arr xs, rest)
      else if c = '\x22' then
        (stringBody (rest.length + 1) [] rest).map fun (s, rest) => (.str s, rest)
      else if c = 't' then (word "true" (c :: rest)).map fun rest => (.bool true, rest)
      else if c = 'f' then (word "false" (c :: rest)).map fun rest => (.bool false, rest)
      else if c = 'n' then (word "null" (c :: rest)).map fun rest => (.null, rest)
      else number (c :: rest)

/-- The items of an array up to and with its closing bracket. -/
def items : Nat → List Char → Option (List Json × List Char)
  | 0, _ => none
  | fuel + 1, cs => do
    let (x, rest) ← value fuel cs
    match skipBlanks rest with
    | ',' :: rest => (items fuel rest).map fun (xs, rest) => (x :: xs, rest)
    | ']' :: rest => some ([x], rest)
    | _ => none

/-- The fields of an object up to and with its closing brace. -/
def fields : Nat → List Char → Option (List (String × Json) × List Char)
  | 0, _ => none
  | fuel + 1, cs =>
    match skipBlanks cs with
    | '\x22' :: rest => do
      let (key, rest) ← stringBody (rest.length + 1) [] rest
      match skipBlanks rest with
      | ':' :: rest => do
        let (x, rest) ← value fuel rest
        match skipBlanks rest with
        | ',' :: rest => (fields fuel rest).map fun (fs, rest) => ((key, x) :: fs, rest)
        | '\x7d' :: rest => some ([(key, x)], rest)
        | _ => none
      | _ => none
    | _ => none

end

/-- Reads a text that holds one value and nothing else but blanks. -/
def read (s : String) : Option Json := do
  let cs := s.toList
  let (j, rest) ← value (2 * cs.length + 2) cs
  if (skipBlanks rest).isEmpty then some j else none

end Gatehouse.Json.Reader
