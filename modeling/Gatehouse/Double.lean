import Gatehouse.Power
import Gatehouse.Text.Digits

/-! # Binary64 numbers

A double is kept as its sixty-four bits and read from and written to decimal
text in exact natural arithmetic: a decimal becomes the nearest double, ties to
the even neighbour, and a double is written with the fewest digits that read
back as it. There is a quick way to read a decimal besides the exact one: it
rounds the digits and then scales them, and may miss the nearest double by a
little. No floating point operation takes part.
-/

namespace Gatehouse

/-- A binary64 number, by its bits. -/
structure Double where
  bits : UInt64
  deriving DecidableEq, Inhabited

namespace Double

/-- The bits of positive infinity, and the exponent field of everything not finite. -/
def infinityBits : Nat := 0x7FF0000000000000

/-- The sign bit. -/
def isNegative (x : Double) : Bool :=
  x.bits.toNat ≥ pow2 63

/-- The bits without the sign. -/
def magnitude (x : Double) : Nat :=
  x.bits.toNat % pow2 63

/-- Neither infinite nor undefined. -/
def isFinite (x : Double) : Bool :=
  x.magnitude < infinityBits

/-- The double with the given sign and magnitude bits. -/
def ofMagnitude (negative : Bool) (magnitude : Nat) : Double :=
  ⟨UInt64.ofNat (magnitude + if negative then pow2 63 else 0)⟩

/-- The quotient rounded to the nearest natural number, ties to the even one. -/
def roundDiv (num den : Nat) : Nat :=
  let q := num / den
  let r := num % den
  if 2 * r > den ∨ (2 * r = den ∧ q % 2 = 1) then q + 1 else q

/-- The number of factors of two in the unit of the last place of a positive ratio, never below
that of the least positive double. -/
def unitExponent (num den : Nat) : Int :=
  let guess : Int := (Nat.log2 num : Int) - Nat.log2 den
  let below : Bool :=
    if 0 ≤ guess then num < den * pow2 guess.toNat else num * pow2 (-guess).toNat < den
  let floorLog := if below then guess - 1 else guess
  max (floorLog - 52) (-1074)

/-- The magnitude bits of the double nearest to a positive ratio; infinity when it is too large. -/
def magnitudeOfRatio (num den : Nat) : Nat :=
  let q := unitExponent num den
  let significand :=
    if 0 ≤ q then roundDiv num (den * pow2 q.toNat) else roundDiv (num * pow2 (-q).toNat) den
  min ((q + 1074).toNat * pow2 52 + significand) infinityBits

/-- The magnitude bits of the double nearest to `mantissa * 10 ^ exponent`. -/
def magnitudeOfDecimal (mantissa : Nat) (exponent : Int) : Nat :=
  if mantissa = 0 then 0
  else
    let digits : Int := (Nat.toDigits 10 mantissa).length
    if digits + exponent > 400 then infinityBits
    else if digits + exponent < -400 then 0
    else if 0 ≤ exponent then magnitudeOfRatio (mantissa * pow10 exponent.toNat) 1
    else magnitudeOfRatio mantissa (pow10 (-exponent).toNat)

/-- The double nearest to a signed decimal. -/
def ofDecimal (negative : Bool) (mantissa : Nat) (exponent : Int) : Double :=
  ofMagnitude negative (magnitudeOfDecimal mantissa exponent)

/-- A finite magnitude as significand and power of two. -/
def decode (magnitude : Nat) : Nat × Int :=
  let field : Nat := magnitude / pow2 52
  let fraction : Nat := magnitude % pow2 52
  if field = 0 then (fraction, -1074) else (pow2 52 + fraction, (field : Int) - 1075)

/-- The positive ratio `num / den * 2 ^ q`, rounded to the magnitude bits nearest to it. -/
def magnitudeOfBinary (num den : Nat) (q : Int) : Nat :=
  if num = 0 then 0
  else if 0 ≤ q then magnitudeOfRatio (num * pow2 q.toNat) den
  else magnitudeOfRatio num (den * pow2 (-q).toNat)

/-- The rounded product of two finite magnitudes. -/
def product (a b : Nat) : Nat :=
  let (m, p) := decode a
  let (n, q) := decode b
  magnitudeOfBinary (m * n) 1 (p + q)

/-- The rounded quotient of two finite magnitudes. -/
def quotient (a b : Nat) : Nat :=
  let (m, p) := decode a
  let (n, q) := decode b
  magnitudeOfBinary m n (p - q)

/-- The greatest power of ten that is a double, by its exponent. -/
def greatestPower : Nat := 308

/-- A finite magnitude times a power of ten, rounded once for each power of ten that is a double,
where one step is enough unless the power is too small for that. There is no answer when the result
is too large. -/
def scaled (magnitude : Nat) (exponent : Int) : Option Nat :=
  if exponent.natAbs ≤ greatestPower then
    let power := magnitudeOfDecimal 1 exponent.natAbs
    let result := if 0 ≤ exponent then product magnitude power else quotient magnitude power
    if result < infinityBits then some result else none
  else if magnitude = 0 then some 0
  else if 0 ≤ exponent then none
  else
    scaled (quotient magnitude (magnitudeOfDecimal 1 greatestPower)) (exponent + greatestPower)
termination_by exponent.natAbs
decreasing_by simp only [greatestPower] at *; omega

/-- The double for `significand * 10 ^ exponent`, where the significand is rounded before it is
scaled. -/
def ofScaled? (negative : Bool) (significand : Nat) (exponent : Int) : Option Double :=
  (scaled (magnitudeOfBinary significand 1 0) exponent).map (ofMagnitude negative)

/-- Decimal digits and the place of the point: `0.d₁d₂… * 10 ^ point`. -/
structure Decimal where
  digits : List Char
  point : Int

/-- The decimals next to `num / den` on the grid of `10 ^ place`, those of them that read back as
`magnitude`, the nearer one first. -/
def candidates (magnitude num den : Nat) (place : Int) : List Nat :=
  let (n, d) :=
    if 0 ≤ place then (num, den * pow10 place.toNat) else (num * pow10 (-place).toNat, den)
  let low := n / d
  let ordered := if 2 * (n % d) > d then [low + 1, low] else [low, low + 1]
  ordered.filter fun m => m ≠ 0 ∧ magnitudeOfDecimal m place = magnitude

/-- Looks for the coarsest grid that holds a decimal reading back, from `place` downwards. -/
def searchShortest (magnitude num den : Nat) : Nat → Int → Nat × Int
  | 0, place => (0, place)
  | fuel + 1, place =>
    match candidates magnitude num den place with
    | m :: _ => (m, place)
    | [] => searchShortest magnitude num den fuel (place - 1)

/-- The shortest decimal that reads back as a finite positive magnitude. -/
def shortest (magnitude : Nat) : Decimal :=
  let (significand, q) := decode magnitude
  let (num, den) :=
    if 0 ≤ q then (significand * pow2 q.toNat, 1) else (significand, pow2 (-q).toNat)
  let size : Int := (Nat.toDigits 10 num).length - (Nat.toDigits 10 den).length
  let (m, place) := searchShortest magnitude num den 24 (size + 1)
  let digits := Nat.toDigits 10 m
  let kept := (digits.reverse.dropWhile (· = '0')).reverse
  ⟨kept, place + digits.length⟩

/-- A finite double as text: positional with at least one digit on each side of the point from
`1e-5` up to `1e16`, otherwise one digit, the rest after a point, and a signed exponent. -/
def text (x : Double) : String :=
  let sign := if x.isNegative then "-" else ""
  if x.magnitude = 0 then sign ++ "0.0"
  else
    let s := shortest x.magnitude
    let count : Int := s.digits.length
    let body : List Char :=
      if -4 ≤ s.point ∧ s.point ≤ 0 then
        '0' :: '.' :: List.replicate (-s.point).toNat '0' ++ s.digits
      else if 0 < s.point ∧ s.point ≤ 16 then
        if count ≤ s.point then
          s.digits ++ List.replicate (s.point - count).toNat '0' ++ ['.', '0']
        else s.digits.take s.point.toNat ++ '.' :: s.digits.drop s.point.toNat
      else
        let exponent := s.point - 1
        let rest := s.digits.drop 1
        s.digits.take 1 ++ (if rest.isEmpty then [] else '.' :: rest) ++
          'e' :: (if exponent < 0 then '-' else '+') :: Nat.toDigits 10 exponent.natAbs
    sign ++ String.ofList body

end Double

end Gatehouse
