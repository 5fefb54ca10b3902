/-!
# Double-precision numbers

A number in the binary64 format as exact data: a sign, a whole mantissa and a power of two.  The
arithmetic is the standard's: every operation computes the exact result over whole numbers and
rounds it once, to the nearest number of the format, a tie going to the even mantissa.

  * `ofRatio` rounds a quotient of whole numbers; it is the only place where rounding happens;
  * `mul`, `div`, `ofNat`, `ofDecimal` are exact arithmetic followed by `ofRatio`;
  * `max` and `min` pass over a number that is not a number;
  * `truncate` and `roundHalfAway` go back to whole numbers.

Canonical form: `2^52 ≤ mantissa < 2^53`, or `mantissa < 2^52` and the exponent is the least,
`-1074`.  Every function here returns canonical numbers, so equal numbers of one sign are equal data.
-/

namespace LocalizedMail

/-- A number of the binary64 format; a finite one is `± mantissa · 2 ^ exponent`. -/
inductive Binary64 where
  | nan
  | infinite (negative : Bool)
  | finite (negative : Bool) (mantissa : Nat) (exponent : Int)
  deriving DecidableEq, Repr

namespace Binary64

/-! ## §1. Rounding -/

/-- The least exponent of the format. -/
def leastExponent : Int := -1074

/-- The greatest exponent of the format. -/
def greatestExponent : Int := 971

/-- `n / d` rounded to a whole number, a tie to the even one. -/
def divideToEven (n d : Nat) : Nat :=
  let q := n / d
  let r := n % d
  if 2 * r < d then q
  else if d < 2 * r then q + 1
  else q + q % 2

/-- The fraction `n / d · 2 ^ (-e)`, as numerator and denominator. -/
def scaleDown (n d : Nat) (e : Int) : Nat × Nat :=
  (n * Nat.pow 2 (-e).toNat, d * Nat.pow 2 e.toNat)

/-- The greatest `k` with `2 ^ k ≤ n / d`, for positive `n` and `d`. -/
def floorLog2 (n d : Nat) : Int :=
  let guess : Int := (Nat.log2 n : Int) - Nat.log2 d
  let (a, b) := scaleDown n d guess
  if b ≤ a then guess else guess - 1

/-- A mantissa that may be `2 ^ 53` and its exponent as a number of the format. -/
def pack (negative : Bool) (mantissa : Nat) (exponent : Int) : Binary64 :=
  let (m, e) := if mantissa = Nat.pow 2 53 then (Nat.pow 2 52, exponent + 1) else (mantissa, exponent)
  if greatestExponent < e then .infinite negative else .finite negative m e

/-- The zero of a sign. -/
def zero (negative : Bool) : Binary64 := .finite negative 0 leastExponent

/-- The number nearest to `± n / d`; `d` is positive. -/
def ofRatio (negative : Bool) (n d : Nat) : Binary64 :=
  if n = 0 then zero negative
  else
    let e := max leastExponent (floorLog2 n d - 52)
    let (a, b) := scaleDown n d e
    pack negative (divideToEven a b) e

/-- The number nearest to `± m · 2 ^ e`. -/
def ofScaled (negative : Bool) (m : Nat) (e : Int) : Binary64 :=
  ofRatio negative (m * Nat.pow 2 e.toNat) (Nat.pow 2 (-e).toNat)

/-- The number nearest to a whole number. -/
def ofNat (n : Nat) : Binary64 := ofRatio false n 1

/-- The number nearest to a whole number of either sign. -/
def ofInt (n : Int) : Binary64 := ofRatio (n < 0) n.natAbs 1

/-- How many decimal digits a whole number has. -/
def decimalWidth (n : Nat) : Nat := (Nat.toDigits 10 n).length

/-- The number nearest to `± digits · 10 ^ exponent`.  Exponents far outside the format are answered
without computing the power. -/
def ofDecimal (negative : Bool) (digits : Nat) (exponent : Int) : Binary64 :=
  if digits = 0 then zero negative
  else if 310 < exponent + decimalWidth digits then .infinite negative
  else if exponent + decimalWidth digits < -330 then zero negative
  else ofRatio negative (digits * Nat.pow 10 exponent.toNat) (Nat.pow 10 (-exponent).toNat)

/-! ## §2. Arithmetic -/

/-- Whether the sign bit is set; `nan` counts as positive. -/
def isNegative : Binary64 → Bool
  | .nan => false
  | .infinite s => s
  | .finite s _ _ => s

/-- The same number with the other sign. -/
def neg : Binary64 → Binary64
  | .nan => .nan
  | .infinite s => .infinite !s
  | .finite s m e => .finite (!s) m e

/-- Whether a number is a zero of either sign. -/
def isZero : Binary64 → Bool
  | .finite _ 0 _ => true
  | _ => false

/-- The product, rounded once. -/
def mul : Binary64 → Binary64 → Binary64
  | .nan, _ => .nan
  | _, .nan => .nan
  | .infinite s, y => if y.isZero then .nan else .infinite (s != y.isNegative)
  | x, .infinite t => if x.isZero then .nan else .infinite (x.isNegative != t)
  | .finite s m e, .finite t n f => ofScaled (s != t) (m * n) (e + f)

/-- The quotient, rounded once. -/
def div : Binary64 → Binary64 → Binary64
  | .nan, _ => .nan
  | _, .nan => .nan
  | .infinite _, .infinite _ => .nan
  | .infinite s, .finite t _ _ => .infinite (s != t)
  | .finite s _ _, .infinite t => zero (s != t)
  | .finite s m e, .finite t n f =>
    if n = 0 then (if m = 0 then .nan else .infinite (s != t))
    else ofRatio (s != t) (m * Nat.pow 2 (e - f).toNat) (n * Nat.pow 2 (f - e).toNat)

/-! ## §3. Order -/

/-- The value of a finite number on the grid of the least exponent, `value · 2 ^ 1074`. -/
def onGrid (negative : Bool) (m : Nat) (e : Int) : Int :=
  let v : Int := Int.ofNat (m * Nat.pow 2 (e - leastExponent).toNat)
  if negative then -v else v

/-- Whether the first number is below the second; false when one is not a number. -/
def lt : Binary64 → Binary64 → Bool
  | .nan, _ => false
  | _, .nan => false
  | .infinite s, .infinite t => s && !t
  | .infinite s, .finite _ _ _ => s
  | .finite _ _ _, .infinite t => !t
  | .finite s m e, .finite t n f => onGrid s m e < onGrid t n f

/-- The greater number, or the one that is a number. -/
def max (x y : Binary64) : Binary64 :=
  if x = .nan then y else if y = .nan then x else if x.lt y then y else x

/-- The smaller number, or the one that is a number. -/
def min (x y : Binary64) : Binary64 :=
  if x = .nan then y else if y = .nan then x else if y.lt x then y else x

/-! ## §4. Whole numbers -/

/-- The absolute value without its fraction. -/
def wholePart (m : Nat) (e : Int) : Nat :=
  m * Nat.pow 2 e.toNat / Nat.pow 2 (-e).toNat

/-- The absolute value rounded to a whole number, a tie away from zero. -/
def wholeHalfAway (m : Nat) (e : Int) : Nat :=
  (2 * (m * Nat.pow 2 e.toNat) + Nat.pow 2 (-e).toNat) / (2 * Nat.pow 2 (-e).toNat)

/-- A whole number kept between two bounds. -/
def clamp (low high n : Int) : Int :=
  if n < low then low else if high < n then high else n

/-- The number without its fraction, kept between two bounds; zero when it is not a number. -/
def truncate (low high : Int) : Binary64 → Int
  | .nan => 0
  | .infinite s => if s then low else high
  | .finite s m e => clamp low high (if s then -(wholePart m e : Int) else wholePart m e)

/-- The nearest whole number, a tie away from zero, kept between two bounds; zero when it is not a
number. -/
def roundHalfAway (low high : Int) : Binary64 → Int
  | .nan => 0
  | .infinite s => if s then low else high
  | .finite s m e => clamp low high (if s then -(wholeHalfAway m e : Int) else wholeHalfAway m e)

end Binary64

end LocalizedMail
