import LocalizedMail.Binary64.Basic

/-!
# The fewest decimal digits that read back

A finite number is written with the fewest decimal digits that still round to it.  The reals that
round to `m · 2 ^ e` form an interval around it, whose ends belong to it exactly when `m` is even.
For one digit, two digits and so on, the two points of the decimal grid next to the number are
tested: the first grid with a point inside the interval wins, and of two such points the nearer.
Both points can be equally near; which one is taken is left to the caller.

The search stops at seventeen digits, which always suffice.
-/

namespace LocalizedMail.Binary64

/-! ## §1. Decimal numbers -/

/-- The decimal number `digits · 10 ^ exponent`. -/
structure Decimal where
  digits : Nat
  exponent : Int
  deriving DecidableEq, Repr

/-- Which of two equally near decimal numbers is taken. -/
inductive Tie where
  | up
  | even
  deriving DecidableEq, Repr

/-! ## §2. The interval of a number -/

/-- The reals that round to a number, between `low · 2 ^ scale` and `high · 2 ^ scale`. -/
structure Interval where
  low : Nat
  high : Nat
  scale : Int
  closed : Bool

/-- The interval of `m · 2 ^ e`.  Below a power of two the gap is half as wide. -/
def Interval.around (m : Nat) (e : Int) : Interval :=
  { low := if m = Nat.pow 2 52 ∧ e ≠ leastExponent then 4 * m - 1 else 4 * m - 2
    high := 4 * m + 2
    scale := e - 2
    closed := m % 2 = 0 }

/-- Compares `d · 10 ^ p` with `b · 2 ^ s`. -/
def compareScaled (d : Nat) (p : Int) (b : Nat) (s : Int) : Ordering :=
  compare (d * Nat.pow 10 p.toNat * Nat.pow 2 (-s).toNat)
    (b * Nat.pow 2 s.toNat * Nat.pow 10 (-p).toNat)

/-- Whether a decimal number lies in an interval. -/
def Interval.holds (i : Interval) (d : Decimal) : Bool :=
  match compareScaled d.digits d.exponent i.low i.scale,
        compareScaled d.digits d.exponent i.high i.scale with
  | .gt, .lt => true
  | .eq, _ => i.closed
  | _, .eq => i.closed
  | _, _ => false

/-! ## §3. The search -/

/-- The greatest `k` with `10 ^ k ≤ m · 2 ^ e`, for positive `m`. -/
def floorLog10 (m : Nat) (e : Int) : Int :=
  let whole := wholePart m e
  if whole ≠ 0 then (decimalWidth whole : Int) - 1
  else
    -- the number is below one: scale it up to a whole number with at least one digit
    let scaled := m * Nat.pow 10 340 / Nat.pow 2 (-e).toNat
    (decimalWidth scaled : Int) - 1 - 340

/-- The two grid points next to `m · 2 ^ e` on the grid of spacing `10 ^ p`, and how twice the
distance to the lower one compares with the spacing. -/
def neighbours (m : Nat) (e p : Int) : Nat × Ordering :=
  let n := m * Nat.pow 2 e.toNat * Nat.pow 10 (-p).toNat
  let d := Nat.pow 2 (-e).toNat * Nat.pow 10 p.toNat
  (n / d, compare (2 * (n % d)) d)

/-- The point of one decimal grid that is nearest to `m · 2 ^ e` among those in the interval. -/
def onDecimalGrid (tie : Tie) (i : Interval) (m : Nat) (e p : Int) : Option Decimal :=
  let (q, half) := neighbours m e p
  let below : Decimal := ⟨q, p⟩
  let above : Decimal := ⟨q + 1, p⟩
  match i.holds below, i.holds above with
  | true, false => some below
  | false, true => some above
  | false, false => none
  | true, true =>
    match half with
    | .lt => some below
    | .gt => some above
    | .eq =>
      match tie with
      | .up => some above
      | .even => if q % 2 = 0 then some below else some above

/-- The first grid with a point in the interval, from the coarsest on. -/
def searchGrids (tie : Tie) (i : Interval) (m : Nat) (e : Int) : Nat → Int → Decimal
  | 0, p => ⟨(neighbours m e p).1, p⟩
  | fuel + 1, p =>
    match onDecimalGrid tie i m e p with
    | some d => d
    | none => searchGrids tie i m e fuel (p - 1)

/-- The fewest digits that read back as `m · 2 ^ e`, for positive `m`. -/
def shortest (tie : Tie) (m : Nat) (e : Int) : Decimal :=
  searchGrids tie (Interval.around m e) m e 17 (floorLog10 m e)

end LocalizedMail.Binary64
