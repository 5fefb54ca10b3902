import LocalizedMail.Binary64.Shortest

/-!
# How a number is laid out as text

The digits of a number are `Binary64.shortest`; how they are laid out is a record of decisions.
Four layouts occur: numbers inside a data document, numbers in a settings report, numbers that a
setting turns into text, and numbers that a complaint tells from whole ones.
-/

namespace LocalizedMail.Binary64

/-- The decisions of a number format.  A number whose leading digit stands for `10 ^ k` is written
positionally when `k` is from `positionalFrom` to `positionalTo`, and with an exponent otherwise. -/
structure Layout where
  positionalFrom : Option Int
  positionalTo : Option Int
  /-- whether a whole number gets `.0` -/
  wholeMark : Bool
  /-- whether a positive exponent gets a plus sign -/
  plusSign : Bool
  tie : Tie

/-- Numbers of a data document: positional from `1e-5` up to `1e16`, `.0` kept, `1e+16`. -/
def Layout.document : Layout := ⟨some (-5), some 15, true, true, .even⟩

/-- Numbers of a settings report: positional from `1e-4` up to `1e16`, `.0` kept, `1e16`. -/
def Layout.report : Layout := ⟨some (-4), some 15, true, false, .up⟩

/-- Numbers turned into text: always positional, a whole number without a point. -/
def Layout.plain : Layout := ⟨none, none, false, false, .up⟩

/-- Numbers that must be told from whole ones: always positional, `.0` kept. -/
def Layout.pointed : Layout := ⟨none, none, true, false, .up⟩

namespace Layout

/-- Whether a number with leading power `k` is written positionally. -/
def isPositional (l : Layout) (k : Int) : Bool :=
  (match l.positionalFrom with | some a => decide (a ≤ k) | none => true) &&
  (match l.positionalTo with | some b => decide (k ≤ b) | none => true)

/-- A number of zeros. -/
def zeros (n : Nat) : List Char := List.replicate n '0'

/-- Digits in positional notation, the first one standing for `10 ^ k`. -/
def positional (wholeMark : Bool) (ds : List Char) (k : Int) : List Char :=
  if k < 0 then
    '0' :: '.' :: zeros ((-k).toNat - 1) ++ ds
  else
    let width := k.toNat + 1
    if ds.length ≤ width then
      ds ++ zeros (width - ds.length) ++ (if wholeMark then ['.', '0'] else [])
    else
      ds.take width ++ '.' :: ds.drop width

/-- Digits in exponent notation, the first one standing for `10 ^ k`. -/
def exponential (plusSign : Bool) (ds : List Char) (k : Int) : List Char :=
  let mantissa :=
    match ds with
    | [] => []
    | [d] => [d]
    | d :: rest => d :: '.' :: rest
  let sign := if k < 0 then ['-'] else if plusSign then ['+'] else []
  mantissa ++ 'e' :: sign ++ Nat.toDigits 10 k.natAbs

/-- The digits of a decimal number without zeros at the end. -/
def significant (d : Nat) : List Char :=
  ((Nat.toDigits 10 d).reverse.dropWhile (· == '0')).reverse

/-- The absolute value of a finite number. -/
def magnitude (l : Layout) (m : Nat) (e : Int) : List Char :=
  if m = 0 then '0' :: (if l.wholeMark then ['.', '0'] else [])
  else
    let d := shortest l.tie m e
    let k := d.exponent + decimalWidth d.digits - 1
    let ds := significant d.digits
    if l.isPositional k then positional l.wholeMark ds k else exponential l.plusSign ds k

/-- A number as text. -/
def text (l : Layout) : Binary64 → String
  | .nan => "NaN"
  | .infinite s => if s then "-inf" else "inf"
  | .finite s m e => String.ofList ((if s then ['-'] else []) ++ l.magnitude m e)

end Layout

end LocalizedMail.Binary64
