import LocalizedMail.Binary64.Basic

/-!
# Numbers in text

Readers for whole numbers and for binary64 numbers that take the whole text or nothing: no blanks,
an optional sign, digits of ASCII.  A binary64 number may be `inf`, `infinity` or `nan` in letters
of either case; otherwise it has digits on at least one side of its optional point and an optional
exponent.
-/

namespace LocalizedMail.Text

/-- The value of a run of decimal digits. -/
def digitsValue (ds : List Char) : Nat :=
  ds.foldl (fun n c => n * 10 + (c.toNat - '0'.toNat)) 0

/-- The number that a text of nothing but digits spells. -/
def naturalOf? (cs : List Char) : Option Nat :=
  if !cs.isEmpty && cs.all Char.isDigit then some (digitsValue cs) else none

/-- Whether a text begins with a minus sign, and the text without its sign. -/
def splitSign : List Char → Bool × List Char
  | '-' :: cs => (true, cs)
  | '+' :: cs => (false, cs)
  | cs => (false, cs)

/-- The whole number below `bound` that a text spells; a minus sign is no part of it. -/
def unsigned? (bound : Nat) (s : String) : Option Nat :=
  match splitSign s.toList with
  | (true, _) => none
  | (false, cs) => (naturalOf? cs).filter (· < bound)

/-- The whole number of 64 bits, with a sign, that a text spells. -/
def signed? (s : String) : Option Int :=
  match splitSign s.toList with
  | (true, cs) => ((naturalOf? cs).filter (· ≤ Nat.pow 2 63)).map fun n => -(n : Int)
  | (false, cs) => ((naturalOf? cs).filter (· < Nat.pow 2 63)).map Int.ofNat

/-- The whole number that an exponent spells, from its `e` on; no exponent counts as zero. -/
def exponentOf? : List Char → Option Int
  | [] => some 0
  | c :: cs =>
    if c = 'e' || c = 'E' then
      let (negative, ds) := splitSign cs
      (naturalOf? ds).map fun n => if negative then -(n : Int) else n
    else none

/-- The number that a text without a sign spells. -/
def magnitudeOf? (negative : Bool) (cs : List Char) : Option Binary64 :=
  let name := cs.map Char.toLower
  if name = "inf".toList || name = "infinity".toList then some (.infinite negative)
  else if name = "nan".toList then some .nan
  else
    let whole := cs.takeWhile Char.isDigit
    let rest := cs.dropWhile Char.isDigit
    let (fraction, rest) :=
      match rest with
      | '.' :: rest => (rest.takeWhile Char.isDigit, rest.dropWhile Char.isDigit)
      | rest => ([], rest)
    if whole.isEmpty && fraction.isEmpty then none
    else
      (exponentOf? rest).map fun e =>
        .ofDecimal negative (digitsValue (whole ++ fraction)) (e - fraction.length)

/-- The binary64 number nearest to what a text spells. -/
def binary64? (s : String) : Option Binary64 :=
  let (negative, cs) := splitSign s.toList
  magnitudeOf? negative cs

end LocalizedMail.Text
