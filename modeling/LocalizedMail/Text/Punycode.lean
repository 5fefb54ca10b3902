/-!
# Punycode

A label of a domain that is not ASCII travels as ASCII: first its ASCII characters, then a hyphen,
then the *insertions* that restore the other characters.  They are made in the order of code points
and, for one code point, of places; each is written as its distance from the one before, counted in
code points times places.  A distance is a number of base 36, least digit first, whose digits end at
a threshold that adapts to the distances written so far.

  * `encodeDistance`: one distance, for a bias;
  * `adapt`: the bias after a distance;
  * `punycode`: a whole label.
-/

namespace LocalizedMail.Text.Punycode

/-! ## §1. Distances -/

/-- A digit of base 36: the letters stand for the first twenty-six values. -/
def digit (n : Nat) : Char :=
  if n < 26 then Char.ofNat ('a'.toNat + n) else Char.ofNat ('0'.toNat + (n - 26))

/-- Below this value a digit is the last one; `place` is 36 for the first digit, 72 for the next. -/
def threshold (bias place : Nat) : Nat :=
  min 26 (max 1 (place - bias))

/-- The digits of a distance from a place on. -/
def encodeDistance (bias place distance : Nat) : List Char :=
  let t := threshold bias place
  if distance < t then [digit distance]
  else
    digit (t + (distance - t) % (36 - t)) ::
      encodeDistance bias (place + 36) ((distance - t) / (36 - t))
termination_by distance
decreasing_by
  have h1 : 1 ≤ threshold bias place := by unfold threshold; omega
  exact Nat.lt_of_le_of_lt (Nat.div_le_self _ _) (by omega)

/-- How often a number is divided by 35 until it is at most 455, and what is left. -/
def damp (n : Nat) : Nat × Nat :=
  if 455 < n then ((damp (n / 35)).1 + 1, (damp (n / 35)).2) else (0, n)
termination_by n

/-- The bias after a distance, with so many characters in place. -/
def adapt (distance placed : Nat) (isFirst : Bool) : Nat :=
  let scaled := if isFirst then distance / 700 else distance / 2
  let (rounds, left) := damp (scaled + scaled / placed)
  36 * rounds + 36 * left / (left + 38)

/-! ## §2. Insertions -/

/-- What is known between two insertions. -/
structure Progress where
  /-- the distance from the last insertion -/
  distance : Nat
  bias : Nat
  /-- how many characters are in place -/
  placed : Nat
  isFirst : Bool

/-- Inserts one code point wherever it stands in a label; what is written for that. -/
def insertEach (code : Nat) : List Nat → Progress → List Char × Progress
  | [], p => ([], p)
  | c :: cs, p =>
    if c = code then
      let bias := adapt p.distance (p.placed + 1) p.isFirst
      let (later, q) := insertEach code cs ⟨0, bias, p.placed + 1, false⟩
      (encodeDistance p.bias 36 p.distance ++ later, q)
    else
      insertEach code cs (if c < code then { p with distance := p.distance + 1 } else p)

/-- Inserts code points, given in ascending order; the first may be `next` or a later one. -/
def insertAll (label : List Nat) : List Nat → Nat → Progress → List Char
  | [], _, _ => []
  | code :: codes, next, p =>
    let p := { p with distance := p.distance + (code - next) * (p.placed + 1) }
    let (written, p) := insertEach code label p
    written ++ insertAll label codes (code + 1) { p with distance := p.distance + 1 }

end Punycode

/-- The ASCII form of a label. -/
def punycode (label : List Char) : List Char :=
  let ascii := label.filter (·.toNat < 128)
  let codes := label.map Char.toNat
  let others := (codes.filter (128 ≤ ·)).eraseDups.mergeSort
  ascii ++ (if ascii.isEmpty then [] else ['-']) ++
    Punycode.insertAll codes others 128 ⟨0, 72, ascii.length, true⟩

end LocalizedMail.Text
