/-!
# Ranges of characters

Properties and case mappings of Unicode are tables over code points.  Two shapes of entry are
enough: a range of code points that share a property, and a run of equally spaced code points that
are all moved by the same offset.
-/

namespace LocalizedMail.Text

/-- A range of code points, both ends included. -/
abbrev CharRange := Nat × Nat

namespace CharRange

/-- Whether a range holds a character. -/
def contains (r : CharRange) (c : Char) : Bool :=
  r.1 ≤ c.toNat && c.toNat ≤ r.2

/-- Whether one of the ranges holds a character. -/
def covers (rs : List CharRange) (c : Char) : Bool :=
  rs.any (·.contains c)

end CharRange

/-- The code points `first`, `first + step`, …, `last`, each moved by `offset`. -/
structure CaseRun where
  first : Nat
  last : Nat
  step : Nat
  offset : Int

namespace CaseRun

/-- Whether a run moves a character. -/
def moves (r : CaseRun) (c : Char) : Bool :=
  r.first ≤ c.toNat && c.toNat ≤ r.last && (c.toNat - r.first) % r.step == 0

/-- The character that the first fitting run gives, or the character itself. -/
def apply (rs : List CaseRun) (c : Char) : Char :=
  match rs.find? (·.moves c) with
  | some r => Char.ofNat (c.toNat + r.offset).toNat
  | none => c

end CaseRun

end LocalizedMail.Text
