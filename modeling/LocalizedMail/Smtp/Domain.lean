import LocalizedMail.Text.Alphanumeric
import LocalizedMail.Text.LowerCase
import LocalizedMail.Text.Mark
import LocalizedMail.Text.Punycode
import LocalizedMail.Text.Unprintable

/-!
# Domains

The domain of an address is a sequence of labels with dots between them.  A label begins and ends
with a letter or a digit, has no more than 63 bytes and is made of address characters; a domain has
no more than 254 bytes.  A domain that does not fit as it stands may still fit in its ASCII form:

  * the ideographic and wide dots become dots, invisible characters go away, letters go to lower
    case;
  * a label that is still not ASCII is written in Punycode behind the sign `xn--`, unless it begins
    with a mark;
  * spaces, controls, unassigned characters, and those that stand for ASCII punctuation that no
    address has, cannot be written at all.
-/

namespace LocalizedMail.Smtp

/-! ## §1. Labels -/

/-- Whether a character may stand in an address: letters and digits of any script, and some ASCII
punctuation. -/
def isAddressChar (c : Char) : Bool :=
  Text.isAlphanumeric c || "!#$%&'*+-/=?^_`\x7b|\x7d~".toList.contains c

/-- The parts of a text between dots. -/
def labels (cs : List Char) : List (List Char) := cs.splitOn '.'

/-- The length of a text in bytes. -/
def byteLength (cs : List Char) : Nat := (cs.map Char.utf8Size).foldr (· + ·) 0

/-- Whether a label of a domain is acceptable as it stands. -/
def isLabel (cs : List Char) : Bool :=
  cs.head?.any Text.isAlphanumeric && cs.getLast?.any Text.isAlphanumeric &&
    byteLength cs ≤ 63 && cs.all isAddressChar

/-- Whether a domain is acceptable as it stands. -/
def isPlainDomain (cs : List Char) : Bool := byteLength cs ≤ 254 && (labels cs).all isLabel

/-! ## §2. The ASCII form -/

/-- The maximal ranges of characters that a domain is read without. -/
def ignoredRanges : List Text.CharRange := [
  (0xAD, 0xAD), (0x34F, 0x34F), (0x115F, 0x1160), (0x17B4, 0x17B5), (0x180B, 0x180F), (0x200B, 0x200B),
  (0x2060, 0x2064), (0x206A, 0x206F), (0x3164, 0x3164), (0xFE00, 0xFE0F), (0xFEFF, 0xFEFF), (0xFFA0, 0xFFA0),
  (0x1BCA0, 0x1BCA3), (0x1D173, 0x1D17A), (0xE0100, 0xE01EF)
]

/-- Characters with a shape of their own that stand for ASCII punctuation, or describe others. -/
def refusedRanges : List Text.CharRange := [
  (0xA8, 0xA8), (0xAF, 0xAF), (0xB4, 0xB4), (0xB8, 0xB8), (0x2D8, 0x2DD), (0x37A, 0x37A),
  (0x37E, 0x37E), (0x384, 0x385), (0x1FBD, 0x1FBD), (0x1FBF, 0x1FC1), (0x1FCD, 0x1FCF), (0x1FDD, 0x1FDF),
  (0x1FED, 0x1FEE), (0x1FFD, 0x1FFE), (0x2017, 0x2017), (0x2024, 0x2026), (0x203E, 0x203E), (0x207D, 0x207E),
  (0x208D, 0x208E), (0x2474, 0x24B5), (0x2A74, 0x2A74), (0x2FF0, 0x2FFF), (0x309B, 0x309C), (0x31EF, 0x31EF),
  (0x3200, 0x321E), (0x3220, 0x3243), (0x33C2, 0x33C2), (0x33C7, 0x33C7), (0x33D8, 0x33D8), (0xFC5E, 0xFC63),
  (0xFDFA, 0xFDFB), (0xFE10, 0xFE10), (0xFE12, 0xFE14), (0xFE19, 0xFE19), (0xFE30, 0xFE30), (0xFE35, 0xFE36),
  (0xFE47, 0xFE4C), (0xFE50, 0xFE50), (0xFE52, 0xFE52), (0xFE54, 0xFE55), (0xFE59, 0xFE5A), (0xFE64, 0xFE65),
  (0xFE68, 0xFE68), (0xFE6B, 0xFE6B), (0xFE70, 0xFE70), (0xFE72, 0xFE72), (0xFE74, 0xFE74), (0xFE76, 0xFE76),
  (0xFE78, 0xFE78), (0xFE7A, 0xFE7A), (0xFE7C, 0xFE7C), (0xFE7E, 0xFE7E), (0xFF02, 0xFF02), (0xFF08, 0xFF09),
  (0xFF0C, 0xFF0C), (0xFF1A, 0xFF1C), (0xFF1E, 0xFF1E), (0xFF20, 0xFF20), (0xFF3B, 0xFF3D), (0xFFE3, 0xFFE3),
  (0xFFFC, 0xFFFD), (0x1F100, 0x1F10A), (0x1F110, 0x1F129)
]

/-- What a domain is read as having in place of a character, unless it cannot be written. -/
def domainChar? (c : Char) : Option (List Char) :=
  if c.toNat < 128 then some (Text.lowerCase c)
  else if c = '\u3002' || c = '\uFF0E' || c = '\uFF61' then some ['.']
  else if Text.CharRange.covers ignoredRanges c then some []
  else if Text.isMark c then some [c]
  else if Text.isUnprintable c || Text.CharRange.covers refusedRanges c then none
  else some (Text.lowerCase c)

/-- The ASCII form of a label, unless it has none. -/
def asciiLabel? (cs : List Char) : Option (List Char) :=
  if cs.all (·.toNat < 128) then some cs
  else if cs.head?.any Text.isMark then none
  else some (['x', 'n', '-', '-'] ++ Text.punycode cs)

/-- The ASCII form of a domain, unless it has none. -/
def asciiDomain? (cs : List Char) : Option (List Char) := do
  let read ← cs.mapM domainChar?
  let written ← (labels read.flatten).mapM asciiLabel?
  return List.intercalate ['.'] written

/-- Whether a domain is acceptable, as it stands or in its ASCII form. -/
def isDomain (cs : List Char) : Bool :=
  isPlainDomain cs || (asciiDomain? cs).any isPlainDomain

end LocalizedMail.Smtp
