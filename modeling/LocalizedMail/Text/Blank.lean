/-!
# Blank characters

Template languages, words of a subject line and environment lines are all cut at *blank*
characters.  A character is blank when it has the Unicode property `White_Space`; there are
twenty-five of them, six of which are ASCII.  Zero-width characters (`U+200B`, `U+FEFF`) are not
blank.

  * `isBlank`: the property itself;
  * `trim`: a text without the blanks at its two ends;
  * `words`: the maximal runs of characters between separators, for any choice of separator;
  * `cut`: the parts of a text between separators, empty ones included.
-/

namespace LocalizedMail.Text

/-! ## §1. The property -/

/-- The characters with the Unicode property `White_Space`. -/
def isBlank (c : Char) : Bool :=
  let n := c.toNat
  (0x9 ≤ n && n ≤ 0xD) || n == 0x20 || n == 0x85 || n == 0xA0 || n == 0x1680 ||
    (0x2000 ≤ n && n ≤ 0x200A) || n == 0x2028 || n == 0x2029 || n == 0x202F ||
    n == 0x205F || n == 0x3000

/-! ## §2. Trimming -/

/-- A list of characters without the blanks at its end. -/
def trimEnd (cs : List Char) : List Char :=
  (cs.reverse.dropWhile isBlank).reverse

/-- A list of characters without the blanks at its two ends. -/
def trimChars (cs : List Char) : List Char :=
  trimEnd (cs.dropWhile isBlank)

/-- A text without the blanks at its two ends. -/
def trim (s : String) : String :=
  String.ofList (trimChars s.toList)

/-- Whether a text holds nothing but blanks. -/
def isAllBlank (s : String) : Bool :=
  s.toList.all isBlank

/-! ## §3. Words -/

/-- The maximal non-empty runs of characters that are no separators, in order. -/
def words (isSeparator : Char → Bool) : List Char → List (List Char)
  | [] => []
  | c :: cs =>
    if isSeparator c then words isSeparator cs
    else
      match cs with
      | [] => [[c]]
      | d :: ds =>
        if isSeparator d then [c] :: words isSeparator (d :: ds)
        else
          match words isSeparator (d :: ds) with
          | [] => [[c]]
          | w :: ws => (c :: w) :: ws

/-- The parts of a text before, between and after separators. -/
def cut (separator : Char) (s : String) : List String :=
  (s.toList.splitOn separator).map String.ofList

/-! ## §4. A small law -/

/-- Passing over characters leaves no more than there were. -/
theorem length_skip_le (p : Char → Bool) (cs : List Char) :
    (cs.dropWhile p).length ≤ cs.length :=
  (List.dropWhile_suffix p).length_le

end LocalizedMail.Text
