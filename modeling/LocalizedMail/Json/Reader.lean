import LocalizedMail.Json.Fault
import LocalizedMail.Json.Value
import LocalizedMail.Text.Quoted

/-!
# Reading data documents

The reader goes through a document once, from left to right, and stops at the first fault.  It is
built from steps that a caller may combine in its own way: `value` reads a whole value as `Json`,
while a caller that knows which shape it wants asks for names and items one by one and refuses the
first one that does not fit, even if the rest of the document is malformed.

Numbers: a whole number that fits 64 bits stays whole; any other is the first nineteen or twenty
significant digits, rounded, times or divided by a power of ten, rounded again.  Containers may be
nested 127 deep.
-/

namespace LocalizedMail.Json

/-! ## §1. The cursor -/

/-- What is left of a document, and how much of the current line has been seen, in bytes. -/
structure Cursor where
  rest : List Char
  line : Nat
  column : Nat

/-- The cursor at the start of a document. -/
def Cursor.start (document : String) : Cursor := ⟨document.toList, 1, 0⟩

/-- The cursor after a character. -/
def Cursor.pass (k : Cursor) (c : Char) (rest : List Char) : Cursor :=
  if c = '\n' then ⟨rest, k.line + 1, 0⟩ else ⟨rest, k.line, k.column + c.utf8Size⟩

/-- A step that reads a part of a document. -/
abbrev Reader := StateT Cursor (Except Fault)

/-- Stops with the place already passed. -/
def failHere {α : Type} (cause : Cause) : Reader α := fun k =>
  .error ⟨cause, k.line, k.column⟩

/-- Stops with the place of the next byte. -/
def failNext {α : Type} (cause : Cause) : Reader α := fun k =>
  match k.rest with
  | [] => .error ⟨cause, k.line, k.column⟩
  | '\n' :: _ => .error ⟨cause, k.line + 1, 0⟩
  | _ :: _ => .error ⟨cause, k.line, k.column + 1⟩

/-- The next character, which stays where it is. -/
def peek? : Reader (Option Char) := fun k => .ok (k.rest.head?, k)

/-- The next character, passed over. -/
def take? : Reader (Option Char) := fun k =>
  match k.rest with
  | [] => .ok (none, k)
  | c :: rest => .ok (some c, k.pass c rest)

/-- Passes over the next character. -/
def drop : Reader Unit := do
  let _ ← take?

/-- How many characters are left. -/
def remaining : Reader Nat := fun k => .ok (k.rest.length, k)

/-- Whether a character may stand between the parts of a document. -/
def isGap (c : Char) : Bool := c == ' ' || c == '\n' || c == '\t' || c == '\r'

/-- A cursor after the gap that it stands before. -/
def Cursor.skipGap (k : Cursor) : Cursor :=
  go k.line k.column k.rest
where
  go (line column : Nat) : List Char → Cursor
    | [] => ⟨[], line, column⟩
    | c :: cs =>
      if c = '\n' then go (line + 1) 0 cs
      else if isGap c then go line (column + 1) cs
      else ⟨c :: cs, line, column⟩

/-- The next character after a gap, which stays where it is. -/
def peekPastGap? : Reader (Option Char) := fun k =>
  let k := k.skipGap
  .ok (k.rest.head?, k)

/-! ## §2. Literals -/

/-- Passes over the rest of a literal. -/
def literalRest : List Char → Reader Unit
  | [] => pure ()
  | c :: cs => do
    match ← peek? with
    | none => failHere .endInValue
    | some d => if d = c then drop; literalRest cs else failNext .expectedLiteral

/-! ## §3. Texts -/

/-- The value of a hexadecimal digit. -/
def hexValue? (c : Char) : Option Nat :=
  if '0' ≤ c ∧ c ≤ '9' then some (c.toNat - '0'.toNat)
  else if 'a' ≤ c ∧ c ≤ 'f' then some (c.toNat - 'a'.toNat + 10)
  else if 'A' ≤ c ∧ c ≤ 'F' then some (c.toNat - 'A'.toNat + 10)
  else none

/-- The cursor after so many bytes, which may end inside a character. -/
def Cursor.passBytes (n : Nat) (k : Cursor) : Cursor :=
  go n k.line k.column k.rest
where
  go (n line column : Nat) : List Char → Cursor
    | [] => ⟨[], line, column⟩
    | c :: cs =>
      if n < c.utf8Size then ⟨c :: cs, line, column + n⟩
      else if c = '\n' then go (n - 1) (line + 1) 0 cs
      else go (n - c.utf8Size) line (column + c.utf8Size) cs

/-- Four hexadecimal digits.  Four bytes that are none are refused; a document that has less than
four bytes left has come to its end. -/
def hexFour : Reader Nat := fun k =>
  if (k.rest.map Char.utf8Size).foldr (· + ·) 0 < 4 then failHere .endInText (k.passBytes 4)
  else
    match (k.rest.take 4).mapM hexValue? with
    | some ds => .ok (ds.foldl (fun n d => n * 16 + d) 0, k.passBytes 4)
    | none => failHere .invalidEscape (k.passBytes 4)

/-- Passes over one character of the start of the second half of a pair. -/
def surrogateMark (c : Char) : Reader Unit := do
  match ← peek? with
  | none => failHere .endInText
  | some d => if d = c then drop else failNext .unfinishedSurrogate

/-- The character of an escape by number, one number or a pair of surrogates. -/
def numberedEscape : Reader Char := do
  let n ← hexFour
  if 0xDC00 ≤ n ∧ n ≤ 0xDFFF then failHere .loneSurrogate
  else if n < 0xD800 ∨ 0xDBFF < n then pure (Char.ofNat n)
  else
    surrogateMark '\\'
    surrogateMark 'u'
    let m ← hexFour
    if m < 0xDC00 ∨ 0xDFFF < m then failHere .loneSurrogate
    else pure (Char.ofNat ((n - 0xD800) * 0x400 + (m - 0xDC00) + 0x10000))

/-- What a letter or a mark after a backslash stands for. -/
def shortEscape? : Char → Option Char
  | '"' => some '"'
  | '\\' => some '\\'
  | '/' => some '/'
  | 'b' => some '\x08'
  | 'f' => some '\x0c'
  | 'n' => some '\n'
  | 'r' => some '\r'
  | 't' => some '\t'
  | _ => none

/-- The character of an escape whose backslash has been passed.  With `lenient`, the number of an
escape need not be a character. -/
def escapedChar (lenient : Bool) : Reader Char := do
  match ← peek? with
  | none => failHere .endInText
  | some c =>
    match shortEscape? c with
    | some d => drop; pure d
    | none =>
      if c = 'u' then
        drop
        if lenient then Char.ofNat <$> hexFour else numberedEscape
      else failNext .invalidEscape

/-- The rest of a text, up to its closing quote mark; `fuel` bounds the number of characters. -/
def textRest (lenient : Bool) : Nat → List Char → Reader String
  | 0, _ => failHere .endInText
  | fuel + 1, acc => do
    match ← take? with
    | none => failHere .endInText
    | some '"' => pure (String.ofList acc.reverse)
    | some '\\' =>
      let c ← escapedChar lenient
      textRest lenient fuel (c :: acc)
    | some c =>
      if c.toNat < 0x20 then failHere .controlCharacter
      else textRest lenient fuel (c :: acc)

/-- A text whose opening quote mark is next. -/
def textBody (lenient : Bool) : Reader String := do
  drop
  textRest lenient ((← remaining) + 1) []

/-! ## §4. Numbers -/

/-- Significant digits that fit 64 bits, and a power of ten. -/
structure Significand where
  digits : Nat
  exponent : Int
  /-- whether a digit has been left out -/
  cut : Bool

/-- One more digit before the point: once the digits do not fit, each counts as a power of ten. -/
def Significand.pushWhole (s : Significand) (d : Nat) : Significand :=
  if !s.cut && s.digits * 10 + d < Nat.pow 2 64 then ⟨s.digits * 10 + d, s.exponent, false⟩
  else ⟨s.digits, s.exponent + 1, true⟩

/-- One more digit after the point: once the digits do not fit, the rest is dropped. -/
def Significand.pushFraction (s : Significand) (d : Nat) : Significand :=
  if !s.cut && s.digits * 10 + d < Nat.pow 2 64 then ⟨s.digits * 10 + d, s.exponent - 1, false⟩
  else ⟨s.digits, s.exponent, true⟩

/-- The power of ten `10 ^ n`, rounded, for `n` up to 308. -/
def powerOfTen (n : Nat) : Binary64 := .ofDecimal false 1 n

/-- A number divided by `10 ^ n` in steps of at most `10 ^ 308`. -/
def divideByPower : Nat → Binary64 → Nat → Binary64
  | 0, x, _ => x
  | fuel + 1, x, n =>
    if n ≤ 308 then x.div (powerOfTen n)
    else if x.isZero then x
    else divideByPower fuel (x.div (powerOfTen 308)) (n - 308)

/-- The number of a significand, or nothing when it is out of range. -/
def Significand.toBinary64? (s : Significand) : Option Binary64 :=
  let x := Binary64.ofNat s.digits
  if s.exponent < 0 then some (divideByPower 4 x s.exponent.natAbs)
  else if s.exponent ≤ 308 then
    match x.mul (powerOfTen s.exponent.natAbs) with
    | .infinite _ => none
    | y => some y
  else if x.isZero then some x
  else none

/-- The digits that are next. -/
def digitRun : Reader (List Nat) := fun k =>
  let ds := k.rest.takeWhile Char.isDigit
  .ok (ds.map (fun c => c.toNat - '0'.toNat),
    ⟨k.rest.drop ds.length, k.line, k.column + ds.length⟩)

/-- What is wrong with a number at the end of the document.  With `lenient`, it is no number. -/
def cutShort (lenient : Bool) : Cause := if lenient then .invalidNumber else .endInValue

/-- The end of a number that is no whole number. -/
def finishFloat (lenient negative : Bool) (s : Significand) : Reader Json := do
  match s.toBinary64? with
  | some x => pure (.float (if negative then x.neg else x))
  | none => if lenient then pure .null else failHere .numberOutOfRange

/-- Larger than every exponent that is read to its end. -/
def exponentBound : Nat := Nat.pow 2 31

/-- The value of the digits that are next, after digits of value `n`.  The first digit that takes
the value to the bound is the last one that is read. -/
def exponentDigits (n : Nat) : Reader Nat := fun k =>
  let r := go n 0 k.rest
  .ok (r.1, ⟨k.rest.drop r.2, k.line, k.column + r.2⟩)
where
  go (n used : Nat) : List Char → Nat × Nat
    | [] => (n, used)
    | c :: cs =>
      if n < exponentBound ∧ c.isDigit then go (n * 10 + (c.toNat - '0'.toNat)) (used + 1) cs
      else (n, used)

/-- The exponent of a number, whose `e` is next, and the end of the number.  An exponent that
reaches the bound makes a number other than zero too large at once, or zero if it is negative. -/
def exponentPart (lenient negative : Bool) (s : Significand) : Reader Json := do
  drop
  let down ←
    match ← peek? with
    | some '+' => do drop; pure false
    | some '-' => do drop; pure true
    | _ => pure false
  match ← peek? with
  | none => failHere (cutShort lenient)
  | some c =>
    if c.isDigit then
      let n ← exponentDigits 0
      if exponentBound ≤ n ∧ !lenient ∧ !down ∧ s.digits ≠ 0 then failHere .numberOutOfRange
      else
        let _ ← digitRun
        let e : Int := if down then -n else n
        finishFloat lenient negative ⟨s.digits, s.exponent + e, s.cut⟩
    else failNext .invalidNumber

/-- The fraction of a number, whose point is next, and the end of the number. -/
def fractionPart (lenient negative : Bool) (s : Significand) : Reader Json := do
  drop
  let ds ← digitRun
  if ds.isEmpty then
    match ← peek? with
    | some _ => failNext .invalidNumber
    | none => failNext (cutShort lenient)
  else
    let s := ds.foldl Significand.pushFraction ⟨s.digits, s.exponent, false⟩
    match ← peek? with
    | some 'e' | some 'E' => exponentPart lenient negative s
    | _ => finishFloat lenient negative s

/-- A whole number, or the nearest binary64 number when 64 bits do not hold it; `-0` is a binary64
number too. -/
def finishWhole (lenient negative : Bool) (s : Significand) : Reader Json :=
  if s.cut then finishFloat lenient negative s
  else if !negative then pure (.whole s.digits)
  else if s.digits ≠ 0 ∧ s.digits ≤ Nat.pow 2 63 then pure (.whole (-(s.digits : Int)))
  else pure (.float (Binary64.ofNat s.digits).neg)

/-- A number that is next. -/
def number (lenient : Bool) : Reader Json := do
  let negative ←
    match ← peek? with
    | some '-' => do drop; pure true
    | _ => pure false
  match ← peek? with
  | none => failHere (cutShort lenient)
  | some c =>
    if !c.isDigit then failNext .invalidNumber
    else
      drop
      let more ← if c = '0' then pure [] else digitRun
      let s := ((c.toNat - '0'.toNat) :: more).foldl Significand.pushWhole ⟨0, 0, false⟩
      match ← peek? with
      | some '.' => fractionPart lenient negative s
      | some 'e' | some 'E' => exponentPart lenient negative s
      | some d => if c = '0' ∧ d.isDigit then failNext .invalidNumber
                  else finishWhole lenient negative s
      | none => finishWhole lenient negative s

/-! ## §5. Containers, step by step -/

/-- Whether a list goes on with another item. -/
def hasItem (first : Bool) : Reader Bool := do
  match ← peekPastGap? with
  | none => failNext .endInList
  | some ']' => pure false
  | some ',' =>
    if first then pure true
    else
      drop
      match ← peekPastGap? with
      | none => failNext .endInValue
      | some ']' => failNext .trailingComma
      | some _ => pure true
  | some _ => if first then pure true else failNext .expectedCommaOrBracket

/-- The end of a list. -/
def endList : Reader Unit := do
  match ← peekPastGap? with
  | none => failNext .endInList
  | some ']' => drop
  | some ',' =>
    drop
    match ← peekPastGap? with
    | some ']' => failNext .trailingComma
    | _ => failNext .trailingCharacters
  | some _ => failNext .trailingCharacters

/-- The name of the next field of an object, or nothing at the end. -/
def fieldName? (lenient first : Bool) : Reader (Option String) := do
  match ← peekPastGap? with
  | none => failNext .endInObject
  | some '\x7d' => pure none
  | some c =>
    if first then
      if c = '"' then some <$> textBody lenient else failNext .nameMustBeText
    else if c = ',' then
      drop
      match ← peekPastGap? with
      | some '"' => some <$> textBody lenient
      | some '\x7d' => failNext .trailingComma
      | some _ => failNext .nameMustBeText
      | none => failNext .endInValue
    else failNext .expectedCommaOrBrace

/-- The colon between a name and its value. -/
def colon : Reader Unit := do
  match ← peekPastGap? with
  | none => failNext .endInObject
  | some ':' => drop
  | some _ => failNext .expectedColon

/-- The end of an object. -/
def endObject : Reader Unit := do
  match ← peekPastGap? with
  | none => failNext .endInObject
  | some '\x7d' => drop
  | some ',' => failNext .trailingComma
  | some _ => failNext .trailingCharacters

/-- The items of a list whose opening bracket has been passed; `fuel` bounds their number. -/
def items {α : Type} (item : Reader α) : Nat → Bool → Reader (List α)
  | 0, _ => failNext .endInList
  | fuel + 1, first => do
    if ← hasItem first then
      let x ← item
      let xs ← items item fuel false
      pure (x :: xs)
    else
      endList
      pure []

/-- The fields of an object whose opening brace has been passed; `fuel` bounds their number. -/
def fields {α : Type} (lenient : Bool) (item : Reader α) :
    Nat → Bool → Reader (List (String × α))
  | 0, _ => failNext .endInObject
  | fuel + 1, first => do
    match ← fieldName? lenient first with
    | some name =>
      colon
      let x ← item
      let xs ← fields lenient item fuel false
      pure ((name, x) :: xs)
    | none =>
      endObject
      pure []

/-! ## §6. Values and documents -/

/-- How deep containers may be nested. -/
def depthLimit : Nat := 127

/-- A value, whose containers may be nested `depth` deep. -/
def value (lenient : Bool) (depth : Nat) : Reader Json := do
  match ← peekPastGap? with
  | none => failNext .endInValue
  | some 'n' => drop; literalRest ['u', 'l', 'l']; pure .null
  | some 't' => drop; literalRest ['r', 'u', 'e']; pure (.bool true)
  | some 'f' => drop; literalRest ['a', 'l', 's', 'e']; pure (.bool false)
  | some '"' => .text <$> textBody lenient
  | some '[' =>
    match depth with
    | 0 => failNext .tooDeep
    | depth + 1 =>
      drop
      .list <$> items (value lenient depth) ((← remaining) + 1) true
  | some '\x7b' =>
    match depth with
    | 0 => failNext .tooDeep
    | depth + 1 =>
      drop
      ofFields <$> fields lenient (value lenient depth) ((← remaining) + 1) true
  | some c => if c = '-' || c.isDigit then number lenient else failNext .expectedValue

/-- Passes over a value of which nothing is wanted; it may be nested as deep as it likes, and its
numbers and escapes need not have a value. -/
def skipValue : Reader Unit := do
  let _ ← value true (← remaining)

/-- A whole document: what `r` reads, and nothing after it. -/
def document {α : Type} (r : Reader α) (text : String) : Except Fault α := do
  let step : Reader α := do
    let x ← r
    match ← peekPastGap? with
    | none => pure x
    | some _ => failNext .trailingCharacters
  let (x, _) ← step.run (Cursor.start text)
  pure x

/-- Reads a document as a value. -/
def read (text : String) : Except Fault Json := document (value false depthLimit) text

/-! ## §7. Wanted shapes -/

/-- What kind of value is next, in words, once it has been passed as far as a refusal needs: a
container is not entered. -/
def found : Reader String := do
  match ← peekPastGap? with
  | some '[' => pure "sequence"
  | some '\x7b' => pure "map"
  | _ =>
    match ← value false 0 with
    | .null => pure "null"
    | .bool b => pure ("boolean `" ++ (if b then "true" else "false") ++ "`")
    | .whole n => pure ("integer `" ++ String.ofList (wholeText n) ++ "`")
    | .float x => pure ("floating point `" ++ String.ofList (floatText x) ++ "`")
    | .text s => pure ("string " ++ Text.quoted s)
    | .list _ => pure "sequence"
    | .object _ => pure "map"

/-- Refuses the next value, which should have been `expected`. -/
def refuse {α : Type} (expected : String) : Reader α := do
  let f ← found
  failHere (.wrongType f expected)

/-- A text, and nothing else. -/
def textValue : Reader String := do
  match ← peekPastGap? with
  | none => failNext .endInValue
  | some '"' => textBody false
  | some _ => refuse "a string"

/-- An object all of whose fields hold a text, in the order of the document. -/
def textFields : Reader (List (String × String)) := do
  match ← peekPastGap? with
  | none => failNext .endInValue
  | some '\x7b' => drop; fields false textValue ((← remaining) + 1) true
  | some _ => refuse "a map"

/-- Reads a document that maps names to texts. -/
def readTextFields (text : String) : Except Fault (List (String × String)) :=
  document textFields text

end LocalizedMail.Json
