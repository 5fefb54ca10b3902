import LocalizedMail.Text.Unprintable

/-!
# Quoted text

Names and keys are shown to a reader between double quotes, in a form that shows every character
that cannot be seen.  The quote mark and the backslash get a backslash, four control characters
have a letter (`\0 \t \r \n`), a character without a shape of its own is written as its code point
in lower-case hexadecimal (`\u{200b}`), and everything else, the single quote included, stands for
itself.
-/

namespace LocalizedMail.Text

/-- The digits of a number in lower-case hexadecimal. -/
def hexDigits (n : Nat) : List Char :=
  Nat.toDigits 16 n

/-- A character as it stands inside a quoted text. -/
def quoteChar (c : Char) : List Char :=
  if c = '\x00' then ['\\', '0']
  else if c = '\t' then ['\\', 't']
  else if c = '\r' then ['\\', 'r']
  else if c = '\n' then ['\\', 'n']
  else if c = '"' then ['\\', '"']
  else if c = '\\' then ['\\', '\\']
  else if isUnprintable c then ['\\', 'u', '\x7b'] ++ hexDigits c.toNat ++ ['\x7d']
  else [c]

/-- A text between quote marks, with everything a reader could not see spelled out. -/
def quoted (s : String) : String :=
  String.ofList ('"' :: s.toList.flatMap quoteChar ++ ['"'])

/-- A list of texts in square brackets, each of them quoted. -/
def quotedList (ss : List String) : String :=
  "[" ++ String.intercalate ", " (ss.map quoted) ++ "]"

end LocalizedMail.Text
