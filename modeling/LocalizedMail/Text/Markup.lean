/-!
# Markup-safe text

A substituted value must not add markup.  `escape` replaces the five characters that mean something
in markup by entities; `unescape` reads those five entities, and no others, in one pass from left
to right.  The two undo each other, so distinct values stay distinct when they are written.
-/

namespace LocalizedMail.Text

/-! ## §1. The five entities -/

/-- A character as it is written in markup. -/
def escapeChar (c : Char) : List Char :=
  match c with
  | '&' => ['&', 'a', 'm', 'p', ';']
  | '<' => ['&', 'l', 't', ';']
  | '>' => ['&', 'g', 't', ';']
  | '"' => ['&', 'q', 'u', 'o', 't', ';']
  | '\'' => ['&', '#', '3', '9', ';']
  | c => [c]

/-- Characters written so that none of them is markup. -/
def escapeChars (cs : List Char) : List Char :=
  cs.flatMap escapeChar

/-- A text written so that none of its characters is markup. -/
def escape (s : String) : String :=
  String.ofList (escapeChars s.toList)

/-! ## §2. Reading entities back -/

/-- Reads the five entities in one pass; every other character stands for itself. -/
def unescapeChars : List Char → List Char
  | '&' :: 'a' :: 'm' :: 'p' :: ';' :: cs => '&' :: unescapeChars cs
  | '&' :: 'l' :: 't' :: ';' :: cs => '<' :: unescapeChars cs
  | '&' :: 'g' :: 't' :: ';' :: cs => '>' :: unescapeChars cs
  | '&' :: 'q' :: 'u' :: 'o' :: 't' :: ';' :: cs => '"' :: unescapeChars cs
  | '&' :: '#' :: '3' :: '9' :: ';' :: cs => '\'' :: unescapeChars cs
  | c :: cs => c :: unescapeChars cs
  | [] => []

/-- The text that was written with `escape`. -/
def unescape (s : String) : String :=
  String.ofList (unescapeChars s.toList)

end LocalizedMail.Text
