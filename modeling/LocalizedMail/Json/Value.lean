import LocalizedMail.Binary64.Layout

/-!
# Data documents: values and how they are written

A value of a data document is nothing, a truth value, a number, a text, a list or an object.  Whole
numbers and binary64 numbers are kept apart, because `1` and `1.0` are written differently.  The
fields of an object that was read are in order of their names, each name once.

  * `compact` writes a value on one line without blanks;
  * `pretty` writes it over several lines, each level indented by two blanks.
-/

namespace LocalizedMail

/-- A value of a data document. -/
inductive Json where
  | null
  | bool (value : Bool)
  | whole (value : Int)
  | float (value : Binary64)
  | text (value : String)
  | list (items : List Json)
  | object (fields : List (String × Json))
  deriving Inhabited

namespace Json

/-! ## §1. Fields -/

/-- The fields of an object with one more put in: a field of the same name is replaced, a new one
goes before the first field with a greater name. -/
def putField (name : String) (value : Json) : List (String × Json) → List (String × Json)
  | [] => [(name, value)]
  | (n, v) :: rest =>
    if name = n then (name, value) :: rest
    else if name < n then (name, value) :: (n, v) :: rest
    else (n, v) :: putField name value rest

/-- The object of a list of fields, the last field of each name. -/
def ofFields (fields : List (String × Json)) : Json :=
  .object (fields.foldl (fun acc f => putField f.1 f.2 acc) [])

/-- A field of an object. -/
def field? (j : Json) (name : String) : Option Json :=
  match j with
  | .object fields => fields.lookup name
  | _ => none

/-! ## §2. Texts between quote marks -/

/-- A character as it stands inside a quoted text of a document: the quote mark, the backslash and
the control characters of ASCII are escaped, everything else stands for itself. -/
def quoteChar (c : Char) : List Char :=
  if c = '"' then ['\\', '"']
  else if c = '\\' then ['\\', '\\']
  else if c = '\n' then ['\\', 'n']
  else if c = '\t' then ['\\', 't']
  else if c = '\r' then ['\\', 'r']
  else if c = '\x08' then ['\\', 'b']
  else if c = '\x0c' then ['\\', 'f']
  else if c.toNat < 0x20 then
    ['\\', 'u', '0', '0', Nat.digitChar (c.toNat / 16), Nat.digitChar (c.toNat % 16)]
  else [c]

/-- A text between quote marks. -/
def quote (s : String) : List Char :=
  '"' :: s.toList.flatMap quoteChar ++ ['"']

/-- A whole number in decimal. -/
def wholeText (n : Int) : List Char :=
  (if n < 0 then ['-'] else []) ++ Nat.toDigits 10 n.natAbs

/-- A binary64 number; one that is not finite has no written form and becomes `null`. -/
def floatText (x : Binary64) : List Char :=
  match x with
  | .finite _ _ _ => (Binary64.Layout.document.text x).toList
  | _ => ['n', 'u', 'l', 'l']

/-! ## §3. Writing on one line -/

mutual

/-- A value on one line. -/
def compactChars : Json → List Char
  | .null => ['n', 'u', 'l', 'l']
  | .bool true => ['t', 'r', 'u', 'e']
  | .bool false => ['f', 'a', 'l', 's', 'e']
  | .whole n => wholeText n
  | .float x => floatText x
  | .text s => quote s
  | .list items => '[' :: compactItems items ++ [']']
  | .object fields => '\x7b' :: compactFields fields ++ ['\x7d']

/-- The items of a list with commas between them. -/
def compactItems : List Json → List Char
  | [] => []
  | [j] => compactChars j
  | j :: k :: rest => compactChars j ++ ',' :: compactItems (k :: rest)

/-- The fields of an object with commas between them. -/
def compactFields : List (String × Json) → List Char
  | [] => []
  | [(n, j)] => quote n ++ ':' :: compactChars j
  | (n, j) :: f :: rest => quote n ++ ':' :: compactChars j ++ ',' :: compactFields (f :: rest)

end

/-- A value on one line. -/
def compact (j : Json) : String := String.ofList j.compactChars

/-! ## §4. Writing over several lines -/

/-- The blanks at the start of a line of a level. -/
def indent (level : Nat) : List Char := List.replicate (2 * level) ' '

mutual

/-- A value over several lines, the first of which is already indented. -/
def prettyChars (level : Nat) : Json → List Char
  | .list [] => ['[', ']']
  | .list (j :: rest) =>
    '[' :: '\n' :: prettyItems (level + 1) (j :: rest) ++ '\n' :: indent level ++ [']']
  | .object [] => ['\x7b', '\x7d']
  | .object (f :: rest) =>
    '\x7b' :: '\n' :: prettyFields (level + 1) (f :: rest) ++ '\n' :: indent level ++ ['\x7d']
  | .null => ['n', 'u', 'l', 'l']
  | .bool true => ['t', 'r', 'u', 'e']
  | .bool false => ['f', 'a', 'l', 's', 'e']
  | .whole n => wholeText n
  | .float x => floatText x
  | .text s => quote s

/-- The items of a list, one to a line. -/
def prettyItems (level : Nat) : List Json → List Char
  | [] => []
  | [j] => indent level ++ prettyChars level j
  | j :: k :: rest =>
    indent level ++ prettyChars level j ++ ',' :: '\n' :: prettyItems level (k :: rest)

/-- The fields of an object, one to a line. -/
def prettyFields (level : Nat) : List (String × Json) → List Char
  | [] => []
  | [(n, j)] => indent level ++ quote n ++ ':' :: ' ' :: prettyChars level j
  | (n, j) :: f :: rest =>
    indent level ++ quote n ++ ':' :: ' ' :: prettyChars level j ++ ',' :: '\n' ::
      prettyFields level (f :: rest)

end

/-- A value over several lines. -/
def pretty (j : Json) : String := String.ofList (j.prettyChars 0)

end Json

end LocalizedMail
