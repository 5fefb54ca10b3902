import LocalizedMail.FileTree
import LocalizedMail.Table
import LocalizedMail.Text.Alphanumeric
import LocalizedMail.Text.Blank

/-!
# Files of variables

A file can hold variables that the environment does not have, one to a line: a name, an equals sign
and a value, perhaps with `export` in front.

  * A value ends with its line, unless the line ends inside quote marks or in a blank.
  * Between single quote marks everything stands for itself; elsewhere a backslash stands before a
    character that would mean something, and `$NAME` (letters and digits of any script) or `$` with a
    name in braces is replaced by the value of that variable.
  * A hash mark at the start of a line or after a blank begins a comment.

Lines take effect one after the other; the first line that is no good ends the reading, and what was
read before it stays.
-/

namespace LocalizedMail.Settings

/-! ## §1. Lines -/

/-- The parts of a list, each up to and including an end mark. -/
def chunks {α : Type} (isEnd : α → Bool) : List α → List (List α)
  | [] => []
  | a :: rest =>
    if isEnd a then [a] :: chunks isEnd rest
    else
      match chunks isEnd rest with
      | [] => [[a]]
      | c :: cs => (a :: c) :: cs

/-- The lines of a file, with their ends; a line that is no text is missing. -/
def fileLines : Content → List (Option (List Char))
  | .text s => (chunks (· == '\n') s.toList).map some
  | .bytes b =>
    (chunks (· == 10) b.toList).map fun line =>
      (String.fromUTF8? ⟨line.toArray⟩).map String.toList

/-- What a reader is inside of. -/
inductive Inside where
  | plain
  | escape
  | strongQuotes
  | strongEscape
  | weakQuotes
  | weakEscape
  | blank
  deriving DecidableEq, Repr

/-- What a reader is inside of after a character, or nothing where a comment begins. -/
def Inside.next? (i : Inside) (c : Char) : Option Inside :=
  let opening : Inside :=
    if c = '\\' then escape else if c = '"' then weakQuotes
    else if c = '\'' then strongQuotes else plain
  match i with
  | blank => if c = '#' then none else some opening
  | escape => some plain
  | plain =>
    if Text.isBlank c && c != '\n' && c != '\r' then some blank else some opening
  | weakQuotes => some (if c = '\\' then weakEscape else if c = '"' then plain else weakQuotes)
  | weakEscape => some weakQuotes
  | strongQuotes =>
    some (if c = '\\' then strongEscape else if c = '\'' then plain else strongQuotes)
  | strongEscape => some strongQuotes

/-- What a reader is inside of after a line, or the part of the line before its comment. -/
def lineState (i : Inside) (before : List Char) : List Char → Inside ⊕ List Char
  | [] => .inl i
  | c :: rest =>
    match i.next? c with
    | some j => lineState j (before ++ [c]) rest
    | none => .inr before

/-- A line without its end. -/
def dropLineEnd (line : List Char) : List Char :=
  match line.reverse with
  | '\n' :: '\r' :: rest => rest.reverse
  | '\n' :: rest => rest.reverse
  | _ => line

/-- Whether a line holds only a comment. -/
def isComment (line : List Char) : Bool := (line.dropWhile Text.isBlank).head? == some '#'

/-- Lines put together where one goes on in the next, comments left out; the last entry is missing
if the file ends too early or a line is no text. -/
def logicalLines (i : Inside) (before : List Char) :
    List (Option (List Char)) → List (Option (List Char))
  | [] => if i = .plain then [] else [none]
  | none :: _ => [none]
  | some line :: rest =>
    let whole := before ++ line
    if isComment whole then logicalLines .plain [] rest
    else
      match lineState i [] line with
      | .inr kept => some (before ++ kept) :: logicalLines .plain [] rest
      | .inl .plain => some (dropLineEnd whole) :: logicalLines .plain [] rest
      | .inl j => logicalLines j whole rest

/-! ## §2. Values -/

/-- Whether the name of a variable is being read, and whether it stands in braces. -/
inductive Naming where
  | no
  | bare
  | braced
  deriving DecidableEq, Repr

/-- How far a value has been read. -/
structure ValueState where
  output : List Char := []
  strong : Bool := false
  weak : Bool := false
  escaped : Bool := false
  /-- after a blank, where only a comment may follow -/
  ended : Bool := false
  /-- in a comment -/
  skipping : Bool := false
  naming : Naming := .no
  name : List Char := []

namespace ValueState

variable (lookup : String → String)

/-- The value of the variable whose name was read is put in. -/
def substitute (s : ValueState) : ValueState :=
  { s with output := s.output ++ (lookup (String.ofList s.name)).toList, name := [], naming := .no }

/-- The state after a character of the name of a variable. -/
def nameStep (s : ValueState) (c : Char) : ValueState :=
  if Text.isAlphanumeric c then { s with name := s.name ++ [c] }
  else if s.naming = .bare then
    if c = '\x7b' && s.name.isEmpty then { s with naming := .braced }
    else
      let s := s.substitute lookup
      if c = '$' then { s with naming := .bare } else { s with output := s.output ++ [c] }
  else if c = '\x7d' then s.substitute lookup
  else { s with name := s.name ++ [c] }

/-- The state after a character, or nothing if it may not stand there. -/
def step? (s : ValueState) (c : Char) : Option ValueState :=
  if s.skipping then some s
  else if s.ended then
    if c = ' ' || c = '\t' then some s
    else if c = '#' then some { s with skipping := true }
    else none
  else if s.escaped then
    if ['\\', '\'', '"', '$', ' '].contains c then
      some { s with output := s.output ++ [c], escaped := false }
    else if c = 'n' then some { s with output := s.output ++ ['\n'], escaped := false }
    else none
  else if s.strong then
    some (if c = '\'' then { s with strong := false } else { s with output := s.output ++ [c] })
  else if s.naming ≠ .no then some (s.nameStep lookup c)
  else if c = '$' then some { s with naming := .bare }
  else if s.weak then
    some (if c = '"' then { s with weak := false }
      else if c = '\\' then { s with escaped := true }
      else { s with output := s.output ++ [c] })
  else if c = '\'' then some { s with strong := true }
  else if c = '"' then some { s with weak := true }
  else if c = '\\' then some { s with escaped := true }
  else if c = ' ' || c = '\t' then some { s with ended := true }
  else some { s with output := s.output ++ [c] }

/-- The state after all characters of a value. -/
def run? (s : ValueState) : List Char → Option ValueState
  | [] => some s
  | c :: rest => (s.step? lookup c).bind fun s => s.run? rest

end ValueState

/-- The value that a text spells, other variables looked up. -/
def variableValue? (lookup : String → String) (cs : List Char) : Option String :=
  (ValueState.run? lookup {} cs).bind fun s =>
    if s.naming = .braced || s.strong || s.weak then none
    else some (String.ofList (s.substitute lookup).output)

/-! ## §3. Variables -/

/-- The name that comes first in a line, and what is left. -/
def variableName? (cs : List Char) : Option (List Char × List Char) :=
  let isNameChar (c : Char) : Bool := c.isAlphanum || c == '_' || c == '.'
  match cs with
  | c :: _ =>
    if c.isAlpha || c == '_' then some (cs.takeWhile isNameChar, cs.dropWhile isNameChar) else none
  | [] => none

/-- What follows an equals sign that comes next, blanks before it passed over. -/
def afterEquals? (cs : List Char) : Option (List Char) :=
  match cs.dropWhile Text.isBlank with
  | '=' :: rest => some (rest.dropWhile Text.isBlank)
  | _ => none

/-- The name and the value's text of a line, which is not empty. -/
def splitLine? (cs : List Char) : Option (List Char × List Char) :=
  (variableName? cs).bind fun (name, rest) =>
    match afterEquals? rest with
    | some value => some (name, value)
    | none =>
      if name = "export".toList then
        (variableName? (rest.dropWhile Text.isBlank)).bind fun (name, rest) =>
          (afterEquals? rest).map fun value => (name, value)
      else none

/-- The value of a variable, which another table may have a value for. -/
def lookupVariable (environment stored : Table String String) (name : String) : String :=
  ((environment.get? name).or (stored.get? name)).getD ""

/-- The environment after the lines of a file; `stored` holds the values of earlier lines. -/
def loadLines (environment stored : Table String String) :
    List (Option (List Char)) → Table String String
  | [] => environment
  | none :: _ => environment
  | some line :: rest =>
    let cs := Text.trimChars line
    if cs.isEmpty || cs.head? == some '#' then loadLines environment stored rest
    else
      match splitLine? cs with
      | none => environment
      | some (name, text) =>
        let name := String.ofList name
        let value? :=
          if text.isEmpty || text.head? == some '#' then some ""
          else variableValue? (lookupVariable environment stored) text
        match value? with
        | none => environment
        | some value =>
          let environment :=
            if environment.contains name then environment else environment.insert name value
          loadLines environment (stored.insert name value) rest

/-- A text without the mark at its start that tells how it is encoded. -/
def dropByteOrderMark : List (Option (List Char)) → List (Option (List Char))
  | some ('\uFEFF' :: line) :: rest => some line :: rest
  | lines => lines

/-- The environment with the variables of a file that it does not have. -/
def loadVariables (environment : Table String String) (file : Content) : Table String String :=
  loadLines environment .empty (logicalLines .plain [] (dropByteOrderMark (fileLines file)))

end LocalizedMail.Settings
