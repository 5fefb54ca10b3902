import LocalizedMail.Json.Value
import LocalizedMail.Table
import LocalizedMail.Text.Blank
import LocalizedMail.Text.Markup

/-!
# Placeholders

A template is text with placeholders in it: two opening braces, blanks, an identifier, blanks, two
closing braces.  The blanks are spaces, tabs, carriage returns and line feeds only.  Anything that
is no placeholder, broken braces included, stands for itself.

A template is cut once into *pieces*, from left to right: where a placeholder starts it is taken
whole, elsewhere one character is taken.  Everything else is a function of the pieces:

  * `names` lists the placeholders, each once, in order of first use;
  * `render` replaces each by its value, written so that it adds no markup; what was put in is
    never cut again.
-/

namespace LocalizedMail.Placeholder

/-! ## §1. Identifiers -/

/-- Whether a character may start an identifier. -/
def isInitial (c : Char) : Bool := c.isAlpha || c == '_'

/-- Whether a character may stand inside an identifier. -/
def isInner (c : Char) : Bool := c.isAlphanum || c == '_'

/-- Whether characters are an identifier. -/
def isIdentifierChars : List Char → Bool
  | [] => false
  | c :: cs => isInitial c && cs.all isInner

/-- Whether a text is an identifier: an ASCII letter or underscore, then letters, digits and
underscores. -/
def isIdentifier (s : String) : Bool := isIdentifierChars s.toList

/-! ## §2. Placeholders in a template -/

/-- Whether a character may stand between the braces and the identifier. -/
def isPadding (c : Char) : Bool := c == ' ' || c == '\t' || c == '\r' || c == '\n'

/-- A placeholder as it is written: padding, name, padding. -/
structure Token where
  before : List Char
  name : List Char
  after : List Char
  deriving DecidableEq, Repr

/-- A placeholder with its braces. -/
def Token.chars (t : Token) : List Char :=
  '\x7b' :: '\x7b' :: (t.before ++ t.name ++ t.after ++ ['\x7d', '\x7d'])

/-- The rest of a placeholder after its opening braces, and what follows it. -/
def Token.readBody? (cs : List Char) : Option (Token × List Char) :=
  let before := cs.takeWhile isPadding
  let cs := cs.dropWhile isPadding
  let name := cs.takeWhile isInner
  let cs := cs.dropWhile isInner
  let after := cs.takeWhile isPadding
  match isIdentifierChars name, cs.dropWhile isPadding with
  | true, '\x7d' :: '\x7d' :: rest => some (⟨before, name, after⟩, rest)
  | _, _ => none

/-- The placeholder at the start of a text, and what follows it. -/
def Token.read? : List Char → Option (Token × List Char)
  | '\x7b' :: '\x7b' :: cs => readBody? cs
  | _ => none

/-- What follows a placeholder is shorter than the text it starts. -/
theorem Token.read?_length {cs rest : List Char} {t : Token} (h : read? cs = some (t, rest)) :
    rest.length < cs.length := by
  unfold read? at h
  split at h
  · next cs =>
    unfold readBody? at h
    dsimp only at h
    split at h
    · next rest' _ hr =>
      obtain ⟨-, rfl⟩ := Prod.mk.injEq .. ▸ Option.some.injEq .. ▸ h
      have h1 := Text.length_skip_le isPadding ((cs.dropWhile isPadding).dropWhile isInner)
      have h2 := Text.length_skip_le isInner (cs.dropWhile isPadding)
      have h3 := Text.length_skip_le isPadding cs
      rw [hr] at h1
      simp only [List.length_cons] at h1 ⊢
      omega
    · cases h
  · cases h

/-- A piece of a template: a character that stands for itself, or a placeholder. -/
inductive Piece where
  | plain (c : Char)
  | token (t : Token)
  deriving DecidableEq, Repr

/-- A piece as it is written. -/
def Piece.chars : Piece → List Char
  | .plain c => [c]
  | .token t => t.chars

/-- The pieces of a template, cut from left to right. -/
def pieces (cs : List Char) : List Piece :=
  match h : Token.read? cs with
  | some (t, rest) =>
    have := Token.read?_length h
    .token t :: pieces rest
  | none =>
    match cs with
    | [] => []
    | c :: rest => .plain c :: pieces rest
termination_by cs.length

/-- The name of a piece that is a placeholder. -/
def Piece.name? : Piece → Option String
  | .plain _ => none
  | .token t => some (String.ofList t.name)

/-- The names of the placeholders of a template, each once, in order of first use. -/
def names (template : String) : List String :=
  distinct ((pieces template.toList).filterMap Piece.name?)

/-! ## §3. Values -/

/-- The values a caller supplies for one rendering. -/
abbrev Variables := Table String Json

/-- A value as text; nothing counts as no value. -/
def valueText? : Json → Option String
  | .null => none
  | .text s => some s
  | j => some j.compact

/-- The text of a placeholder: the caller's value if there is one, else the default. -/
def effective? (defaults : Table String String) (values : Variables) (name : String) :
    Option String :=
  match (values.get? name).bind valueText? with
  | some s => some s
  | none => defaults.get? name

/-! ## §4. Rendering -/

/-- A rendered template and the names of its placeholders that had no value. -/
structure Rendered where
  output : String
  missing : List String
  deriving DecidableEq, Repr

/-- A piece with the value of a placeholder put in, as text without markup. -/
def Piece.fill (value? : String → Option String) : Piece → List Char
  | .plain c => [c]
  | .token t =>
    match value? (String.ofList t.name) with
    | some v => Text.escapeChars v.toList
    | none => []

/-- The name of a piece that is a placeholder without a value. -/
def Piece.missing? (value? : String → Option String) (p : Piece) : Option String :=
  match p.name? with
  | some n => if (value? n).isNone then some n else none
  | none => none

/-- A template with every placeholder replaced by its value, and the names without one, each once,
in order of first use. -/
def renderWith (value? : String → Option String) (template : String) : Rendered :=
  let ps := pieces template.toList
  { output := String.ofList (ps.flatMap (Piece.fill value?))
    missing := distinct (ps.filterMap (Piece.missing? value?)) }

/-- A template with the caller's values over the defaults. -/
def render (template : String) (defaults : Table String String) (values : Variables) :
    Rendered :=
  renderWith (effective? defaults values) template

end LocalizedMail.Placeholder
