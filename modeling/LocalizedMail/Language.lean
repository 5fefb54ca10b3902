import LocalizedMail.Table
import LocalizedMail.Text.Blank

/-!
# Language tags and the directories they stand for

A language tag is two or three letters, optionally followed by `-` or `_` and a region of two to
four letters or digits.  Case and the choice of separator do not matter: every tag has a canonical
form, `ll` or `ll-RR`, and that form is also the name of a directory of templates.

A tag stands for an ordered list of directories.  A bare language goes through a fixed table, or,
when the table does not know it, to itself and its namesake region; a tag with a region tries its
own directory first and then those of the bare language.  Anything that is no tag stands for no
directory at all, so no text can reach a directory that is not in canonical form.

  * `Tag.parse?` reads a tag, `Tag.directory` is its canonical form;
  * `candidates` is the list of directories of a text;
  * `Chain` joins those of a requested and of a default language.
-/

namespace LocalizedMail.Language

/-! ## §1. Tags -/

/-- A language tag in canonical form: a lower-case language and an upper-case region. -/
structure Tag where
  base : List Char
  region : Option (List Char)
  deriving DecidableEq, Repr

/-- Whether characters are a language: two or three ASCII letters. -/
def isBase (cs : List Char) : Bool :=
  2 ≤ cs.length && cs.length ≤ 3 && cs.all Char.isAlpha

/-- Whether characters are a region: two to four ASCII letters or digits. -/
def isRegion (cs : List Char) : Bool :=
  2 ≤ cs.length && cs.length ≤ 4 && cs.all Char.isAlphanum

/-- Whether a character stands between a language and its region. -/
def isJoint (c : Char) : Bool := c == '-' || c == '_'

/-- Reads characters that are a tag and nothing else. -/
def Tag.parseChars? (cs : List Char) : Option Tag :=
  let base := cs.takeWhile (fun c => !isJoint c)
  match cs.dropWhile (fun c => !isJoint c) with
  | [] => if isBase base then some ⟨base.map Char.toLower, none⟩ else none
  | _ :: region =>
    if isBase base && isRegion region then
      some ⟨base.map Char.toLower, some (region.map Char.toUpper)⟩
    else none

/-- Reads a text that is a tag and nothing else, blanks included. -/
def Tag.parse? (s : String) : Option Tag := Tag.parseChars? s.toList

/-- Whether a text is a language tag. -/
def isTag (s : String) : Bool := (Tag.parse? s).isSome

/-! ## §2. Directories -/

/-- The name `base-REGION`. -/
def regional (base region : List Char) : String :=
  String.ofList (base ++ '-' :: region)

/-- The canonical form of a tag. -/
def Tag.directory (t : Tag) : String :=
  match t.region with
  | none => String.ofList t.base
  | some r => regional t.base r

/-- The directories of the languages that have a list of their own. -/
def knownDirectories : List (String × List String) := [
  ("en", ["en", "en-EN", "en-US", "en-GB"]),
  ("fr", ["fr", "fr-FR", "fr-CA"]),
  ("es", ["es", "es-ES", "es-MX"]),
  ("de", ["de", "de-DE"]),
  ("it", ["it", "it-IT"]),
  ("pt", ["pt", "pt-PT", "pt-BR"]),
  ("nl", ["nl", "nl-NL"])]

/-- The directories of a bare language, in order. -/
def baseDirectories (base : List Char) : List String :=
  match knownDirectories.lookup (String.ofList base) with
  | some dirs => dirs
  | none => [String.ofList base, regional base (base.map Char.toUpper)]

/-- The directories of a tag, in order, each once. -/
def Tag.directories (t : Tag) : List String :=
  match t.region with
  | none => distinct (baseDirectories t.base)
  | some _ => distinct (t.directory :: baseDirectories t.base)

/-- The directories that a text stands for: those of the tag between its outer blanks. -/
def candidates (lang : String) : List String :=
  match Tag.parse? (Text.trim lang) with
  | some t => t.directories
  | none => []

/-! ## §3. Chains -/

/-- The directories of a requested language, and those that only a default language adds. -/
structure Chain where
  requested : List String
  fallback : List String
  deriving DecidableEq, Repr

/-- The chain of a requested and a default language. -/
def Chain.of (lang defaultLang : String) : Chain :=
  let requested := candidates lang
  { requested, fallback := (candidates defaultLang).filter (fun d => !requested.contains d) }

/-- All directories of a chain, the requested ones first. -/
def Chain.all (c : Chain) : List String := c.requested ++ c.fallback

/-- The language to look under: a blank text asks for the default. -/
def orDefault (lang defaultLang : String) : String :=
  if Text.isAllBlank lang then defaultLang else lang

/-- The directory under which a text of a language is filed.  A text that is no tag files under the
default language as it is spelled. -/
def filedUnder (lang defaultLang : String) : String :=
  match candidates (orDefault lang defaultLang) with
  | d :: _ => d
  | [] => defaultLang

end LocalizedMail.Language
