import LocalizedMail.Json.Reader
import LocalizedMail.Template.Store
import LocalizedMail.Text.UpperCase

/-!
# Subject lines

Subject lines are filed like templates and found along the same chain of directories.  A template
without a subject line gets its own name as one: the words of the name, capitalized.

`Subjects.loadDocument` takes over a whole document of subject lines or none of it.
-/

namespace LocalizedMail.Template

/-! ## §1. Names as subject lines -/

/-- Whether a character stands between two words of a name. -/
def isWordGap (c : Char) : Bool := c == '-' || c == '_' || Text.isBlank c

/-- The words of a name, capitalized, with single spaces between them. -/
def humanizeChars (name : List Char) : List Char :=
  List.intercalate [' '] ((Text.words isWordGap name).map Text.capitalize)

/-- The subject line that a name makes. -/
def humanize (name : String) : String := String.ofList (humanizeChars name.toList)

/-! ## §2. Registered subject lines -/

/-- Subject lines by language directory and template name. -/
structure Subjects where
  /-- the language tried after the requested one -/
  defaultLang : String
  lines : Table Key String

namespace Subjects

/-- No subject lines yet. -/
def create (defaultLang : String) : Subjects := ⟨defaultLang, .empty⟩

/-- The number of subject lines. -/
def count (s : Subjects) : Nat := s.lines.size

/-- Files a subject line whose name is known to be good. -/
def put (s : Subjects) (name line lang : String) : Subjects :=
  { s with lines := s.lines.insert ⟨Language.filedUnder lang s.defaultLang, name⟩ line }

/-- Registers a subject line, in place of an earlier one of the same language and name. -/
def register (s : Subjects) (name line lang : String) : Except Fault Subjects :=
  match checkName name with
  | .error fault => .error fault
  | .ok () => .ok (s.put name line lang)

/-- The subject line of a template for a language. -/
def resolve (s : Subjects) (name lang : String) : String :=
  let chain := Language.Chain.of (Language.orDefault lang s.defaultLang) s.defaultLang
  match chain.all.findSome? fun d => s.lines.get? ⟨d, name⟩ with
  | some line => line
  | none => humanize name

/-! ## §3. Documents of subject lines -/

/-- The subject lines of a document: names and lines, the last line of each name. -/
def readDocument (disk : FileTree) (path : String) : Except Fault (Table String String) :=
  match disk.readText path with
  | .error fault => .error (.storage fault)
  | .ok text =>
    match Json.readTextFields text with
    | .error fault => .error (.storage (.misread fault))
    | .ok fields => .ok (Table.ofList fields)

/-- An order in which the entries of a document are gone through.  Nothing fixes it: it can be
another one for each document, and another one the next time. -/
structure Pass where
  order : List (String × String) → List (String × String)
  perm : ∀ es, (order es).Perm es

/-- The order in which the entries stand in the document. -/
def Pass.asWritten : Pass := ⟨id, fun es => .refl es⟩

/-- The first name of some entries that may not name a template. -/
def badName? (entries : List (String × String)) : Option String :=
  (entries.map Prod.fst).find? fun name => !isName name

/-- Registers subject lines under one language one after the other, up to the first whose name is
refused; those before it are registered then. -/
def registerEach (s : Subjects) (lang : String) :
    List (String × String) → Step (Except Fault Unit) Subjects
  | [] => ⟨.ok (), s, []⟩
  | (name, line) :: rest =>
    match s.register name line lang with
    | .ok registered => registerEach registered lang rest
    | .error fault => ⟨.error fault, s, []⟩

/-- Registers the subject lines of the document at a path, and says how many there are.  All names
are looked at before the first line is registered, and both times the entries are gone through in
the order of the pass; of several bad names it decides which one is reported. -/
def loadDocument (disk : FileTree) (s : Subjects) (lang path : String)
    (pass : Pass := .asWritten) : Step (Except Fault Nat) Subjects :=
  match readDocument disk path with
  | .error fault => ⟨.error fault, s, []⟩
  | .ok entries =>
    match badName? (pass.order entries.entries) with
    | some name => ⟨.error (.invalidName name), s, []⟩
    | none =>
      let registered := s.registerEach lang (pass.order entries.entries)
      match registered.result with
      | .error fault => ⟨.error fault, registered.state, []⟩
      | .ok () =>
        ⟨.ok entries.size, registered.state, [.subjectsRead lang path entries.size]⟩

end Subjects

end LocalizedMail.Template
