import LocalizedMail.Template.Fault

/-!
# Template names

A template name becomes one part of a path, so it must not be empty, hold a slash or a backslash,
or hold two dots in a row.
-/

namespace LocalizedMail.Template

/-- Whether two dots stand next to each other. -/
def hasDoubleDot : List Char → Bool
  | '.' :: '.' :: _ => true
  | _ :: cs => hasDoubleDot cs
  | [] => false

/-- Whether characters may name a template. -/
def isNameChars (cs : List Char) : Bool :=
  !cs.isEmpty && !cs.contains '/' && !cs.contains '\\' && !hasDoubleDot cs

/-- Whether a text may name a template. -/
def isName (name : String) : Bool := isNameChars name.toList

/-- Refuses a text that may not name a template. -/
def checkName (name : String) : Except Fault Unit :=
  if isName name then .ok () else .error (.invalidName name)

end LocalizedMail.Template
