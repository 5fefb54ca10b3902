import LocalizedMail.Binary64.Layout
import LocalizedMail.Json.Value
import LocalizedMail.Text.Quoted

/-!
# Why settings cannot be loaded

Each constructor is a cause; `Fault.message` is its wording.  A value of the wrong type is described
by what was found, what was expected, and, as far as known, where: under which key, from which
source.
-/

namespace LocalizedMail.Settings

/-- A value that is not of the expected type. -/
inductive Found where
  | bool (value : Bool)
  /-- a whole number where the expected numbers have a sign -/
  | signed (value : Int)
  /-- a whole number where the expected numbers have no sign -/
  | unsigned (value : Nat)
  | float (value : Binary64)
  | text (value : String)
  | nothing
  | list
  | table
  deriving DecidableEq, Repr

/-- A value in words. -/
def Found.message : Found → String
  | .bool b => "boolean `" ++ (if b then "true" else "false") ++ "`"
  | .signed n => "64-bit integer `" ++ String.ofList (Json.wholeText n) ++ "`"
  | .unsigned n => "64-bit unsigned integer `" ++ String.ofList (Nat.toDigits 10 n) ++ "`"
  | .float x => "floating point `" ++ Binary64.Layout.plain.text x ++ "`"
  | .text s => "string " ++ Text.quoted s
  | .nothing => "unit value"
  | .list => "sequence"
  | .table => "map"

/-- Why settings cannot be loaded. -/
inductive Fault where
  /-- a source is no document of settings; the cause in words, and the name of the source -/
  | unreadable (cause : String) (source : Option String)
  | wrongType (found : Found) (expected : String) (key origin : Option String)
  /-- a setting is not set -/
  | notSet (key : String)
  /-- any other cause, in words -/
  | other (text : String)
  deriving DecidableEq, Repr

/-- A part of a message that is there only if its subject is. -/
def optional (f : String → String) : Option String → String
  | some s => f s
  | none => ""

/-- A failure in words. -/
def Fault.message : Fault → String
  | .unreadable cause source => cause ++ optional (" in " ++ ·) source
  | .wrongType found expected key origin =>
    "invalid type: " ++ found.message ++ ", expected " ++ expected ++
      optional (fun k => " for key `" ++ k ++ "`") key ++ optional (" in " ++ ·) origin
  | .notSet key => "configuration property " ++ Text.quoted key ++ " not found"
  | .other text => text

end LocalizedMail.Settings
