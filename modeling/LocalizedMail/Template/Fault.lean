import LocalizedMail.FileTree
import LocalizedMail.Text.Quoted

/-!
# Why a template operation fails

Each constructor is a cause; `Fault.message` is its wording.
-/

namespace LocalizedMail.Template

/-- Why a configuration is refused. -/
inductive ConfigFault where
  | notATag (defaultLang : String)
  | noRoot
  | notAnIdentifier (key : String)
  /-- any other reason, in words -/
  | other (text : String)
  deriving DecidableEq, Repr

/-- A refusal in words. -/
def ConfigFault.message : ConfigFault → String
  | .notATag lang => "default_lang " ++ Text.quoted lang ++ " is not a language tag"
  | .noRoot => "templates_path must not be empty"
  | .notAnIdentifier key =>
    "default key " ++ Text.quoted key ++ " is not a valid placeholder name"
  | .other text => text

/-- Why a template operation fails. -/
inductive Fault where
  | invalidName (name : String)
  | notFound (name lang : String)
  | missingValues (names : List String)
  | invalidConfig (fault : ConfigFault)
  | storage (fault : FileFault)
  deriving DecidableEq, Repr

/-- A failure in words. -/
def Fault.message : Fault → String
  | .invalidName name => "Invalid template name: " ++ Text.quoted name
  | .notFound name lang => "Template not found: " ++ name ++ " (lang: " ++ lang ++ ")"
  | .missingValues names => "Missing template variables: " ++ String.intercalate ", " names
  | .invalidConfig fault => "Invalid template engine configuration: " ++ fault.message
  | .storage fault => "Template storage error: " ++ fault.message

end LocalizedMail.Template
