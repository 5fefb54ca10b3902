import LocalizedMail.Settings.Layers
import LocalizedMail.Settings.VariableFile

/-!
# Where settings are found

A program finds its settings in its working directory: variables in `.env`, and documents in
`config`, one called `default` and one called after the mode that the variable `RUN_MODE` names.  A
document may be missing, and one that is no text counts as missing.  A name stands for the file of
exactly that name if there is one, which counts only with the right extension, and otherwise for the
file with the extension added.
-/

namespace LocalizedMail.Settings

/-! ## §1. Documents -/

/-- The extension of documents. -/
def documentExtension : String := "json"

/-- A path without the parts that stay where they are. -/
def plainPath (path : String) : String := String.intercalate "/" (FileTree.steps path)

/-- The path with the extension of documents added; a path that ends going up has none. -/
def withExtension? (path : String) : Option String :=
  if (FileTree.steps path).getLast? = some ".." then none
  else some (plainPath path ++ "." ++ documentExtension)

/-- The extension of the last part of a path. -/
def extensionOf (path : String) : String :=
  let cs := ((FileTree.steps path).getLast?.getD "").toList.reverse
  match cs.dropWhile (· != '.') with
  | '.' :: _ :: _ => String.ofList (cs.takeWhile (· != '.')).reverse
  | _ => ""

/-- The file that a name stands for. -/
def locate? (disk : FileTree) (name : String) : Option String :=
  if disk.isFile name then
    if extensionOf name = documentExtension then some name else none
  else (withExtension? name).filter disk.isFile

/-- The document of a name, if there is one; a file that is not text counts as missing. -/
def document? (disk : FileTree) (name : String) : Option Document :=
  (locate? disk name).bind fun path =>
    (disk.readText path).toOption.map fun text => ⟨text, some (plainPath path)⟩

/-! ## §2. Settings -/

/-- The file of variables. -/
def variableFile : String := ".env"

/-- The environment with the variables of the file of variables that it does not have. -/
def completeEnvironment (disk : FileTree) (environment : Table String String) :
    Table String String :=
  match disk.content variableFile with
  | .ok file => loadVariables environment file
  | .error _ => environment

/-- The documents for an environment. -/
def documents (disk : FileTree) (environment : Table String String) : List Document :=
  let mode := (environment.get? "RUN_MODE").getD "development"
  ["config/default", "config/" ++ mode].filterMap (document? disk)

end Settings

/-- The settings of a program that runs in a directory with an environment. -/
def Settings.find (disk : FileTree) (environment : Table String String) :
    Except Settings.Fault Settings :=
  let environment := Settings.completeEnvironment disk environment
  Settings.load (Settings.documents disk environment) environment

end LocalizedMail
