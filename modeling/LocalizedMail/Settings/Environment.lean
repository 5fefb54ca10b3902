import LocalizedMail.Settings.Path

/-!
# Settings from the environment

A variable whose name begins with `MAILER__`, in letters of either case, is a setting: the rest of
its name, in lower case and with a dot for every two underscores, is the name of the setting.  Its
value is a truth value or a number if it spells one, and a text otherwise.
-/

namespace LocalizedMail.Settings

/-- The name of the environment as a source. -/
def environmentName : String := "the environment"

/-- The value that a variable holds. -/
def Value.ofVariable (s : String) : Value :=
  let origin := some environmentName
  match Text.toLowerCase s with
  | "true" => .bool origin true
  | "false" => .bool origin false
  | _ =>
    match Text.signed? s with
    | some n => .whole origin n
    | none =>
      match Text.binary64? s with
      | some x => .float origin x
      | none => .text origin s

/-- A name with a dot for every two underscores. -/
def dotUnderscores : List Char → List Char
  | '_' :: '_' :: rest => '.' :: dotUnderscores rest
  | c :: rest => c :: dotUnderscores rest
  | [] => []

/-- What the names of settings begin with, in lower case. -/
def variablePrefix : List Char := "mailer__".toList

/-- The name of the setting that a variable is. -/
def settingName? (name : String) : Option String :=
  let cs := (Text.toLowerCase name).toList
  if variablePrefix.isPrefixOf cs then
    some (String.ofList (dotUnderscores (cs.drop variablePrefix.length)))
  else none

/-- The settings that variables hold. -/
def environmentLayer (environment : Table String String) : Table String Value :=
  .ofList <| environment.entries.filterMap fun e =>
    (settingName? e.1).map fun name => (name, Value.ofVariable e.2)

/-- What the names of variables with default values of placeholders begin with, in lower case. -/
def placeholderPrefix : List Char := "mailer__templates__defaults__".toList

/-- The placeholder whose default value a variable holds, its letters as they are. -/
def placeholderName? (name : String) : Option String :=
  let cs := name.toList
  let n := placeholderPrefix.length
  if (cs.take n).map Char.toLower = placeholderPrefix && n < cs.length then
    some (String.ofList (cs.drop n))
  else none

/-- The default values of placeholders that variables hold. -/
def environmentDefaults (environment : Table String String) : List (String × String) :=
  environment.entries.filterMap fun e => (placeholderName? e.1).map fun name => (name, e.2)

end LocalizedMail.Settings
