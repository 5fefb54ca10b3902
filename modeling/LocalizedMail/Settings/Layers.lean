import LocalizedMail.Json.Reader
import LocalizedMail.Settings.Decode
import LocalizedMail.Settings.Environment

/-!
# Layers of settings

Settings come from several documents and from the environment; a later source lies on top of an
earlier one, and the environment on top of all.

Merging forgets how the names of entries were written.  The default values of placeholders, where
that matters, are therefore read once more: from each document on its own, and from the variables
that hold one.

Nothing fixes the order in which the settings of one source are merged.  It can show where a setting
is at once a value and a table of others: `ofLayers` takes the layers and the settings of the
environment in any order, and `load` in the one in which they are listed.
-/

namespace LocalizedMail.Settings

/-! ## §1. Documents -/

/-- A document of settings: its text, and its name, if it has one. -/
structure Document where
  text : String
  name : Option String := none

/-- The entries of a document. -/
def Document.entries (d : Document) : Except Fault (List (String × Value)) :=
  match Json.read d.text with
  | .error fault => .error (.unreadable fault.message d.name)
  | .ok j =>
    match Value.ofJson d.name j with
    | .table _ es => .ok es
    | v => .error (.unreadable (v.refused "a map").message d.name)

/-! ## §2. Merging -/

/-- The settings that are there before any source. -/
def baseLayer : List (String × Value) := [
  ("templates.default_lang", .text none "en"),
  ("templates.templates_path", .text none "templates"),
  ("smtp.host", .text none "localhost"),
  ("smtp.port", .whole none 587),
  ("retry.max_attempts", .whole none 3)]

/-- All settings of several layers, a later one on top of an earlier one. -/
def mergeLayers (layers : List (List (String × Value))) : Value :=
  layers.foldl Value.overlay (Value.emptyTable.overlay baseLayer)

/-! ## §3. Default values of placeholders -/

/-- The texts of a table whose place does not matter. -/
def plainTexts : List (String × Value) → Except Fault (List (String × String))
  | [] => .ok []
  | (name, v) :: rest => do
    let s ← v.asText
    let more ← plainTexts rest
    pure ((name, s) :: more)

/-- The default values of placeholders in a document, their names as they are written. -/
def documentDefaults (entries : List (String × Value)) :
    Except Fault (List (String × String)) := do
  match entries.lookup "templates" with
  | none => pure []
  | some templates =>
    match (← templates.asTable).lookup "defaults" with
    | none => pure []
    | some defaults => plainTexts (← defaults.asTable)

/-- The default values of placeholders in all sources. -/
def placeholderDefaults (documents : List (List (String × Value)))
    (environment : Table String String) : Except Fault (Table String String) := do
  let found ← documents.mapM documentDefaults
  pure (.ofList (found.flatten ++ environmentDefaults environment))

/-! ## §4. Loading -/

/-- The settings of merged layers, with the default values of placeholders as their sources spell
them. -/
def ofMerged (merged : Value) (layers : List (List (String × Value)))
    (environment : Table String String) : Except Fault Settings := do
  let settings ← Settings.ofValue merged
  let defaults ← placeholderDefaults layers environment
  pure { settings with templates := { settings.templates with defaults := defaults } }

/-- The settings of the layers of documents and of the environment, whose settings are merged in the
given order. -/
def ofLayers (layers : List (List (String × Value))) (order : List (String × Value))
    (environment : Table String String) : Except Fault Settings :=
  ofMerged (mergeLayers (layers ++ [order])) layers environment

end Settings

/-- The settings of several documents and of the environment, each source in the order in which it
is listed. -/
def Settings.load (documents : List Settings.Document) (environment : Table String String) :
    Except Settings.Fault Settings := do
  let layers ← documents.mapM Settings.Document.entries
  Settings.ofLayers layers (Settings.environmentLayer environment).entries environment

end LocalizedMail
