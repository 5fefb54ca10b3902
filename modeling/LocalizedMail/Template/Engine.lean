import LocalizedMail.Placeholder
import LocalizedMail.Template.Subjects

/-!
# The template engine

An engine is a store of bodies, subject lines, default values and a choice: whether a missing value
fails a rendering (a *strict* engine) or is only reported.  Its configuration is checked when it is
created; from then on the default language is a language tag and every default can be referred to.

Rendering a mail renders its body and its subject line in the same way; the report on missing
values names each once, those of the body first.
-/

namespace LocalizedMail.Template

open Placeholder (Rendered Variables)

/-! ## §1. Engines -/

/-- The document of subject lines in a language directory. -/
def subjectsFile : String := "subjects.json"

/-- The defaults that every template can refer to. -/
def builtinDefaults (year : String) : Table String String :=
  .ofList [("APP_NAME", "Ara"), ("APP_URL", "http://localhost"),
    ("SUPPORT_EMAIL", "support@localhost"), ("CURRENT_YEAR", year)]

/-- Bodies, subject lines, default values, and whether a missing value is an error. -/
structure Engine where
  store : Store
  subjects : Subjects
  defaults : Table String String
  strict : Bool

/-- What is wrong with a configuration, if anything. -/
def configFault? (config : Settings.Templates) : Option ConfigFault :=
  if !Language.isTag config.defaultLang then some (.notATag config.defaultLang)
  else if config.root.isEmpty then some .noRoot
  else
    match config.defaults.keys.find? fun key => !Placeholder.isIdentifier key with
    | some key => some (.notAnIdentifier key)
    | none => none

namespace Engine

/-- An engine of a configuration, in a given year. -/
def create (config : Settings.Templates) (year : String) : Except Fault Engine :=
  match configFault? config with
  | some fault => .error (.invalidConfig fault)
  | none =>
    .ok { store := .create config.root config.defaultLang
          subjects := .create config.defaultLang
          defaults := (builtinDefaults year).merge config.defaults
          strict := config.strict }

/-- The language that a blank one stands for. -/
def defaultLang (e : Engine) : String := e.store.defaultLang

/-- What the creation of an engine is reported as. -/
def ready (e : Engine) : Event := .engineReady e.store.root e.defaultLang e.strict

/-- The engine with another store. -/
def withStore {α : Type} (e : Engine) (s : Step α Store) : Step α Engine :=
  ⟨s.result, { e with store := s.state }, s.events⟩

/-- The engine with other subject lines. -/
def withSubjects {α : Type} (e : Engine) (s : Step α Subjects) : Step α Engine :=
  ⟨s.result, { e with subjects := s.state }, s.events⟩

/-! ## §2. Subject lines -/

/-- Registers a subject line. -/
def registerSubject (e : Engine) (name line lang : String) : Step (Except Fault Unit) Engine :=
  match e.subjects.register name line lang with
  | .ok s => ⟨.ok (), { e with subjects := s }, []⟩
  | .error fault => ⟨.error fault, e, []⟩

/-- Registers the subject lines of every listed language directory that has a document of them, in
the order of the listing, up to the first document that is no good; each document is gone through in
an order of its own. -/
def readSubjectsOf (disk : FileTree) (root : String) (passes : String → Subjects.Pass)
    (s : Subjects) (total : Nat) : List String → Step (Except Fault Nat) Subjects
  | [] => ⟨.ok total, s, []⟩
  | name :: rest =>
    let path := FileTree.join (FileTree.join root name) subjectsFile
    if disk.isFile path then
      let step := s.loadDocument disk name path (passes name)
      match step.result with
      | .error fault => ⟨.error fault, step.state, step.events⟩
      | .ok n =>
        let next := readSubjectsOf disk root passes step.state (total + n) rest
        ⟨next.result, next.state, step.events ++ next.events⟩
    else readSubjectsOf disk root passes s total rest

/-- Registers all subject lines below the root, and says how many there are. -/
def readSubjectFiles (disk : FileTree) (e : Engine)
    (passes : String → Subjects.Pass := fun _ => .asWritten) : Step (Except Fault Nat) Engine :=
  match disk.entries e.store.root with
  | .error .notFound => ⟨.ok 0, e, []⟩
  | .error fault => ⟨.error (.storage fault), e, []⟩
  | .ok entries =>
    e.withSubjects (readSubjectsOf disk e.store.root passes e.subjects 0 (entries.map Prod.fst))

/-! ## §3. Rendering -/

/-- What replacing placeholders is reported as, whether or not it succeeds. -/
def renderedEvent (r : Rendered) : Event := .rendered r.missing.length

/-- Replaces the placeholders of a text.  In a strict engine a missing value is an error. -/
def substitute (e : Engine) (template : String) (values : Variables) :
    Except Fault Rendered × List Event :=
  let r := Placeholder.render template e.defaults values
  (if e.strict && !r.missing.isEmpty then .error (.missingValues r.missing) else .ok r,
    [renderedEvent r])

/-- Loads a template and replaces its placeholders. -/
def renderReport (disk : FileTree) (e : Engine) (name lang : String) (values : Variables) :
    Step (Except Fault Rendered) Engine :=
  let loaded := e.store.load disk name lang
  let e' := { e with store := loaded.state }
  match loaded.result with
  | .error fault => ⟨.error fault, e', loaded.events⟩
  | .ok body =>
    let (r, events) := e.substitute body values
    ⟨r, e', loaded.events ++ events⟩

/-- What a report on missing values is, unless nothing is missing. -/
def incompleteEvents (name lang : String) (missing : List String) : List Event :=
  if missing.isEmpty then [] else [.incomplete name lang missing]

/-- Loads a template and replaces its placeholders; missing values are reported as an event. -/
def renderText (disk : FileTree) (e : Engine) (name lang : String) (values : Variables) :
    Step (Except Fault String) Engine :=
  let step := e.renderReport disk name lang values
  match step.result with
  | .error fault => ⟨.error fault, step.state, step.events⟩
  | .ok r => ⟨.ok r.output, step.state, step.events ++ incompleteEvents name lang r.missing⟩

/-! ## §4. Mails -/

/-- The body and the subject line of a mail. -/
structure Composed where
  html : String
  subject : String
  lang : String
  /-- the values missing from body or subject line, each once -/
  missing : List String
  deriving DecidableEq, Repr

/-- Names, and those of a second list that are not among them. -/
def joinMissing (first second : List String) : List String :=
  first ++ second.filter (fun n => !first.contains n)

/-- Renders the body and the subject line of a mail. -/
def composeMail (disk : FileTree) (e : Engine) (name lang : String) (values : Variables) :
    Step (Except Fault Composed) Engine :=
  let body := e.renderReport disk name lang values
  match body.result with
  | .error fault => ⟨.error fault, body.state, body.events⟩
  | .ok html =>
    let (line, events) := body.state.substitute (e.subjects.resolve name lang) values
    match line with
    | .error fault => ⟨.error fault, body.state, body.events ++ events⟩
    | .ok subject =>
      let missing := joinMissing html.missing subject.missing
      { result := .ok
          { html := html.output
            subject := subject.output
            lang := Language.orDefault lang e.defaultLang
            missing := missing }
        state := body.state
        events := body.events ++ events ++ incompleteEvents name lang missing }

end Engine

end LocalizedMail.Template
