import LocalizedMail.Event
import LocalizedMail.Json.Value
import LocalizedMail.Settings.Basic
import LocalizedMail.Text.Quoted

/-!
# Log lines

A log line is the report of an event: how serious it is, which part of the program speaks, a message
and some fields.  Not every event is reported.
-/

namespace LocalizedMail.Log

/-! ## §1. Lines -/

/-- How serious a line is. -/
inductive Level where
  | trace
  | debug
  | info
  | warn
  | error
  deriving DecidableEq, Repr

namespace Level

/-- All levels, the least serious first. -/
def all : List Level := [trace, debug, info, warn, error]

/-- The name of a level. -/
def name : Level → String
  | trace => "TRACE"
  | debug => "DEBUG"
  | info => "INFO"
  | warn => "WARN"
  | error => "ERROR"

/-- The level of a name in letters of either case. -/
def ofName? (s : String) : Option Level :=
  all.find? fun l => l.name = s.map Char.toUpper

/-- The place of a level in order of seriousness. -/
def rank : Level → Nat
  | trace => 0
  | debug => 1
  | info => 2
  | warn => 3
  | error => 4

end Level

/-- The parts of the program that speak. -/
inductive Speaker where
  | program
  | logging
  | engine
  | store
  | subjects
  | transport
  | mailer
  deriving DecidableEq, Repr

/-- The name under which a part of the program speaks. -/
def Speaker.target : Speaker → String
  | program => "ara_mailer"
  | logging => "ara_mailer::telemetry"
  | engine => "ara_mailer::template::engine"
  | store => "ara_mailer::template::store"
  | subjects => "ara_mailer::template::subjects"
  | transport => "ara_mailer::mailer::transport"
  | mailer => "ara_mailer::mailer::dispatcher"

/-- A log line. -/
structure Line where
  level : Level
  speaker : Speaker
  message : String
  fields : List (String × Json) := []

/-- A line as a data document. -/
def Line.report (l : Line) : Json :=
  .object [("level", .text l.level.name), ("target", .text l.speaker.target),
    ("fields", .object (("message", .text l.message) :: l.fields))]

/-- The value of a field on a plain line. -/
def plainValue : Json → String
  | .text s => s
  | j => j.compact

/-- A line as plain text. -/
def Line.plain (l : Line) : String :=
  String.intercalate " " <|
    [l.level.name, l.speaker.target ++ ":", l.message] ++
      l.fields.map fun f => f.1 ++ "=" ++ plainValue f.2

/-- A line in one of the two layouts. -/
def Line.layOut (format : Settings.LogFormat) (l : Line) : String :=
  match format with
  | .pretty => l.plain
  | .json => l.report.compact

/-! ## §2. Events as lines -/

/-- The name of a layout in a log line. -/
def formatName : Settings.LogFormat → String
  | .pretty => "Pretty"
  | .json => "Json"

/-- The name of a way to secure a connection in a log line. -/
def tlsName : Settings.TlsMode → String
  | .none => "None"
  | .starttls => "Starttls"
  | .tls => "Tls"

/-- A field that holds a number. -/
def number (name : String) (n : Nat) : String × Json := (name, .whole n)

/-- A field that holds a text. -/
def text (name value : String) : String × Json := (name, .text value)

/-- The line of an event, if it is reported. -/
def line? : Event → Option Line
  | .loggingReady format =>
    some ⟨.debug, .logging, "Tracing initialized", [text "format" (formatName format)]⟩
  | .settingsLoaded => some ⟨.debug, .program, "Configuration loaded", []⟩
  | .subjectsLoaded count =>
    some ⟨.debug, .program, "Subject lines loaded", [number "subjects" count]⟩
  | .engineReady root lang strict =>
    some ⟨.debug, .engine, "Template engine initialized",
      [text "templates_path" root, text "default_lang" lang, ("strict", .bool strict)]⟩
  | .registered template lang =>
    some ⟨.debug, .store, "Registered in-memory template",
      [text "template" template, text "lang" lang]⟩
  | .fellBack template lang defaultLang =>
    some ⟨.debug, .store, "Falling back to default language",
      [text "template" template, text "lang" lang, text "default_lang" defaultLang]⟩
  | .bodyRead template directory path =>
    some ⟨.debug, .store, "Loaded template from disk",
      [text "template" template, text "candidate" directory, text "path" path]⟩
  | .unreadable template path fault =>
    some ⟨.warn, .store, "Failed to read template file",
      [text "template" template, text "path" path, text "error" fault.message]⟩
  | .cacheCleared dropped =>
    some ⟨.debug, .store, "Cleared template cache", [number "dropped" dropped]⟩
  | .templateCleared template lang =>
    some ⟨.debug, .store, "Cleared cached template",
      [text "template" template, text "lang" lang]⟩
  | .subjectsRead lang path count =>
    some ⟨.debug, .subjects, "Loaded subject lines",
      [text "lang" lang, text "path" path, number "count" count]⟩
  | .incomplete template lang missing =>
    some ⟨.warn, .engine, "Template rendered with missing variables",
      [text "template" template, text "lang" lang,
        text "missing" (String.intercalate ", " missing)]⟩
  | .composeFailed template fault =>
    some ⟨.error, .mailer, "Failed to compile mail",
      [text "template" template, text "error" fault.message]⟩
  | .transportReady host port mode =>
    some ⟨.info, .transport, "SMTP transport configured",
      [text "host" host, number "port" port, text "tls" (tlsName mode)]⟩
  | .sent recipients attempts =>
    some ⟨.info, .mailer, "Mail sent",
      text "recipients" (Text.quotedList recipients) :: (attempts.map (number "attempts")).toList⟩
  | .sendFailed fault =>
    some ⟨.warn, .mailer, "Mail delivery failed", [text "error" fault.message]⟩
  | .attemptFailed attempt fault =>
    some ⟨.warn, .mailer, "Delivery attempt failed",
      [number "attempt" attempt, text "error" fault.message]⟩
  | .retrying attempt delayMs =>
    some ⟨.debug, .mailer, "Retrying delivery",
      [number "attempt" attempt, number "delay_ms" delayMs]⟩
  | .bulkFinished sent failed =>
    some ⟨.info, .mailer, "Bulk send finished", [number "sent" sent, number "failed" failed]⟩
  | .served _ | .notFound | .rendered _ | .attempted _ | .paused _ | .failed => none

/-- The layout of the lines of events: the one that a line announces, or the plain one. -/
def formatOf (events : List Event) : Settings.LogFormat :=
  (events.findSome? fun e => match e with | .loggingReady f => some f | _ => none).getD .pretty

end LocalizedMail.Log
