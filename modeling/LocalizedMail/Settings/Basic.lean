import LocalizedMail.Binary64.Basic
import LocalizedMail.Table

/-!
# Settings

The four sections of settings and the value of each setting that nobody sets.
-/

namespace LocalizedMail.Settings

/-- How a connection to a mail server is secured. -/
inductive TlsMode where
  | none
  | starttls
  | tls
  deriving DecidableEq, Repr

/-- The name of a mode in a settings document. -/
def TlsMode.name : TlsMode → String
  | .none => "none"
  | .starttls => "starttls"
  | .tls => "tls"

/-- How log lines are laid out. -/
inductive LogFormat where
  | pretty
  | json
  deriving DecidableEq, Repr

/-- The name of a layout in a settings document. -/
def LogFormat.name : LogFormat → String
  | .pretty => "pretty"
  | .json => "json"

/-- The ways to secure a connection, by name. -/
def tlsModes : List (String × TlsMode) :=
  [TlsMode.none, .starttls, .tls].map fun m => (m.name, m)

/-- The layouts of log lines, by name. -/
def logFormats : List (String × LogFormat) :=
  [LogFormat.pretty, .json].map fun f => (f.name, f)

/-- Where templates are and how they are rendered. -/
structure Templates where
  /-- the language tried after the requested one -/
  defaultLang : String := "en"
  /-- the directory that holds one directory for each language -/
  root : String := "templates"
  /-- values of placeholders, over the built-in ones -/
  defaults : Table String String := .empty
  /-- whether a missing value fails a rendering -/
  strict : Bool := false
  deriving DecidableEq

/-- How to reach the mail server. -/
structure Smtp where
  host : String := "localhost"
  port : Nat := 587
  username : Option String := none
  password : Option String := none
  tls : TlsMode := .starttls
  /-- the sender of mails that name none -/
  sender : String := "no-reply@localhost"
  timeoutSeconds : Nat := 30
  deriving DecidableEq

/-- How deliveries are repeated. -/
structure Retry where
  /-- attempts, the first one included -/
  maxAttempts : Nat := 3
  initialDelayMs : Nat := 1000
  multiplier : Binary64 := .ofNat 2
  maxDelayMs : Nat := 30000
  /-- the pause between the recipients of a bulk send -/
  bulkDelayMs : Nat := 0
  deriving DecidableEq

/-- How log lines are written. -/
structure Logging where
  format : LogFormat := .pretty
  deriving DecidableEq

end LocalizedMail.Settings

namespace LocalizedMail

/-- All settings. -/
structure Settings where
  templates : Settings.Templates := {}
  smtp : Settings.Smtp := {}
  retry : Settings.Retry := {}
  logging : Settings.Logging := {}
  deriving DecidableEq

end LocalizedMail
