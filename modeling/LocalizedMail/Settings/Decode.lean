import LocalizedMail.Settings.Basic
import LocalizedMail.Settings.Conversion

/-!
# Sections of settings

A section is read from a table, whose entries have the names of its settings, or from a list of its
settings in order.  A missing setting has its own value; entries of other names do not matter.  A
complaint about a setting names the way to it.
-/

namespace LocalizedMail.Settings

/-! ## §1. Where a fault is -/

/-- The way to a setting with one more step in front of it. -/
def joinKey (step : String) (key : Option String) : String :=
  match key with
  | none => step
  | some k => if k.toList.head? = some '[' then step ++ k else step ++ "." ++ k

/-- A fault seen from one step further away. -/
def Fault.below (step : String) : Fault → Fault
  | .wrongType found expected key origin => .wrongType found expected (some (joinKey step key)) origin
  | .notSet key => .notSet (joinKey step (some key))
  | fault => fault

/-- A result seen from one step further away. -/
def below {α : Type} (step : String) (r : Except Fault α) : Except Fault α :=
  match r with
  | .ok a => .ok a
  | .error fault => .error (fault.below step)

/-! ## §2. Sections -/

/-- A value in the words in which a whole section or table is refused. -/
def Value.kindName : Value → String
  | .bool _ b => "boolean `" ++ truthName b ++ "`"
  | .whole _ n => "integer `" ++ String.ofList (Json.wholeText n) ++ "`"
  | .float _ x => "floating point `" ++ Binary64.Layout.pointed.text x ++ "`"
  | v => v.found.message

/-- The complaint that a value is no section or table. -/
def Value.refusedAs (v : Value) (expected : String) : Fault :=
  .other ("invalid type: " ++ v.kindName ++ ", expected " ++ expected)

/-- Where the settings of a section are found. -/
inductive Fields where
  | named (entries : List (String × Value))
  | ordered (items : List Value)

/-- The settings of a section. -/
def Value.asSection (kind : String) (v : Value) : Except Fault Fields :=
  match v with
  | .table _ es => .ok (.named es)
  | .list _ vs => .ok (.ordered vs)
  | v => .error (v.refusedAs ("struct " ++ kind))

/-- The value of a setting, and the step that leads to it. -/
def Fields.find? (fs : Fields) (position : Nat) (name : String) : Option (String × Value) :=
  match fs with
  | .named es => (es.lookup name).map fun v => (name, v)
  | .ordered vs => vs[position]?.map fun v => ("[" ++ toString position ++ "]", v)

/-- A setting that may be missing. -/
def Fields.get {α : Type} (fs : Fields) (position : Nat) (name : String)
    (read : Value → Except Fault α) (instead : α) : Except Fault α :=
  match fs.find? position name with
  | some (step, v) => below step (read v)
  | none => .ok instead

/-- An optional text, which may only be missing where settings have names. -/
def Fields.getOptionalText (fs : Fields) (position : Nat) (name kind : String) (size : Nat) :
    Except Fault (Option String) :=
  match fs, fs.find? position name with
  | _, some (step, v) => below step v.asOptionalText
  | .named _, none => .ok none
  | .ordered _, none =>
    .error (.other ("invalid length " ++ toString position ++ ", expected struct " ++ kind ++
      " with " ++ toString size ++ " elements"))

/-- The texts of a table. -/
def textEntries : List (String × Value) → Except Fault (List (String × String))
  | [] => .ok []
  | (name, v) :: rest => do
    let s ← below name v.asText
    let more ← textEntries rest
    pure ((name, s) :: more)

/-- A value as table of texts. -/
def Value.asTexts (v : Value) : Except Fault (Table String String) :=
  match v with
  | .table _ es => (textEntries es).map .ofList
  | v => .error (v.refusedAs "a map")

/-! ## §3. The four sections -/

/-- The section on templates. -/
def Templates.ofValue (v : Value) : Except Fault Templates := do
  let fs ← v.asSection "TemplatesConfig"
  let d : Templates := {}
  pure
    { defaultLang := ← fs.get 0 "default_lang" Value.asText d.defaultLang
      root := ← fs.get 1 "templates_path" Value.asText d.root
      defaults := ← fs.get 2 "defaults" Value.asTexts d.defaults
      strict := ← fs.get 3 "strict" Value.asBool d.strict }

/-- The section on the mail server. -/
def Smtp.ofValue (v : Value) : Except Fault Smtp := do
  let kind := "SmtpConfig"
  let fs ← v.asSection kind
  let d : Smtp := {}
  pure
    { host := ← fs.get 0 "host" Value.asText d.host
      port := ← fs.get 1 "port" (Value.asNarrow 16) d.port
      username := ← fs.getOptionalText 2 "username" kind 7
      password := ← fs.getOptionalText 3 "password" kind 7
      tls := ← fs.get 4 "tls" (Value.asChoice "TlsMode" tlsModes) d.tls
      sender := ← fs.get 5 "from" Value.asText d.sender
      timeoutSeconds := ← fs.get 6 "timeout_seconds" Value.asUnsigned d.timeoutSeconds }

/-- The section on retries. -/
def Retry.ofValue (v : Value) : Except Fault Retry := do
  let fs ← v.asSection "RetryConfig"
  let d : Retry := {}
  pure
    { maxAttempts := ← fs.get 0 "max_attempts" (Value.asNarrow 32) d.maxAttempts
      initialDelayMs := ← fs.get 1 "initial_delay_ms" Value.asUnsigned d.initialDelayMs
      multiplier := ← fs.get 2 "multiplier" Value.asFloat d.multiplier
      maxDelayMs := ← fs.get 3 "max_delay_ms" Value.asUnsigned d.maxDelayMs
      bulkDelayMs := ← fs.get 4 "bulk_delay_ms" Value.asUnsigned d.bulkDelayMs }

/-- The section on log lines. -/
def Logging.ofValue (v : Value) : Except Fault Logging := do
  let fs ← v.asSection "LoggingConfig"
  pure { format := ← fs.get 0 "format" (Value.asChoice "LogFormat" logFormats) .pretty }

end Settings

/-- All settings. -/
def Settings.ofValue (v : Settings.Value) : Except Settings.Fault Settings := do
  let fs := Settings.Fields.named v.entries
  pure
    { templates := ← fs.get 0 "templates" Settings.Templates.ofValue {}
      smtp := ← fs.get 1 "smtp" Settings.Smtp.ofValue {}
      retry := ← fs.get 2 "retry" Settings.Retry.ofValue {}
      logging := ← fs.get 3 "logging" Settings.Logging.ofValue {} }

end LocalizedMail
