import LocalizedMail.Json.Reader
import LocalizedMail.Settings.Basic

/-!
# Documents that are settings

A document can also be read as settings and nothing else, without any layers.  Then every value must
have the type that its setting wants, names are taken as they are written, and no setting may come
twice.  Settings of other names are passed over.  A section may also be a list of its settings in
order, which may stop early as long as only settings with a value of their own are left out.

The document is read once, from left to right, and the first fault ends the reading.
-/

namespace LocalizedMail.Settings

open Json (Reader)

/-! ## §1. Values -/

/-- A truth value. -/
def strictBool : Reader Bool := do
  match ← Json.peekPastGap? with
  | none => Json.failNext .endInValue
  | some 't' | some 'f' =>
    match ← Json.value false 0 with
    | .bool b => pure b
    | _ => Json.failHere .expectedValue
  | some _ => Json.refuse "a boolean"

/-- A number that is next. -/
def strictNumber (expected : String) : Reader Json := do
  match ← Json.peekPastGap? with
  | none => Json.failNext .endInValue
  | some c => if c = '-' || c.isDigit then Json.number false else Json.refuse expected

/-- A whole number of some bits without a sign. -/
def strictUnsigned (bits : Nat) : Reader Nat := do
  let expected := "u" ++ toString bits
  match ← strictNumber expected with
  | .whole n =>
    if 0 ≤ n ∧ n < Int.ofNat (Nat.pow 2 bits) then pure n.toNat
    else
      Json.failHere (.unfit ("invalid value: integer `" ++ String.ofList (Json.wholeText n) ++
        "`, expected " ++ expected))
  | .float x =>
    Json.failHere (.wrongType ("floating point `" ++ String.ofList (Json.floatText x) ++ "`")
      expected)
  | _ => Json.failHere .expectedValue

/-- A binary64 number. -/
def strictFloat : Reader Binary64 := do
  match ← strictNumber "f64" with
  | .whole n => pure (.ofInt n)
  | .float x => pure x
  | _ => Json.failHere .expectedValue

/-- Nothing at all. -/
def strictNothing : Reader Unit := do
  match ← Json.peekPastGap? with
  | none => Json.failNext .endInValue
  | some 'n' => Json.drop; Json.literalRest ['u', 'l', 'l']
  | some _ => Json.refuse "unit"

/-- A text that may be missing. -/
def strictOptionalText : Reader (Option String) := do
  match ← Json.peekPastGap? with
  | some 'n' => strictNothing; pure none
  | _ => some <$> Json.textValue

/-- The choice of a name. -/
def strictName {α : Type} (choices : List (String × α)) : Reader α := do
  let name ← Json.textValue
  match choices.lookup name with
  | some a => pure a
  | none => Json.failHere (.unfit ("unknown variant `" ++ name ++ "`"))

/-- One of several names, alone or as the only field, without a value, of an object. -/
def strictChoice {α : Type} (choices : List (String × α)) : Reader α := do
  match ← Json.peekPastGap? with
  | none => Json.failNext .endInValue
  | some '"' => strictName choices
  | some '\x7b' =>
    Json.drop
    let a ← strictName choices
    Json.colon
    strictNothing
    match ← Json.peekPastGap? with
    | none => Json.failHere .endInObject
    | some '\x7d' => Json.drop; pure a
    | some _ => Json.failHere .expectedValue
  | some _ => Json.failNext .expectedValue

/-! ## §2. Sections -/

/-- A setting of a section `σ`: its name, how it is read, and whether a list may leave it out. -/
structure Setting (σ : Type) where
  name : String
  read : σ → Reader σ
  hasDefault : Bool := true

/-- A setting that replaces a part of its section. -/
def setting {σ α : Type} (name : String) (value : Reader α) (put : σ → α → σ) : Setting σ :=
  ⟨name, fun s => (put s) <$> value, true⟩

/-- The settings of a section by name; `fuel` bounds their number. -/
def strictFields {σ : Type} (known : List (Setting σ)) :
    Nat → Bool → List String → σ → Reader σ
  | 0, _, _, _ => Json.failNext .endInObject
  | fuel + 1, first, seen, s => do
    match ← Json.fieldName? false first with
    | none => Json.endObject; pure s
    | some name =>
      match known.find? fun k => k.name == name with
      | none => Json.colon; Json.skipValue; strictFields known fuel false seen s
      | some k =>
        if seen.contains name then Json.failHere (.unfit ("duplicate field `" ++ name ++ "`"))
        else
          Json.colon
          let s ← k.read s
          strictFields known fuel false (name :: seen) s

/-- The settings of a section in order. -/
def strictItems {σ : Type} (known : List (Setting σ)) (first : Bool) (s : σ) : Reader σ := do
  match known with
  | [] => Json.endList; pure s
  | k :: rest =>
    if ← Json.hasItem first then
      let s ← k.read s
      strictItems rest false s
    else if k.hasDefault then strictItems rest first s
    else Json.failHere (.unfit ("missing setting `" ++ k.name ++ "`"))

/-- A section, whose settings have the values in `s` until they are read. -/
def strictSection {σ : Type} (known : List (Setting σ)) (s : σ) : Reader σ := do
  match ← Json.peekPastGap? with
  | none => Json.failNext .endInValue
  | some '[' => Json.drop; strictItems known true s
  | some '\x7b' => Json.drop; strictFields known ((← Json.remaining) + 1) true [] s
  | some _ => Json.refuse "a section"

/-- A table of texts. -/
def strictTexts : Reader (Table String String) := Table.ofList <$> Json.textFields

/-! ## §3. The four sections -/

/-- The settings of the section on templates. -/
def Templates.settings : List (Setting Templates) := [
  setting "default_lang" Json.textValue fun s v => { s with defaultLang := v },
  setting "templates_path" Json.textValue fun s v => { s with root := v },
  setting "defaults" strictTexts fun s v => { s with defaults := v },
  setting "strict" strictBool fun s v => { s with strict := v }]

/-- The settings of the section on the mail server. -/
def Smtp.settings : List (Setting Smtp) := [
  setting "host" Json.textValue fun s v => { s with host := v },
  setting "port" (strictUnsigned 16) fun s v => { s with port := v },
  { setting "username" strictOptionalText fun s v => { s with username := v } with
    hasDefault := false },
  { setting "password" strictOptionalText fun s v => { s with password := v } with
    hasDefault := false },
  setting "tls" (strictChoice tlsModes) fun s v => { s with tls := v },
  setting "from" Json.textValue fun s v => { s with sender := v },
  setting "timeout_seconds" (strictUnsigned 64) fun s v => { s with timeoutSeconds := v }]

/-- The settings of the section on retries. -/
def Retry.settings : List (Setting Retry) := [
  setting "max_attempts" (strictUnsigned 32) fun s v => { s with maxAttempts := v },
  setting "initial_delay_ms" (strictUnsigned 64) fun s v => { s with initialDelayMs := v },
  setting "multiplier" strictFloat fun s v => { s with multiplier := v },
  setting "max_delay_ms" (strictUnsigned 64) fun s v => { s with maxDelayMs := v },
  setting "bulk_delay_ms" (strictUnsigned 64) fun s v => { s with bulkDelayMs := v }]

/-- The settings of the section on log lines. -/
def Logging.settings : List (Setting Logging) := [
  setting "format" (strictChoice logFormats) fun s v => { s with format := v }]

/-- The sections. -/
def sections : List (Setting Settings) := [
  setting "templates" (strictSection Templates.settings {}) fun s v => { s with templates := v },
  setting "smtp" (strictSection Smtp.settings {}) fun s v => { s with smtp := v },
  setting "retry" (strictSection Retry.settings {}) fun s v => { s with retry := v },
  setting "logging" (strictSection Logging.settings {}) fun s v => { s with logging := v }]

/-- The settings that a document is. -/
def ofDocument (text : String) : Except Json.Fault Settings :=
  Json.document (strictSection sections {}) text

end LocalizedMail.Settings
