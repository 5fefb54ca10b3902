import LocalizedMail.Mail.Transport
import LocalizedMail.Settings.Basic
import LocalizedMail.Template.Fault

/-!
# Events

Operations report what happens while they run as a list of events, oldest first.  Counters and log
lines are views of that list, and neither influences what an operation does.

`Step` is what an operation returns: its result, the state it leaves and its events.
-/

namespace LocalizedMail

/-- Where the body of a template was served from. -/
inductive Tier where
  | memory
  | cache
  | disk
  deriving DecidableEq, Repr

/-- Something that happened. -/
inductive Event where
  /-- log lines are written from now on -/
  | loggingReady (format : Settings.LogFormat)
  /-- the settings were loaded -/
  | settingsLoaded
  /-- all documents of subject lines were read -/
  | subjectsLoaded (count : Nat)
  /-- an engine accepted its configuration -/
  | engineReady (root defaultLang : String) (strict : Bool)
  /-- a body was registered under a directory -/
  | registered (template directory : String)
  /-- no directory of the requested language had the template -/
  | fellBack (template lang defaultLang : String)
  /-- a body was served -/
  | served (tier : Tier)
  /-- a body was read from a file -/
  | bodyRead (template directory path : String)
  /-- a file of a template could not be read -/
  | unreadable (template path : String) (fault : FileFault)
  /-- no directory at all had the template -/
  | notFound
  /-- all cached bodies were dropped -/
  | cacheCleared (dropped : Nat)
  /-- the cached bodies of one template were dropped -/
  | templateCleared (template lang : String)
  /-- subject lines were read from a file -/
  | subjectsRead (lang path : String) (count : Nat)
  /-- placeholders were replaced, some of them without a value -/
  | rendered (missing : Nat)
  /-- a caller got a text in which values are missing -/
  | incomplete (template lang : String) (missing : List String)
  /-- a mail could not be put together -/
  | composeFailed (template : String) (fault : Template.Fault)
  /-- a transport was set up -/
  | transportReady (host : String) (port : Nat) (mode : Settings.TlsMode)
  /-- a letter was handed to the transport -/
  | attempted (letter : Mail.Letter)
  /-- time passed, in which nothing was done -/
  | paused (ms : Nat)
  /-- the transport accepted a mail; the number of attempts, where attempts are counted -/
  | sent (recipients : List String) (attempts : Option Nat)
  /-- one of several attempts failed -/
  | attemptFailed (attempt : Nat) (fault : Mail.DeliveryFault)
  /-- another attempt is to be made after a delay -/
  | retrying (attempt delayMs : Nat)
  /-- a mail was given up -/
  | failed
  /-- the only attempt failed -/
  | sendFailed (fault : Mail.DeliveryFault)
  /-- a bulk send came to its end -/
  | bulkFinished (sent failed : Nat)

/-- What an operation returns: a result, the state it leaves, and what happened. -/
structure Step (α σ : Type) where
  result : α
  state : σ
  events : List Event := []

/-- The same step with a function applied to its result. -/
def Step.map {α β σ : Type} (f : α → β) (s : Step α σ) : Step β σ :=
  ⟨f s.result, s.state, s.events⟩

end LocalizedMail
