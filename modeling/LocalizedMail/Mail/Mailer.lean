import LocalizedMail.Mail.Backoff
import LocalizedMail.Mail.Fault
import LocalizedMail.Template.Engine

/-!
# The mailer

A mailer renders a template, puts the result into a letter and hands the letter to a transport.

  * `send` makes one attempt;
  * `sendWithRetry` goes on after transient failures, with growing delays, until its attempts are
    used up; a delivery failure is part of its outcome, only a template failure is an error;
  * `sendBulk` sends one mail to each of many recipients; all letters are composed before the first
    is delivered, so a template failure leaves nothing half sent.

What an operation does to the world shows in its events: attempted deliveries and pauses.
-/

namespace LocalizedMail.Mail

open Placeholder (Variables)

/-! ## §1. What is sent -/

/-- One mail to be sent from a template. -/
structure Request where
  template : String
  /-- a blank language asks for the default -/
  lang : String := ""
  values : Variables := .empty
  envelope : Envelope := {}
  /-- a plain-text alternative -/
  text : Option String := none

/-- One recipient of a bulk send. -/
structure Recipient where
  email : String
  /-- values over the shared ones -/
  values : Variables := .empty

/-- What the mails of a bulk send have in common. -/
structure BulkRequest where
  template : String
  lang : String := ""
  values : Variables := .empty
  /-- sender and copies; the addressees are replaced -/
  envelope : Envelope := {}
  /-- attempts for each recipient, where they are not the configured ones -/
  maxAttempts : Option Nat := none
  /-- the pause between recipients in whole milliseconds, where it is not the configured one -/
  delayMs : Option Nat := none

/-- The mail of a bulk send for one recipient. -/
def BulkRequest.mailFor (b : BulkRequest) (r : Recipient) : Request where
  template := b.template
  lang := b.lang
  values := b.values.merge r.values
  envelope := b.envelope.withRecipient r.email

/-! ## §2. What comes of it -/

/-- How a delivery with retries ended. -/
structure Outcome where
  recipients : List String
  /-- attempts made, the first one included -/
  attempts : Nat
  /-- the receipt, or the failure of the last attempt -/
  result : Except DeliveryFault Receipt

/-- Whether a delivery succeeded. -/
def Outcome.success (o : Outcome) : Bool := o.result.toBool

/-- The outcomes of a bulk send, in order of the recipients. -/
structure BulkReport where
  outcomes : List Outcome

/-- The number of mails that were delivered. -/
def BulkReport.sent (r : BulkReport) : Nat := r.outcomes.countP Outcome.success

/-- The number of mails. -/
def BulkReport.total (r : BulkReport) : Nat := r.outcomes.length

/-- The number of mails that were not delivered. -/
def BulkReport.failed (r : BulkReport) : Nat := r.total - r.sent

/-- What a mailer has done so far. -/
structure Stats where
  sent : Nat := 0
  failed : Nat := 0
  retries : Nat := 0
  templateErrors : Nat := 0
  deriving DecidableEq, Repr

/-- An engine, a connection with a state, rules for retries, and counts. -/
structure Mailer (σ : Type) where
  engine : Template.Engine
  retry : Settings.Retry
  link : σ
  stats : Stats := {}

namespace Mailer

variable {σ : Type}

/-- The mailer with other counts. -/
def withStats (m : Mailer σ) (f : Stats → Stats) : Mailer σ := { m with stats := f m.stats }

/-! ## §3. Composing -/

/-- Renders a mail and puts it into a letter. -/
def compose (disk : FileTree) (m : Mailer σ) (r : Request) :
    Step (Except Fault Letter) (Mailer σ) :=
  let step := m.engine.composeMail disk r.template r.lang r.values
  let m' := { m with engine := step.state }
  match step.result with
  | .error fault =>
    { result := .error (.template fault)
      state := m'.withStats fun s => { s with templateErrors := s.templateErrors + 1 }
      events := step.events ++ [.composeFailed r.template fault] }
  | .ok composed =>
    ⟨.ok ⟨r.envelope, composed.subject, composed.html, r.text⟩, m', step.events⟩

/-- Renders mails up to the first that fails. -/
def composeAll (disk : FileTree) (m : Mailer σ) :
    List Request → Step (Except Fault (List Letter)) (Mailer σ)
  | [] => ⟨.ok [], m, []⟩
  | r :: rest =>
    let step := m.compose disk r
    match step.result with
    | .error fault => ⟨.error fault, step.state, step.events⟩
    | .ok letter =>
      let others := composeAll disk step.state rest
      ⟨others.result.map (letter :: ·), others.state, step.events ++ others.events⟩

/-! ## §4. Delivering -/

/-- Attempts a delivery, which is attempt number `attempt`, and after transient failures up to
`left` more. -/
def attempts (transport : Transport σ) (letter : Letter) (left attempt : Nat) (backoff : Backoff)
    (link : σ) : Step Outcome σ :=
  let recipients := letter.envelope.recipients
  match transport.deliver letter link with
  | (.ok receipt, link) =>
    ⟨⟨recipients, attempt, .ok receipt⟩, link,
      [.attempted letter, .sent receipt.recipients (some attempt)]⟩
  | (.error fault, link) =>
    match fault.isRetryable, left with
    | true, left + 1 =>
      let (delay, backoff) := backoff.next
      let rest := attempts transport letter left (attempt + 1) backoff link
      { rest with
        events := [.attempted letter, .attemptFailed attempt fault, .retrying (attempt + 1) delay,
          .paused delay] ++ rest.events }
    | _, _ =>
      ⟨⟨recipients, attempt, .error fault⟩, link,
        [.attempted letter, .attemptFailed attempt fault, .failed]⟩

/-- The counts after a delivery with retries. -/
def Stats.afterOutcome (s : Stats) (o : Outcome) : Stats :=
  let s := { s with retries := s.retries + (o.attempts - 1) }
  if o.success then { s with sent := s.sent + 1 } else { s with failed := s.failed + 1 }

/-- Delivers a letter in at most `maxAttempts` attempts, at least one. -/
def deliver (transport : Transport σ) (m : Mailer σ) (letter : Letter) (maxAttempts : Nat) :
    Step Outcome (Mailer σ) :=
  let step := attempts transport letter (maxAttempts - 1) 1
    (.start (.ofRetry m.retry)) m.link
  { result := step.result
    state := { m with link := step.state, stats := Stats.afterOutcome m.stats step.result }
    events := step.events }

/-- Delivers letters one after the other, with a pause between them. -/
def deliverAll (transport : Transport σ) (m : Mailer σ) (maxAttempts delayMs : Nat) :
    Bool → List Letter → Step (List Outcome) (Mailer σ)
  | _, [] => ⟨[], m, []⟩
  | first, letter :: rest =>
    let pause := if first || delayMs = 0 then [] else [Event.paused delayMs]
    let step := m.deliver transport letter maxAttempts
    let others := deliverAll transport step.state maxAttempts delayMs false rest
    ⟨step.result :: others.result, others.state, pause ++ step.events ++ others.events⟩

/-! ## §5. Sending -/

/-- Sends one mail in one attempt. -/
def send (disk : FileTree) (transport : Transport σ) (m : Mailer σ) (r : Request) :
    Step (Except Fault Receipt) (Mailer σ) :=
  let step := m.compose disk r
  match step.result with
  | .error fault => ⟨.error fault, step.state, step.events⟩
  | .ok letter =>
    match transport.deliver letter step.state.link with
    | (.ok receipt, link) =>
      { result := .ok receipt
        state := { step.state with link := link }.withStats
          fun s => { s with sent := s.sent + 1 }
        events := step.events ++ [.attempted letter, .sent receipt.recipients none] }
    | (.error fault, link) =>
      { result := .error (.delivery fault)
        state := { step.state with link := link }.withStats
          fun s => { s with failed := s.failed + 1 }
        events := step.events ++ [.attempted letter, .sendFailed fault] }

/-- Sends one mail, again and again after transient failures. -/
def sendWithRetry (disk : FileTree) (transport : Transport σ) (m : Mailer σ) (r : Request)
    (maxAttempts : Nat) : Step (Except Fault Outcome) (Mailer σ) :=
  let step := m.compose disk r
  match step.result with
  | .error fault => ⟨.error fault, step.state, step.events⟩
  | .ok letter =>
    let delivery := step.state.deliver transport letter maxAttempts
    ⟨.ok delivery.result, delivery.state, step.events ++ delivery.events⟩

/-- Sends one mail to each recipient. -/
def sendBulk (disk : FileTree) (transport : Transport σ) (m : Mailer σ) (b : BulkRequest)
    (recipients : List Recipient) : Step (Except Fault BulkReport) (Mailer σ) :=
  let step := m.composeAll disk (recipients.map b.mailFor)
  match step.result with
  | .error fault => ⟨.error fault, step.state, step.events⟩
  | .ok letters =>
    let delivery := step.state.deliverAll transport (b.maxAttempts.getD m.retry.maxAttempts)
      (b.delayMs.getD m.retry.bulkDelayMs) true letters
    let report : BulkReport := ⟨delivery.result⟩
    ⟨.ok report, delivery.state,
      step.events ++ delivery.events ++ [.bulkFinished report.sent report.failed]⟩

end Mailer

end LocalizedMail.Mail
