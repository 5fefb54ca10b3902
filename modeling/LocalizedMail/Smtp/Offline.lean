import LocalizedMail.Smtp.Library
import LocalizedMail.Smtp.Mailbox

/-!
# A library without a network

The library with which the program runs here reads addresses and makes messages, but reaches no
server.

The envelope of a message is read off its headers.  A header that does not read back counts as
absent, and the next mailbox of its kind begins it anew.  So the envelope can lack mailboxes that
were added, and there is no message whose envelope lacks the sender, or everyone else.
-/

namespace LocalizedMail.Smtp

/-- The mailboxes that a header spells; none, if one of them does not read back. -/
def readBack (mailboxes : List Mailbox) : List Mailbox :=
  (mailboxes.mapM Mailbox.reread).getD []

/-- Mailboxes in headers, and a subject. -/
structure Headers where
  mailboxes : Field → List Mailbox
  subject : String

namespace Headers

/-- No headers yet. -/
def none : Headers := ⟨fun _ => [], ""⟩

/-- Adds a mailbox to those that a header spells. -/
def add (field : Field) (m : Mailbox) (h : Headers) : Headers :=
  { h with mailboxes := fun f =>
      if f = field then readBack (h.mailboxes f) ++ [m] else h.mailboxes f }

end Headers

/-- The route that headers describe, or why there is none. -/
def Headers.route (h : Headers) : Except String Route :=
  match readBack (h.mailboxes .sender) with
  | [] => .error "missing source address, invalid envelope"
  | sender :: _ =>
    let recipients := readBack (h.mailboxes .addressees) ++ readBack (h.mailboxes .cc) ++
      readBack (h.mailboxes .bcc)
    if recipients.isEmpty then .error "missing destination address, invalid envelope"
    else .ok ⟨sender.address, recipients.map Mailbox.address⟩

/-- The library that reaches no server.  All that there is of a message is its route. -/
def Library.offline : Library where
  Mailbox := Smtp.Mailbox
  Draft := Headers
  Message := Route
  State := Unit
  start _ := .ok ()
  parse s := (Smtp.Mailbox.parse s).mapError Smtp.Mailbox.Fault.message
  draft := .none
  add := Headers.add
  subject s h := { h with subject := s }
  build _ h state := (h.route, state)
  send _ := .ended (.error ⟨false, "Connection error: Network is unreachable (os error 101)"⟩)

end LocalizedMail.Smtp
