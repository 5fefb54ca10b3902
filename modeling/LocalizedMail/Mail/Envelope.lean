/-!
# Envelopes and letters

An envelope says who a mail comes from and goes to; a letter is an envelope, a subject line, an HTML
body and perhaps a plain-text alternative: a mail that is ready to be delivered.
-/

namespace LocalizedMail.Mail

/-- Who a mail comes from and goes to. -/
structure Envelope where
  addressees : List String := []
  /-- the sender, where it is not the transport's own -/
  sender : Option String := none
  cc : List String := []
  bcc : List String := []
  replyTo : Option String := none
  deriving DecidableEq, Repr, Inhabited

namespace Envelope

/-- An envelope to one address. -/
def toAddress (address : String) : Envelope := { addressees := [address] }

/-- The envelope with one more addressee. -/
def andTo (e : Envelope) (address : String) : Envelope :=
  { e with addressees := e.addressees ++ [address] }

/-- The envelope with a sender. -/
def withSender (e : Envelope) (address : String) : Envelope := { e with sender := some address }

/-- The envelope with one more copy. -/
def andCc (e : Envelope) (address : String) : Envelope := { e with cc := e.cc ++ [address] }

/-- The envelope with one more hidden copy. -/
def andBcc (e : Envelope) (address : String) : Envelope := { e with bcc := e.bcc ++ [address] }

/-- The envelope with an address for replies. -/
def withReplyTo (e : Envelope) (address : String) : Envelope := { e with replyTo := some address }

/-- The same envelope for a single addressee; copies and sender stay. -/
def withRecipient (e : Envelope) (address : String) : Envelope :=
  { e with addressees := [address] }

/-- Everyone the mail is handed over for: addressees, copies, hidden copies. -/
def recipients (e : Envelope) : List String := e.addressees ++ e.cc ++ e.bcc

end Envelope

/-- A mail that is ready to be delivered. -/
structure Letter where
  envelope : Envelope
  subject : String
  html : String
  text : Option String
  deriving DecidableEq, Repr, Inhabited

end LocalizedMail.Mail
