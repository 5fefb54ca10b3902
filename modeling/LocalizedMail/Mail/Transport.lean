import LocalizedMail.Mail.Envelope

/-!
# Transports

A transport takes a letter and either accepts it, with a receipt, or fails.  Only a *transient*
failure is worth another attempt.  What a transport remembers between deliveries is its own state;
`Transport.scripted` is the one whose answers are given in advance.
-/

namespace LocalizedMail.Mail

/-- Why a mail was not delivered. -/
inductive DeliveryFault where
  | invalidAddress (text : String)
  | unbuildable (text : String)
  | transient (text : String)
  | permanent (text : String)
  deriving DecidableEq, Repr

namespace DeliveryFault

/-- A failure in words. -/
def message : DeliveryFault → String
  | invalidAddress text => "Invalid address: " ++ text
  | unbuildable text => "Failed to build message: " ++ text
  | transient text => "Transient delivery failure: " ++ text
  | permanent text => "Permanent delivery failure: " ++ text

/-- Whether another attempt may succeed. -/
def isRetryable : DeliveryFault → Bool
  | transient _ => true
  | _ => false

end DeliveryFault

/-- What a transport reports for a mail that it accepted. -/
structure Receipt where
  recipients : List String
  /-- the first line of the reply -/
  response : String
  deriving DecidableEq, Repr

/-- A way to deliver mails, with a state that deliveries change. -/
structure Transport (σ : Type) where
  deliver : Letter → σ → Except DeliveryFault Receipt × σ

/-! ## §1. The scripted transport -/

/-- What a scripted transport does once its script is used up. -/
structure AfterScript where
  /-- lists of addressees that cannot be reached, joined by commas -/
  unreachable : List String
  response : String

/-- Answers from a script, one entry for each delivery: nothing accepts the mail, a fault refuses
it.  After the script, mails to unreachable addressees fail and the others are accepted. -/
def Transport.scripted (after : AfterScript) : Transport (List (Option DeliveryFault)) where
  deliver letter script :=
    let receipt : Receipt := ⟨letter.envelope.recipients, after.response⟩
    match script with
    | some fault :: rest => (.error fault, rest)
    | none :: rest => (.ok receipt, rest)
    | [] =>
      let all := String.intercalate "," letter.envelope.addressees
      if after.unreachable.contains all then (.error (.transient (all ++ " unreachable")), [])
      else (.ok receipt, [])

end LocalizedMail.Mail
