import LocalizedMail.Mail.Transport
import LocalizedMail.Smtp.Library

/-!
# Delivery to a mail server

A letter is made into a message: its addresses are read and added to headers one by one.  A letter
without addressees makes no message, whatever else is wrong with it; otherwise the first bad address
counts, in the order sender, addressees, copies, hidden copies, address for replies.  All of this
comes before anything is sent.

The library hands the message over.  Whether a failure is permanent is up to the library, and all
others are transient.  What is reported of a success is the addresses of the letter and the first
line of the reply.
-/

namespace LocalizedMail.Smtp

open Mail (DeliveryFault Letter Transport)

/-! ## §1. Clients -/

/-- A client: the sender of mails that name none. -/
structure Client (lib : Library) where
  sender : lib.Mailbox

/-- A user name and a password, where both are there. -/
def credentials? (username password : Option String) : Option (String × String) :=
  match username, password with
  | some u, some p => some (u, p)
  | _, _ => none

/-- The way to a server that a configuration describes. -/
def Relay.ofSettings (s : Settings.Smtp) : Relay where
  host := s.host
  port := s.port
  tls := s.tls
  timeoutSeconds := s.timeoutSeconds
  credentials := credentials? s.username s.password

/-- Reads an address. -/
def readAddress (lib : Library) (address : String) : Except DeliveryFault lib.Mailbox :=
  match lib.parse address with
  | .ok mailbox => .ok mailbox
  | .error text => .error (.invalidAddress (address ++ ": " ++ text))

/-- The client of a configuration, and the state in which it begins. -/
def Client.ofSettings (lib : Library) (s : Settings.Smtp) :
    Except DeliveryFault (Client lib × lib.State) := do
  let sender ← readAddress lib s.sender
  match lib.start (.ofSettings s) with
  | .ok state => return (⟨sender⟩, state)
  | .error text => throw (.unbuildable text)

/-! ## §2. Messages -/

variable {lib : Library}

/-- Reads addresses and adds them to a header, one after the other. -/
def readInto (field : Field) (d : lib.Draft) : List String → Except DeliveryFault lib.Draft
  | [] => .ok d
  | address :: rest => do
    let mailbox ← readAddress lib address
    readInto field (lib.add field mailbox d) rest

/-- Reads the sender of a letter; the configured one stands in for a missing one. -/
def Client.readSender (c : Client lib) : Option String → Except DeliveryFault lib.Mailbox
  | some address => readAddress lib address
  | none => .ok c.sender

/-- The draft of a letter. -/
def Client.draft (c : Client lib) (letter : Letter) : Except DeliveryFault lib.Draft :=
  let e := letter.envelope
  if e.addressees.isEmpty then .error (.invalidAddress "at least one recipient is required")
  else do
    let sender ← c.readSender e.sender
    let d := lib.subject letter.subject (lib.add .sender sender lib.draft)
    let d ← readInto .addressees d e.addressees
    let d ← readInto .cc d e.cc
    let d ← readInto .bcc d e.bcc
    readInto .replyTo d e.replyTo.toList

/-- What a letter says. -/
def contentOf (letter : Letter) : Content :=
  match letter.text with
  | some text => .alternatives text letter.html
  | none => .html letter.html

/-- The message of a letter. -/
def Client.build (c : Client lib) (letter : Letter) (state : lib.State) :
    Except DeliveryFault lib.Message × lib.State :=
  match c.draft letter with
  | .error fault => (.error fault, state)
  | .ok d =>
    match lib.build (contentOf letter) d state with
    | (.ok message, state) => (.ok message, state)
    | (.error text, state) => (.error (.unbuildable text), state)

/-! ## §3. The transport -/

/-- What there is between deliveries: the state of the library, the server, and the moves that have
been made to it. -/
structure Line (lib : Library) where
  state : lib.State
  server : Server
  seen : List Move := []

/-- A failure as it is reported. -/
def Failure.fault (f : Failure) : DeliveryFault :=
  if f.isPermanent then .permanent f.text else .transient f.text

/-- Delivery to a mail server as a transport. -/
def Client.transport (c : Client lib) : Transport (Line lib) where
  deliver letter line :=
    match c.build letter line.state with
    | (.error fault, state) => (.error fault, { line with state })
    | (.ok message, state) =>
      let ran := (lib.send message state).run line.server line.seen
      let result :=
        match ran.result with
        | .ok reply => .ok ⟨letter.envelope.recipients, reply.firstLine⟩
        | .error failure => .error failure.fault
      (result, { line with state := ran.state, seen := line.seen ++ ran.talk.map Prod.fst })

end LocalizedMail.Smtp
