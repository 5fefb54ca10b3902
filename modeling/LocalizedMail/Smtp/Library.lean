import LocalizedMail.Settings.Basic

/-!
# Mail libraries

Messages are put together and handed over by a library.  `Library` is what the program sees of one:
types that it does not look into, the functions that it calls, and the dialogues in which messages
are handed over.  Whatever the program does, it does with any library.

A dialogue is a tree: the client makes a move and goes on as the answer to it demands.  A server
answers by everything that it was sent so far, so it can follow a script, count, or change its mind.
-/

namespace LocalizedMail.Smtp

/-! ## §1. Servers -/

/-- A reply: a code of three digits and lines of text. -/
structure Reply where
  code : Nat
  lines : List String
  deriving DecidableEq, Repr

/-- The text of a reply, as far as it is reported. -/
def Reply.firstLine (r : Reply) : String := r.lines.head?.getD ""

/-- What a client does to a server. -/
inductive Move where
  /-- it opens a connection, which is greeted -/
  | connect
  /-- it introduces itself, asks for encryption or authenticates -/
  | setUp (line : String)
  /-- it tries whether an open connection is still good -/
  | probe
  | mail (sender : String) (parameters : List String)
  | rcpt (recipient : String)
  | data
  /-- it sends the message itself -/
  | message (text : String)
  | quit
  deriving DecidableEq, Repr

/-- A server: what it answers to the last of all moves made to it.  There may be no answer. -/
abbrev Server := List Move → Option Reply

/-! ## §2. Dialogues -/

/-- Why a message was not handed over. -/
structure Failure where
  isPermanent : Bool
  text : String
  deriving DecidableEq, Repr

/-- What a client does until a message is handed over or not; its state afterwards. -/
inductive Dialogue (σ : Type) where
  | ended (result : Except Failure Reply) (state : σ)
  | say (move : Move) (next : Option Reply → Dialogue σ)

/-- A move and the answer to it. -/
abbrev Exchange := Move × Option Reply

/-- What a dialogue comes to. -/
structure Ran (σ : Type) where
  result : Except Failure Reply
  state : σ
  talk : List Exchange

/-- Has a dialogue with a server to which some moves have been made before. -/
def Dialogue.run {σ : Type} (server : Server) : Dialogue σ → List Move → Ran σ
  | ended result state, _ => ⟨result, state, []⟩
  | say move next, past =>
    let answer := server (past ++ [move])
    let rest := (next answer).run server (past ++ [move])
    ⟨rest.result, rest.state, (move, answer) :: rest.talk⟩

/-! ## §3. Libraries -/

/-- The way to a server: where it is and how it is spoken to. -/
structure Relay where
  host : String
  port : Nat
  tls : Settings.TlsMode
  timeoutSeconds : Nat
  /-- a user name and a password -/
  credentials : Option (String × String)

/-- The headers that hold mailboxes. -/
inductive Field where
  | sender
  | addressees
  | cc
  | bcc
  | replyTo
  deriving DecidableEq, Repr

/-- Whom a message is from, and everyone that it is handed over for. -/
structure Route where
  sender : String
  recipients : List String
  deriving DecidableEq, Repr

/-- What a message says: an HTML text alone, or with a plain text in its place. -/
inductive Content where
  | html (html : String)
  | alternatives (plain html : String)
  deriving DecidableEq, Repr

/-- A mail library. -/
structure Library where
  Mailbox : Type
  /-- messages to which headers are still added -/
  Draft : Type
  Message : Type
  /-- what there is between deliveries: open connections, the clock, random numbers -/
  State : Type
  /-- the state before the first delivery, or why there is none -/
  start : Relay → Except String State
  /-- the mailbox that a text spells, or why it spells none -/
  parse : String → Except String Mailbox
  /-- a draft without headers -/
  draft : Draft
  /-- adds a mailbox to a header -/
  add : Field → Mailbox → Draft → Draft
  subject : String → Draft → Draft
  /-- the message of a draft, or why there is none -/
  build : Content → Draft → State → Except String Message × State
  /-- the dialogue in which a message is handed over -/
  send : Message → State → Dialogue State

end LocalizedMail.Smtp
