import LocalizedMail.Proofs.Drafting
import LocalizedMail.Proofs.Readback
import LocalizedMail.Smtp.Offline

/-!
# A library that speaks to servers

A small library that keeps what libraries promise.  It reads addresses and headers like the one
without a network, opens a connection for every mail, introduces itself and hands the mail over.  It
knows no extensions of servers and encodes nothing, so it gives up on a mail that is not all ASCII.

Main results:
  * `Library.direct_faithful` and `Library.direct_handsOver`: it keeps its promises;
  * `readsBack_of_parse`: a mailbox whose local part begins with no quote mark reads back.
-/

namespace LocalizedMail.Smtp

/-! ## §1. Texts -/

/-- What changes from one message to the next. -/
structure Moment where
  date : String
  /-- a line that separates the parts of a message -/
  boundary : String

/-- A header line with a list of mailboxes, unless the list is empty. -/
def mailboxLine (name : String) (mailboxes : List Mailbox) : List String :=
  if mailboxes.isEmpty then []
  else [name ++ ": " ++ String.intercalate ", " (mailboxes.map Mailbox.header)]

/-- The header lines of a draft; hidden copies have none. -/
def Headers.lines (h : Headers) : List String :=
  mailboxLine "From" (h.mailboxes .sender) ++ ["Subject: " ++ h.subject] ++
    mailboxLine "To" (h.mailboxes .addressees) ++ mailboxLine "Cc" (h.mailboxes .cc) ++
    mailboxLine "Reply-To" (h.mailboxes .replyTo)

/-- The header lines of a text of some kind. -/
def kindLines (kind : String) : List String :=
  ["Content-Type: text/" ++ kind ++ "; charset=utf-8", "Content-Transfer-Encoding: 7bit"]

/-- The lines of a content: more header lines, and after an empty line the body. -/
def Content.lines (moment : Moment) : Content → List String
  | .html rich => kindLines "html" ++ ["Date: " ++ moment.date, "", rich]
  | .alternatives plain rich =>
    let bar := "--" ++ moment.boundary
    ["MIME-Version: 1.0",
      "Content-Type: multipart/alternative; boundary=\"" ++ moment.boundary ++ "\"",
      "Date: " ++ moment.date, ""] ++
    (bar :: kindLines "plain" ++ ["", plain]) ++ (bar :: kindLines "html" ++ ["", rich]) ++
    [bar ++ "--", ""]

/-- A message: its envelope and its lines. -/
structure Written where
  route : Route
  lines : List String

/-- The text of a message. -/
def Written.text (m : Written) : String := String.intercalate "\r\n" m.lines

/-- Whether a text is all ASCII. -/
def isAscii (s : String) : Bool := s.toList.all fun c => c.toNat < 128

/-- What a message needs and servers without extensions do not offer. -/
def Written.lacking? (m : Written) : Option String :=
  if !(m.route.sender :: m.route.recipients).all isAscii then
    some "Envelope contains non-ascii chars but server does not support SMTPUTF8"
  else if !m.lines.all isAscii then
    some "Message contains non-ascii chars but server does not support 8BITMIME"
  else none

/-- The message of headers and a content, if the headers describe a route. -/
def Headers.message (h : Headers) (content : Content) (moment : Moment) :
    Except String Written × Moment :=
  match h.route with
  | .ok route => (.ok ⟨route, h.lines ++ content.lines moment⟩, moment)
  | .error text => (.error text, moment)

/-! ## §2. Dialogues -/

/-- Takes leave after a move that was not accepted. -/
def hangUp {σ : Type} (state : σ) (answer : Option Reply) : Dialogue σ :=
  let text :=
    match answer with
    | none => "Connection error"
    | some r =>
      (if r.isPermanent then "permanent" else "transient") ++ " error (" ++ toString r.code ++
        "): " ++ r.firstLine
  .say .quit fun _ => .ended (.error ⟨refusesForGood answer, text⟩) state

/-- Makes moves one after the other, as long as they are accepted, and then goes on. -/
def sayAll {σ : Type} (state : σ) (andThen : Reply → Dialogue σ) :
    Reply → List Move → Dialogue σ
  | last, [] => andThen last
  | last, move :: rest => .say move fun answer =>
    if accepts answer then sayAll state andThen (answer.getD last) rest else hangUp state answer

/-- Hands a message over on an open connection, unless the server cannot take it. -/
def Written.handOver (m : Written) (moment : Moment) (last : Reply) : Dialogue Moment :=
  match m.lacking? with
  | some text => .ended (.error ⟨false, "internal client error: " ++ text⟩) moment
  | none => sayAll moment (fun reply => .ended (.ok reply) moment) last (m.route.moves m.text [])

/-- Hands a message over on a new connection. -/
def Written.send (m : Written) (moment : Moment) : Dialogue Moment :=
  sayAll moment (m.handOver moment) ⟨220, []⟩ [.connect, .setUp "EHLO localhost"]

/-- The library that speaks to servers without extensions. -/
def Library.direct : Library where
  Mailbox := Smtp.Mailbox
  Draft := Headers
  Message := Written
  State := Moment
  start _ := .ok ⟨"Thu, 01 Jan 1970 00:00:00 +0000", "boundary"⟩
  parse := Library.offline.parse
  draft := Library.offline.draft
  add := Library.offline.add
  subject := Library.offline.subject
  build content h moment := h.message content moment
  send := Written.send

/-! ## §3. Promises -/

/-- What can be seen of its mailboxes, drafts and messages. -/
def Library.directViews : Library.direct.Views where
  address := Mailbox.address
  written := Mailbox.header
  header f h := readBack (h.mailboxes f)
  Alike h h' := (∀ f, f ≠ .bcc → h.mailboxes f = h'.mailboxes f) ∧ h.subject = h'.subject
  route := Written.route
  text := Written.text

theorem spells_of_parse {a : String} {m : Mailbox} (h : Mailbox.parse a = .ok m) :
    Spells .direct a m :=
  congrArg (Except.mapError Mailbox.Fault.message) h

theorem parse_of_spells {a : String} {m : Mailbox} (h : Spells .direct a m) :
    Mailbox.parse a = .ok m := by
  replace h : (Mailbox.parse a).mapError Mailbox.Fault.message = .ok m := h
  cases hparse : Mailbox.parse a with
  | ok m' =>
    rw [hparse] at h
    rw [Except.ok.inj h]
  | error fault =>
    rw [hparse] at h
    cases h

theorem reread_directViews (m : Mailbox) : Library.directViews.reread m = m.reread := by
  show (Except.mapError _ (Mailbox.parse m.header)).toOption = (Mailbox.parse m.header).toOption
  cases Mailbox.parse m.header <;> rfl

namespace Headers

variable {h h' : Headers}

/-- A mailbox is added to what a header spells. -/
theorem readBack_add {f : Field} {m : Mailbox} {back : List Mailbox}
    (hback : (readBack (h.mailboxes f) ++ [m]).mapM Mailbox.reread = some back) :
    readBack ((h.add f m).mailboxes f) = back := by
  have hadded : (h.add f m).mailboxes f = readBack (h.mailboxes f) ++ [m] := if_pos rfl
  rw [hadded, readBack, hback]
  rfl

/-- Headers with a sender and a recipient describe a route. -/
theorem message_of_sender {sender : Mailbox} (content : Content) (moment : Moment)
    (hsender : readBack (h.mailboxes .sender) = [sender])
    (hrecipients : readBack (h.mailboxes .addressees) ++ readBack (h.mailboxes .cc) ++
      readBack (h.mailboxes .bcc) ≠ []) :
    ∃ message after, h.message content moment = (.ok message, after) ∧
      message.route = ⟨sender.address, (readBack (h.mailboxes .addressees) ++
        readBack (h.mailboxes .cc) ++ readBack (h.mailboxes .bcc)).map Mailbox.address⟩ := by
  have hroute : h.route = .ok ⟨sender.address, (readBack (h.mailboxes .addressees) ++
      readBack (h.mailboxes .cc) ++ readBack (h.mailboxes .bcc)).map Mailbox.address⟩ := by
    unfold route
    rw [hsender]
    exact if_neg (by simpa using hrecipients)
  unfold message
  rw [hroute]
  exact ⟨_, _, rfl, rfl⟩

/-- The lines of a message are those of its headers and its content. -/
theorem lines_of_message {content : Content} {moment after : Moment} {made : Written}
    (hmade : h.message content moment = (.ok made, after)) :
    made.lines = h.lines ++ content.lines moment := by
  unfold message at hmade
  split at hmade
  · rw [← Except.ok.inj (Prod.mk.inj hmade).1]
  · cases (Prod.mk.inj hmade).1

/-- The lines of headers say nothing of hidden copies. -/
theorem lines_of_alike (hsame : ∀ f, f ≠ .bcc → h.mailboxes f = h'.mailboxes f)
    (hsubject : h.subject = h'.subject) : h.lines = h'.lines := by
  unfold lines
  rw [hsame .sender (by decide), hsame .addressees (by decide), hsame .cc (by decide),
    hsame .replyTo (by decide), hsubject]

theorem text_of_message {content : Content} {moment after after' : Moment} {made made' : Written}
    (hlines : h.lines = h'.lines) (hmade : h.message content moment = (.ok made, after))
    (hmade' : h'.message content moment = (.ok made', after')) : made.text = made'.text := by
  unfold Written.text
  rw [lines_of_message hmade, lines_of_message hmade', hlines]

end Headers

theorem Library.direct_faithful : Library.Faithful Library.directViews where
  header_draft _ := rfl
  header_subject _ _ _ := rfl
  header_add_of_ne _ _ hne := congrArg readBack (if_neg hne)
  header_add hback := by
    rw [funext reread_directViews] at hback
    exact Headers.readBack_add hback
  alike := ⟨fun _ => ⟨fun _ _ => rfl, rfl⟩, fun h => ⟨fun f hf => (h.1 f hf).symm, h.2.symm⟩,
    fun h h' => ⟨fun f hf => (h.1 f hf).trans (h'.1 f hf), h.2.trans h'.2⟩⟩
  alike_add f _ _ _ alike := by
    refine ⟨fun g hg => ?_, alike.2⟩
    show (if g = f then _ else _) = if g = f then _ else _
    rw [alike.1 g hg]
  alike_bcc _ _ := ⟨fun _ hf => if_neg hf, rfl⟩
  build_route content _ moment _ hsender hrecipients :=
    Headers.message_of_sender content moment hsender hrecipients
  build_alike alike hbuild hbuild' :=
    Headers.text_of_message (Headers.lines_of_alike alike.1 alike.2) hbuild hbuild'

section promises

variable {σ : Type} {state : σ}

theorem closing_hangUp (answer : Option Reply) :
    Closing (refusesForGood answer) (hangUp state answer) :=
  .quit fun _ => .ended rfl

theorem handing_sayAll (last : Reply) (moves : List Move) :
    Handing last moves (sayAll state (fun reply => .ended (.ok reply) state) last moves) := by
  -- on the moves: an answer that accepts one leads to the rest, any other one to the end
  induction moves generalizing last with
  | nil => exact .ended
  | cons move rest ih =>
    refine .say (fun reply hreply => ?_) fun answer hanswer => ?_
    · show Handing reply rest (if accepts (some reply) then _ else _)
      rw [if_pos (show accepts (some reply) = true from hreply)]
      exact ih reply
    · show Closing _ (if accepts answer then _ else _)
      rw [if_neg (by rw [hanswer]; exact Bool.false_ne_true)]
      exact closing_hangUp answer

theorem opening_sayAll {route : Route} {text : String} {andThen : Reply → Dialogue σ}
    {moves : List Move} (hmoves : ∀ m ∈ moves, m.isOfMail = false ∧ m.counts = true)
    (hthen : ∀ reply, Opening route text (andThen reply)) (last : Reply) :
    Opening route text (sayAll state andThen last moves) := by
  induction moves generalizing last with
  | nil => exact hthen last
  | cons move rest ih =>
    obtain ⟨⟨hown, hcounts⟩, hrest⟩ := List.forall_mem_cons.mp hmoves
    refine .setUp hown hcounts (fun reply hreply => ?_) fun answer hanswer => ?_
    · show Opening route text (if accepts (some reply) then _ else _)
      rw [if_pos (show accepts (some reply) = true from hreply)]
      exact ih hrest reply
    · show Closing _ (if accepts answer then _ else _)
      rw [if_neg (by rw [hanswer]; exact Bool.false_ne_true)]
      exact closing_hangUp answer

theorem opening_handOver (m : Written) (moment : Moment) (last : Reply) :
    Opening m.route m.text (m.handOver moment last) := by
  unfold Written.handOver
  split
  · exact .gaveUp rfl
  · exact .begun (handing_sayAll last _)

end promises

theorem Library.direct_handsOver : Library.HandsOver Library.directViews := fun m moment =>
  opening_sayAll (by decide) (opening_handOver m moment) ⟨220, []⟩

/-- **A mailbox whose local part begins with no quote mark reads back**, however often it is written
and read. -/
theorem readsBack_of_parse {address : String} {m : Mailbox} (h : Mailbox.parse address = .ok m)
    (hquote : m.isUnquoted = true) : Library.directViews.ReadsBack m := by
  refine ⟨Mailbox.Plain, Mailbox.plain_of_parse h hquote, fun x hx => ?_⟩
  obtain ⟨back, hback, hplain, haddress⟩ := hx.reread
  exact ⟨back, (reread_directViews x).trans hback, haddress, hplain⟩

end LocalizedMail.Smtp
