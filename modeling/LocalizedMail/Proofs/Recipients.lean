import LocalizedMail.Proofs.Refusals

/-!
# Recipients on the wire

A mail is handed over to the mailboxes that its headers name, and reported as handed over to the
addresses that its envelope lists.  The two are the same as long as every mailbox reads back from
its header.  A mailbox whose local part begins with a quote mark may not: then it is lost.

Hidden copies leave no trace in what is sent.

  * `spells_senderOf`, `forall₂_recipients`: the mailboxes of a letter that can be read;
  * `recipients_on_the_wire`: what a server sees that accepts everything;
  * `recipient_refused`: an address that can be read, and a mail that is not sent.
-/

namespace LocalizedMail.Smtp

open Mail (DeliveryFault Envelope Letter Receipt)

section letters

variable {lib : Library} {c : Client lib}

/-- The configured sender is a mailbox that an address spells. -/
theorem Client.spells_of_ofSettings {settings : Settings.Smtp} {start : lib.State}
    (h : Client.ofSettings lib settings = .ok (c, start)) : Spells lib settings.sender c.sender := by
  unfold Client.ofSettings readAddress at h
  unfold Spells
  cases hparse : lib.parse settings.sender with
  | ok m =>
    rw [hparse] at h
    cases hstart : lib.start (.ofSettings settings) with
    | ok state =>
      simp only [hstart] at h
      obtain ⟨hclient, -⟩ := Prod.mk.inj (Except.ok.inj h)
      rw [← hclient]
    | error text =>
      simp only [hstart] at h
      cases h
  | error text =>
    rw [hparse] at h
    cases h

/-- The sender of a letter is the one that its envelope names, or else the configured one. -/
theorem spells_senderOf {settings : Settings.Smtp} {start : lib.State}
    (configured : Client.ofSettings lib settings = .ok (c, start)) {e : Envelope}
    (addressed : ¬ Misaddressed lib e) :
    Spells lib (e.sender.getD settings.sender) (c.senderOf e) := by
  unfold Client.senderOf
  cases hsender : e.sender with
  | none => exact Client.spells_of_ofSettings configured
  | some address =>
    have hmem : address ∈ addresses e := by simp [addresses, hsender]
    obtain ⟨m, hspells⟩ := isAddress_iff.mp (isAddress_of_addressed addressed hmem)
    rw [Option.toList_some, mailboxes_of_spells hspells]
    exact hspells

/-- Every recipient of a letter spells a mailbox. -/
theorem forall₂_recipients {e : Envelope} (addressed : ¬ Misaddressed lib e) :
    List.Forall₂ (Spells lib) e.recipients (mailboxes lib e.recipients) := by
  refine forall₂_mailboxes fun a ha => isAddress_of_addressed addressed ?_
  unfold Envelope.recipients at ha
  simp only [addresses, List.mem_append] at ha ⊢
  tauto

end letters

/-- **A server is told of every recipient once**, if the sender and all recipients read back from
their headers.

The sender is the one of the letter or else the configured one, and the recipients are the
addressees, the copies and the hidden copies, in this order; each of their addresses spells one
mailbox.  If these mailboxes read back, a message is made.  If everything is accepted then and the
client does not give up, the server has seen the sender, every recipient once and the message, after
whatever it took to open the connection, and the receipt lists the recipients of the letter.

Hidden copies change nothing in the text of the message, whether mailboxes read back or not. -/
theorem recipients_on_the_wire {lib : Library} {v : lib.Views} (faithful : Library.Faithful v)
    (orderly : Library.HandsOver v) {settings : Settings.Smtp} {c : Client lib} {start : lib.State}
    (configured : Client.ofSettings lib settings = .ok (c, start)) {letter : Letter}
    (addressed : ¬ Misaddressed lib letter.envelope) :
    let e := letter.envelope
    ∃ sender recipients, Spells lib (e.sender.getD settings.sender) sender ∧
      List.Forall₂ (Spells lib) (e.addressees ++ e.cc ++ e.bcc) recipients ∧
      ∀ line : Line lib,
        (v.ReadsBack sender → (∀ m ∈ recipients, v.ReadsBack m) →
          ∃ message state, c.build letter line.state = (.ok message, state) ∧
            (Accepted (line.talk message state) →
              let outcome := c.transport.deliver letter line
              let route : Route := ⟨v.address sender, recipients.map v.address⟩
              ∃ response opening parameters,
                outcome.1 = .ok ⟨e.addressees ++ e.cc ++ e.bcc, response⟩ ∧
                outcome.2.seen = line.seen ++
                  (opening ++ route.moves (v.text message) parameters) ∧
                ∀ m ∈ opening, m.isOfMail = false)) ∧
        ∀ bcc message message' state state', c.build letter line.state = (.ok message, state) →
          c.build { letter with envelope := { e with bcc } } line.state = (.ok message', state') →
            v.text message = v.text message' := by
  intro e
  refine ⟨c.senderOf e, mailboxes lib e.recipients, spells_senderOf configured addressed,
    forall₂_recipients addressed, fun line => ⟨fun hsender hrecipients => ?_,
      fun bcc message message' state state' => Client.text_of_build faithful⟩⟩
  obtain ⟨message, state, hbuild, hroute⟩ :=
    Client.build_of_readsBack faithful addressed hsender hrecipients line.state
  refine ⟨message, state, hbuild, fun haccepted => ?_⟩
  have hcourse := (orderly message state).run line.server line.seen
  rw [hroute] at hcourse
  rw [Client.deliver_of_build hbuild]
  -- everything was accepted and the mail begun, so the client neither gave up nor broke off
  cases hcourse with
  | gaveUp failure result flag good own =>
    obtain ⟨x, hx, hmail⟩ := haccepted.2
    have hmem : x.1 ∈ mailMoves (line.talk message state) :=
      List.mem_filter.mpr ⟨List.mem_map_of_mem hx, hmail⟩
    rw [Line.talk, own] at hmem
    cases hmem
  | brokeOff failure result broke parameters announced => exact absurd haccepted broke.unaccepted.2
  | handedOver reply result opening parameters moves own good last =>
    refine ⟨reply.firstLine, opening, parameters, ?_, ?_, own⟩
    · rw [result]
      rfl
    · exact congrArg (line.seen ++ ·) moves

/-- What is related to something in a list stands at the same place in another. -/
theorem exists_of_forall₂ {α β : Type} {R : α → β → Prop} {as : List α} {bs : List β} {b : β}
    (h : List.Forall₂ R as bs) (hb : b ∈ bs) : ∃ a ∈ as, R a b := by
  induction h with
  | nil => cases hb
  | cons hab _ ih =>
    rcases List.mem_cons.mp hb with rfl | hb
    · exact ⟨_, List.mem_cons_self, hab⟩
    · obtain ⟨a, ha, hR⟩ := ih hb
      exact ⟨a, List.mem_cons_of_mem _ ha, hR⟩

/-- A configuration whose sender has a name. -/
def knownSettings : Settings.Smtp where
  sender := "Ara <noreply@example.com>"

/-- The client of that configuration. -/
def knownClient : Client .direct := ⟨⟨some "Ara ", "noreply", "example.com"⟩⟩

/-- A letter with several addressees and copies, some of them with names. -/
def circular : Letter where
  envelope :=
    { addressees := ["Bo <bo@example.com>", "cy@example.com"]
      cc := ["\"Dee, Ltd.\" <dee@example.com>"]
      bcc := ["eve@example.com"] }
  subject := "News"
  html := "Hi"
  text := none

/-- A server that accepts everything. -/
def acceptingServer : Server := fun _ => some ⟨250, ["2.0.0 queued"]⟩

/-- A server is told of two addressees, one copy and one hidden copy, and the message names the
first three. -/
theorem recipients_on_the_wire_circular :
    let line : Line .direct := { state := plainMoment, server := acceptingServer }
    let outcome := knownClient.transport.deliver circular line
    Client.ofSettings .direct knownSettings = .ok (knownClient, plainMoment) ∧
      ¬ Misaddressed .direct circular.envelope ∧
      (∃ response, outcome.1 = .ok ⟨["Bo <bo@example.com>", "cy@example.com",
        "\"Dee, Ltd.\" <dee@example.com>", "eve@example.com"], response⟩) ∧
      outcome.2.seen = [.connect, .setUp "EHLO localhost", .mail "noreply@example.com" [],
        .rcpt "bo@example.com", .rcpt "cy@example.com", .rcpt "dee@example.com",
        .rcpt "eve@example.com", .data,
        .message (String.intercalate "\r\n" ["From: Ara <noreply@example.com>", "Subject: News",
          "To: Bo <bo@example.com>, cy@example.com", "Cc: \"Dee, Ltd.\" <dee@example.com>",
          "Content-Type: text/html; charset=utf-8", "Content-Transfer-Encoding: 7bit",
          "Date: Thu, 01 Jan 1970 00:00:00 +0000", "", "Hi"])] := by
  intro line outcome
  have configured : Client.ofSettings .direct knownSettings = .ok (knownClient, plainMoment) := by
    have hparse : Mailbox.parse knownSettings.sender = .ok knownClient.sender := by decide +kernel
    unfold Client.ofSettings readAddress
    rw [spells_of_parse hparse]
    rfl
  have addressed : ¬ Misaddressed .direct circular.envelope := by decide +kernel
  have hunquoted : ∀ a ∈ knownSettings.sender :: circular.envelope.recipients,
      (Mailbox.parse a).toOption.all Mailbox.isUnquoted = true := by
    decide +kernel
  have hback : ∀ a ∈ knownSettings.sender :: circular.envelope.recipients,
      ∀ m, Spells .direct a m → Library.directViews.ReadsBack m := by
    intro a ha m hm
    have hparse := parse_of_spells hm
    have hquote := hunquoted a ha
    rw [hparse] at hquote
    exact readsBack_of_parse hparse hquote
  have haccepted : (match knownClient.build circular line.state with
      | (.ok message, state) => decide (Accepted (line.talk message state))
      | (.error _, _) => false) = true := by
    decide +kernel
  obtain ⟨sender, recipients, hsender, hrecipients, hlines⟩ := recipients_on_the_wire
    Library.direct_faithful Library.direct_handsOver configured addressed
  obtain ⟨htold, -⟩ := hlines line
  obtain ⟨message, state, hbuild, hwire⟩ := htold (hback _ List.mem_cons_self sender hsender)
    fun m hm => by
      obtain ⟨a, ha, hspells⟩ := exists_of_forall₂ hrecipients hm
      exact hback a (List.mem_cons_of_mem _ ha) m hspells
  rw [hbuild] at haccepted
  obtain ⟨response, -, -, hresult, -⟩ := hwire (of_decide_eq_true haccepted)
  exact ⟨configured, addressed, ⟨response, hresult⟩, by decide +kernel⟩

/-- **A recipient is refused without a word to the server.**  Its address can be read and the server
would accept everything, but no message is made. -/
theorem recipient_refused :
    let letter : Letter := ⟨{ addressees := ["\"\\\"a b\\\"\"@c.d"] }, "S", "x", none⟩
    let outcome := plainClient.transport.deliver letter
      { state := plainMoment, server := acceptingServer }
    ¬ Misaddressed .direct letter.envelope ∧ outcome.2.seen = [] ∧
      outcome.1 = .error (.unbuildable "missing destination address, invalid envelope") := by
  decide +kernel

end LocalizedMail.Smtp
