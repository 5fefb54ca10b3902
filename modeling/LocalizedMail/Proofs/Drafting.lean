import LocalizedMail.Proofs.Dialogue
import Mathlib.Data.List.Forall2

/-!
# From letters to messages

A letter is drafted if it has addressees and all its addresses can be read: then its draft is known
beforehand, whatever the library is.

What the draft comes to is up to the library.  `Views` names what can be seen of its drafts and
messages, and `Faithful` what it promises of them: mailboxes that are added to a header end up there
in order, as long as all of them read back; the envelope of a message is read off its headers; and
hidden copies leave no trace in what is sent.  `HandsOver` is what it promises of deliveries.

Main results:
  * `Client.draft_cases`: which letters are drafted, and how;
  * `Client.build_of_readsBack`: the message of a letter whose mailboxes read back, and its envelope;
  * `Client.text_of_build`: hidden copies do not change the text of a message.
-/

namespace LocalizedMail.Smtp

open Mail (DeliveryFault Envelope Letter)

/-! ## §1. Addresses -/

/-- All addresses of an envelope, in the order in which they are read. -/
def addresses (e : Envelope) : List String :=
  e.sender.toList ++ (e.addressees ++ (e.cc ++ (e.bcc ++ e.replyTo.toList)))

section addresses

variable (lib : Library)

/-- An address and the mailbox that it spells. -/
def Spells (address : String) (m : lib.Mailbox) : Prop := lib.parse address = .ok m

/-- Whether an address can be read. -/
def isAddress (address : String) : Bool := (lib.parse address).toBool

/-- An envelope that is no use: it has no addressee, or an address that cannot be read. -/
def Misaddressed (e : Envelope) : Prop :=
  e.addressees = [] ∨ ∃ address ∈ addresses e, isAddress lib address = false

instance (e : Envelope) : Decidable (Misaddressed lib e) :=
  inferInstanceAs (Decidable (_ ∨ ∃ address ∈ addresses e, _))

/-- The mailboxes of addresses, those apart that cannot be read. -/
def mailboxes (addresses : List String) : List lib.Mailbox :=
  addresses.filterMap fun address => (lib.parse address).toOption

variable {lib}

theorem isAddress_iff {address : String} :
    isAddress lib address = true ↔ ∃ m, Spells lib address m := by
  unfold isAddress Spells
  cases lib.parse address with
  | ok m => exact iff_of_true rfl ⟨m, rfl⟩
  | error fault => exact iff_of_false Bool.false_ne_true nofun

theorem mailboxes_of_spells {address : String} {m : lib.Mailbox} (h : Spells lib address m)
    (rest : List String) : mailboxes lib (address :: rest) = m :: mailboxes lib rest := by
  unfold Spells at h
  unfold mailboxes
  rw [List.filterMap_cons, h]
  rfl

theorem mailboxes_append (as bs : List String) :
    mailboxes lib (as ++ bs) = mailboxes lib as ++ mailboxes lib bs :=
  List.filterMap_append

/-- Addresses that can be read spell one mailbox each. -/
theorem forall₂_mailboxes {as : List String} (h : ∀ a ∈ as, isAddress lib a = true) :
    List.Forall₂ (Spells lib) as (mailboxes lib as) := by
  induction as with
  | nil => exact .nil
  | cons a rest ih =>
    obtain ⟨ha, hrest⟩ := List.forall_mem_cons.mp h
    obtain ⟨m, hspells⟩ := isAddress_iff.mp ha
    rw [mailboxes_of_spells hspells]
    exact .cons hspells (ih hrest)

theorem isAddress_of_addressed {e : Envelope} (h : ¬ Misaddressed lib e) {a : String}
    (ha : a ∈ addresses e) : isAddress lib a = true := by
  by_contra hbad
  exact h (.inr ⟨a, ha, by simpa using hbad⟩)

end addresses

/-! ## §2. Drafts -/

section drafts

variable {lib : Library} {α β : Type}

/-- A result of reading addresses: a value if all can be read, and a failure otherwise. -/
def Reads (lib : Library) (addresses : List String) (result : Except DeliveryFault α) (value : α) :
    Prop :=
  (∀ address ∈ addresses, isAddress lib address = true) ∧ result = .ok value ∨
    (∃ address ∈ addresses, isAddress lib address = false) ∧
      ∃ text, result = .error (.invalidAddress text)

/-- What needs no address is read. -/
theorem reads_nil (value : α) : Reads lib [] (pure value) value :=
  .inl ⟨fun _ h => absurd h List.not_mem_nil, rfl⟩

/-- Addresses are read one after the other, up to the first that cannot be read. -/
theorem Reads.bind {first rest : List String} {result : Except DeliveryFault α} {value : α}
    {next : α → Except DeliveryFault β} {value' : β} (h : Reads lib first result value)
    (hnext : Reads lib rest (next value) value') :
    Reads lib (first ++ rest) (result >>= next) value' := by
  rcases h with ⟨hall, rfl⟩ | ⟨⟨bad, hmem, hbad⟩, text, rfl⟩
  · rcases hnext with ⟨hrest, hresult⟩ | ⟨⟨bad, hmem, hbad⟩, text, hresult⟩
    · exact .inl ⟨List.forall_mem_append.mpr ⟨hall, hrest⟩, hresult⟩
    · exact .inr ⟨⟨bad, List.mem_append_right _ hmem, hbad⟩, text, hresult⟩
  · exact .inr ⟨⟨bad, List.mem_append_left _ hmem, hbad⟩, text, rfl⟩

theorem reads_of_spells {address : String} {m : lib.Mailbox} (h : Spells lib address m) :
    Reads lib [address] (readAddress lib address) m := by
  refine .inl ⟨fun a ha => ?_, ?_⟩
  · rw [List.mem_singleton.mp ha]
    exact isAddress_iff.mpr ⟨m, h⟩
  · unfold Spells at h
    unfold readAddress
    rw [h]

/-- An address that cannot be read is the end of it, whatever comes next. -/
theorem reads_of_error {address text : String} (h : lib.parse address = .error text)
    (rest : List String) (next : lib.Mailbox → Except DeliveryFault α) (value : α) :
    Reads lib (address :: rest) (readAddress lib address >>= next) value := by
  unfold readAddress
  rw [h]
  refine .inr ⟨⟨address, List.mem_cons_self, ?_⟩, _, rfl⟩
  rw [isAddress, h]
  rfl

/-- The sender of the message of a letter. -/
def Client.senderOf (c : Client lib) (e : Envelope) : lib.Mailbox :=
  (mailboxes lib e.sender.toList).head?.getD c.sender

theorem reads_sender (c : Client lib) (e : Envelope) :
    Reads lib e.sender.toList (c.readSender e.sender) (c.senderOf e) := by
  unfold Client.senderOf
  cases e.sender with
  | none => exact reads_nil c.sender
  | some address =>
    cases h : lib.parse address with
    | ok m =>
      rw [Option.toList_some, mailboxes_of_spells h]
      exact reads_of_spells h
    | error text =>
      have hread := reads_of_error h [] pure ((mailboxes lib [address]).head?.getD c.sender)
      rwa [bind_pure] at hread

/-- A draft with mailboxes added to a header, one after the other. -/
def addEach (field : Field) (d : lib.Draft) (ms : List lib.Mailbox) : lib.Draft :=
  ms.foldl (fun d m => lib.add field m d) d

theorem reads_into (field : Field) (as : List String) (d : lib.Draft) :
    Reads lib as (readInto field d as) (addEach field d (mailboxes lib as)) := by
  induction as generalizing d with
  | nil => exact reads_nil d
  | cons a rest ih =>
    cases h : lib.parse a with
    | ok m =>
      rw [mailboxes_of_spells h]
      exact (reads_of_spells h).bind (ih (lib.add field m d))
    | error text => exact reads_of_error h rest _ _

/-- The draft of a letter whose addresses can be read. -/
def Client.outline (c : Client lib) (letter : Letter) : lib.Draft :=
  let e := letter.envelope
  let d := lib.subject letter.subject (lib.add .sender (c.senderOf e) lib.draft)
  let d := addEach .addressees d (mailboxes lib e.addressees)
  let d := addEach .cc d (mailboxes lib e.cc)
  let d := addEach .bcc d (mailboxes lib e.bcc)
  addEach .replyTo d (mailboxes lib e.replyTo.toList)

/-- **Which letters are drafted**: those with addressees whose addresses can all be read. -/
theorem Client.draft_cases (c : Client lib) (letter : Letter) :
    (Misaddressed lib letter.envelope ∧ ∃ text, c.draft letter = .error (.invalidAddress text)) ∨
      ¬ Misaddressed lib letter.envelope ∧ c.draft letter = .ok (c.outline letter) := by
  -- addressees are asked for before any address is read
  cases hsome : letter.envelope.addressees.isEmpty with
  | true =>
    refine .inl ⟨.inl (List.isEmpty_iff.mp hsome), "at least one recipient is required", ?_⟩
    exact if_pos hsome
  | false =>
    have hreads : Reads lib (addresses letter.envelope) (c.draft letter) (c.outline letter) := by
      unfold Client.draft
      dsimp only
      rw [if_neg (by rw [hsome]; exact Bool.false_ne_true)]
      refine (reads_sender c letter.envelope).bind ?_
      refine (reads_into .addressees letter.envelope.addressees _).bind ?_
      refine (reads_into .cc letter.envelope.cc _).bind ?_
      refine (reads_into .bcc letter.envelope.bcc _).bind ?_
      exact reads_into .replyTo letter.envelope.replyTo.toList _
    rcases hreads with ⟨hall, hdraft⟩ | ⟨hbad, text, hdraft⟩
    · refine .inr ⟨?_, hdraft⟩
      rintro (hempty | ⟨bad, hmem, hbad⟩)
      · rw [hempty] at hsome
        cases hsome
      · rw [hall bad hmem] at hbad
        cases hbad
    · exact .inl ⟨.inr hbad, text, hdraft⟩

end drafts

/-! ## §3. What can be seen of messages -/

/-- What can be seen of the mailboxes, drafts and messages of a library. -/
structure Library.Views (lib : Library) where
  /-- the address of a mailbox, without a name -/
  address : lib.Mailbox → String
  /-- a mailbox as it stands in a header -/
  written : lib.Mailbox → String
  /-- the mailboxes that a header is read as -/
  header : Field → lib.Draft → List lib.Mailbox
  /-- two drafts have the same headers, the one of hidden copies apart -/
  Alike : lib.Draft → lib.Draft → Prop
  /-- the envelope of a message -/
  route : lib.Message → Route
  /-- the headers and the body of a message, as they are sent -/
  text : lib.Message → String

namespace Library.Views

variable {lib : Library} (v : lib.Views)

/-- The mailbox that a mailbox in a header is read as. -/
def reread (m : lib.Mailbox) : Option lib.Mailbox := (lib.parse (v.written m)).toOption

/-- A mailbox keeps its address however often it is written and read back. -/
def ReadsBack (m : lib.Mailbox) : Prop :=
  ∃ P : lib.Mailbox → Prop, P m ∧
    ∀ x, P x → ∃ back, v.reread x = some back ∧ v.address back = v.address x ∧ P back

/-- The mailboxes of all headers of recipients. -/
def recipients (d : lib.Draft) : List lib.Mailbox :=
  v.header .addressees d ++ v.header .cc d ++ v.header .bcc d

end Library.Views

/-- What a library promises of drafts and messages. -/
structure Library.Faithful {lib : Library} (v : lib.Views) : Prop where
  header_draft : ∀ f, v.header f lib.draft = []
  header_subject : ∀ f s d, v.header f (lib.subject s d) = v.header f d
  header_add_of_ne : ∀ {f g} m d, g ≠ f → v.header g (lib.add f m d) = v.header g d
  /-- A mailbox is written behind those that are in the header. -/
  header_add : ∀ {f m d back}, (v.header f d ++ [m]).mapM v.reread = some back →
    v.header f (lib.add f m d) = back
  alike : Equivalence v.Alike
  alike_add : ∀ f m {d d'}, v.Alike d d' → v.Alike (lib.add f m d) (lib.add f m d')
  alike_bcc : ∀ m d, v.Alike (lib.add .bcc m d) d
  /-- The envelope is read off the headers. -/
  build_route : ∀ content {d} state {sender}, v.header .sender d = [sender] →
    v.recipients d ≠ [] → ∃ message state', lib.build content d state = (.ok message, state') ∧
      v.route message = ⟨v.address sender, (v.recipients d).map v.address⟩
  /-- Hidden copies are left out of what is sent. -/
  build_alike : ∀ {content d d' state message message' after after'}, v.Alike d d' →
    lib.build content d state = (.ok message, after) →
    lib.build content d' state = (.ok message', after') → v.text message = v.text message'

/-- What a library promises of deliveries: every message is handed over in an orderly dialogue. -/
def Library.HandsOver {lib : Library} (v : lib.Views) : Prop :=
  ∀ message state, Opening (v.route message) (v.text message) (lib.send message state)

/-! ## §4. Headers -/

section headers

variable {lib : Library} {v : lib.Views}

namespace Library.Views.ReadsBack

theorem reread {m : lib.Mailbox} (h : v.ReadsBack m) :
    ∃ back, v.reread m = some back ∧ v.address back = v.address m ∧ v.ReadsBack back := by
  obtain ⟨P, hm, hP⟩ := h
  obtain ⟨back, hback, haddress, hnext⟩ := hP m hm
  exact ⟨back, hback, haddress, P, hnext, hP⟩

/-- A header whose mailboxes read back is read as mailboxes with the same addresses. -/
theorem mapM {ms : List lib.Mailbox} (h : ∀ m ∈ ms, v.ReadsBack m) :
    ∃ back, ms.mapM v.reread = some back ∧ back.map v.address = ms.map v.address ∧
      ∀ m ∈ back, v.ReadsBack m := by
  induction ms with
  | nil => exact ⟨[], rfl, rfl, nofun⟩
  | cons m ms ih =>
    obtain ⟨hm, hms⟩ := List.forall_mem_cons.mp h
    obtain ⟨back, hback, haddress, hagain⟩ := hm.reread
    obtain ⟨backs, hbacks, haddresses, hagains⟩ := ih hms
    refine ⟨back :: backs, ?_, ?_, List.forall_mem_cons.mpr ⟨hagain, hagains⟩⟩
    · rw [List.mapM_cons, hback, hbacks]
      rfl
    · rw [List.map_cons, List.map_cons, haddress, haddresses]

end Library.Views.ReadsBack

variable (faithful : Library.Faithful v)
include faithful

theorem header_addEach_of_ne {f g : Field} (hne : g ≠ f) (ms : List lib.Mailbox) (d : lib.Draft) :
    v.header g (addEach f d ms) = v.header g d := by
  induction ms generalizing d with
  | nil => rfl
  | cons m ms ih => exact (ih (lib.add f m d)).trans (faithful.header_add_of_ne m d hne)

/-- **Mailboxes that read back end up in their header**, behind those that were there. -/
theorem header_addEach {f : Field} {ms : List lib.Mailbox} {d : lib.Draft}
    (hd : ∀ m ∈ v.header f d, v.ReadsBack m) (hms : ∀ m ∈ ms, v.ReadsBack m) :
    (v.header f (addEach f d ms)).map v.address
        = (v.header f d).map v.address ++ ms.map v.address ∧
      ∀ m ∈ v.header f (addEach f d ms), v.ReadsBack m := by
  induction ms generalizing d with
  | nil => exact ⟨(List.append_nil _).symm, hd⟩
  | cons m ms ih =>
    obtain ⟨hm, hms⟩ := List.forall_mem_cons.mp hms
    -- with each addition the whole header is read again, so all of it has to read back
    obtain ⟨back, hback, haddress, hagain⟩ := Library.Views.ReadsBack.mapM
      (List.forall_mem_append.mpr ⟨hd, List.forall_mem_singleton.mpr hm⟩)
    have hheader := faithful.header_add hback
    rw [← hheader] at haddress hagain
    obtain ⟨haddresses, hall⟩ := ih hagain hms
    refine ⟨haddresses.trans ?_, hall⟩
    rw [haddress, List.map_append, List.append_assoc]
    rfl

/-- Mailboxes that read back are the whole of a header that was empty. -/
theorem address_header_addEach {f : Field} {ms : List lib.Mailbox} {d : lib.Draft}
    (hd : v.header f d = []) (hms : ∀ m ∈ ms, v.ReadsBack m) :
    (v.header f (addEach f d ms)).map v.address = ms.map v.address := by
  have hnone : ∀ m ∈ v.header f d, v.ReadsBack m := by
    rw [hd]
    exact nofun
  rw [(header_addEach faithful hnone hms).1, hd]
  rfl

theorem alike_addEach (f : Field) (ms : List lib.Mailbox) {d d' : lib.Draft}
    (h : v.Alike d d') : v.Alike (addEach f d ms) (addEach f d' ms) := by
  induction ms generalizing d d' with
  | nil => exact h
  | cons m ms ih => exact ih (faithful.alike_add f m h)

/-- Hidden copies leave a draft alike. -/
theorem alike_addEach_bcc (ms : List lib.Mailbox) (d : lib.Draft) :
    v.Alike (addEach .bcc d ms) d := by
  induction ms generalizing d with
  | nil => exact faithful.alike.refl d
  | cons m ms ih => exact faithful.alike.trans (ih (lib.add .bcc m d)) (faithful.alike_bcc m d)

end headers

/-! ## §5. Messages -/

section messages

variable {lib : Library} {v : lib.Views} {c : Client lib} {letter : Letter}

/-- Any other letter makes a message if the library makes one of its draft. -/
theorem Client.build_eq_ok_iff {state after : lib.State} {message : lib.Message} :
    c.build letter state = (.ok message, after) ↔ ¬ Misaddressed lib letter.envelope ∧
      lib.build (contentOf letter) (c.outline letter) state = (.ok message, after) := by
  unfold Client.build
  rcases c.draft_cases letter with ⟨hbad, text, hdraft⟩ | ⟨hgood, hdraft⟩
  · rw [hdraft]
    exact iff_of_false nofun fun h => h.1 hbad
  · rw [hdraft, and_iff_right hgood]
    cases hbuilt : lib.build (contentOf letter) (c.outline letter) state with
    | mk result now =>
      cases result with
      | error text => simp [hbuilt]
      | ok made => simp [hbuilt]

variable (faithful : Library.Faithful v)
include faithful

/-- The headers of the draft of a letter. -/
theorem header_outline (hsender : v.ReadsBack (c.senderOf letter.envelope))
    (hrecipients : ∀ m ∈ mailboxes lib letter.envelope.recipients, v.ReadsBack m) :
    (∃ sender, v.header .sender (c.outline letter) = [sender] ∧
      v.address sender = v.address (c.senderOf letter.envelope)) ∧
    (v.recipients (c.outline letter)).map v.address
      = (mailboxes lib letter.envelope.recipients).map v.address := by
  unfold Envelope.recipients at hrecipients ⊢
  rw [mailboxes_append, mailboxes_append] at hrecipients ⊢
  obtain ⟨hrest, hbcc⟩ := List.forall_mem_append.mp hrecipients
  obtain ⟨haddressees, hcc⟩ := List.forall_mem_append.mp hrest
  have hempty : ∀ f, f ≠ .sender → ∀ s,
      v.header f (lib.subject s (lib.add .sender (c.senderOf letter.envelope) lib.draft)) = [] := by
    intro f hf s
    rw [faithful.header_subject, faithful.header_add_of_ne _ _ hf, faithful.header_draft]
  unfold Client.outline
  dsimp only
  constructor
  · obtain ⟨back, hback, haddress, -⟩ := hsender.reread
    refine ⟨back, ?_, haddress⟩
    rw [header_addEach_of_ne faithful (by decide), header_addEach_of_ne faithful (by decide),
      header_addEach_of_ne faithful (by decide), header_addEach_of_ne faithful (by decide),
      faithful.header_subject]
    refine faithful.header_add ?_
    rw [faithful.header_draft, List.nil_append, List.mapM_cons, hback]
    rfl
  · unfold Library.Views.recipients
    rw [List.map_append, List.map_append, List.map_append, List.map_append]
    -- each header is left alone by what is added to the others
    rw [header_addEach_of_ne faithful (by decide : Field.addressees ≠ .replyTo),
      header_addEach_of_ne faithful (by decide : Field.addressees ≠ .bcc),
      header_addEach_of_ne faithful (by decide : Field.addressees ≠ .cc),
      header_addEach_of_ne faithful (by decide : Field.cc ≠ .replyTo),
      header_addEach_of_ne faithful (by decide : Field.cc ≠ .bcc),
      header_addEach_of_ne faithful (by decide : Field.bcc ≠ .replyTo),
      address_header_addEach faithful (hempty _ (by decide) _) haddressees,
      address_header_addEach faithful _ hcc, address_header_addEach faithful _ hbcc]
    · rw [header_addEach_of_ne faithful (by decide), header_addEach_of_ne faithful (by decide)]
      exact hempty _ (by decide) _
    · rw [header_addEach_of_ne faithful (by decide)]
      exact hempty _ (by decide) _

/-- **A letter whose mailboxes read back makes a message**, and its envelope has their addresses. -/
theorem Client.build_of_readsBack (addressed : ¬ Misaddressed lib letter.envelope)
    (hsender : v.ReadsBack (c.senderOf letter.envelope))
    (hrecipients : ∀ m ∈ mailboxes lib letter.envelope.recipients, v.ReadsBack m)
    (state : lib.State) :
    ∃ message after, c.build letter state = (.ok message, after) ∧
      v.route message = ⟨v.address (c.senderOf letter.envelope),
        (mailboxes lib letter.envelope.recipients).map v.address⟩ := by
  obtain ⟨⟨sender, hheader, haddress⟩, haddresses⟩ := header_outline faithful hsender hrecipients
  have hsome : v.recipients (c.outline letter) ≠ [] := by
    intro hnone
    rw [hnone] at haddresses
    -- the letter has an addressee, whose mailbox is not lost
    obtain ⟨a, rest, ha⟩ := List.exists_cons_of_ne_nil fun h => addressed (.inl h)
    have hmem : a ∈ addresses letter.envelope := by simp [addresses, ha]
    obtain ⟨m, hm⟩ := isAddress_iff.mp (isAddress_of_addressed addressed hmem)
    unfold Envelope.recipients at haddresses
    rw [ha, List.cons_append, List.cons_append, mailboxes_of_spells hm] at haddresses
    cases haddresses
  obtain ⟨message, after, hbuild, hroute⟩ :=
    faithful.build_route (contentOf letter) state hheader hsome
  exact ⟨message, after, Client.build_eq_ok_iff.mpr ⟨addressed, hbuild⟩,
    by rw [hroute, haddress, haddresses]⟩

/-- **Hidden copies do not change the text of a message.** -/
theorem Client.text_of_build {bcc : List String} {state after after' : lib.State}
    {message message' : lib.Message} (h : c.build letter state = (.ok message, after))
    (h' : c.build { letter with envelope := { letter.envelope with bcc } } state
      = (.ok message', after')) : v.text message = v.text message' := by
  have halike : v.Alike (c.outline letter)
      (c.outline { letter with envelope := { letter.envelope with bcc } }) := by
    unfold Client.outline
    refine alike_addEach faithful .replyTo _ ?_
    exact faithful.alike.trans (alike_addEach_bcc faithful _ _)
      (faithful.alike.symm (alike_addEach_bcc faithful _ _))
  exact faithful.build_alike halike (Client.build_eq_ok_iff.mp h).2 (Client.build_eq_ok_iff.mp h').2

end messages

end LocalizedMail.Smtp
