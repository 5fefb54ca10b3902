import LocalizedMail.Proofs.Composing
import LocalizedMail.Proofs.Retry

/-!
# What a transport is handed

Statistics, counters and events are three reports on the same deliveries, each kept in its own place.
What they report on is here made visible from outside: a transport that keeps a record writes down
every letter that it is handed and the answer that it gives, and is otherwise the transport that it
was.  The three reports can then be compared with the record.

  * `Transport.recording`: a transport with a record;
  * `Tallied` and `Booked`: events against a record, statistics against events; `Audited`: both,
    and the compositions too, kept by `Audited.append`;
  * `Accounted`: a step of a mailer whose reports agree with its record, and that keeping the record
    does not change;
  * `attempts_recording`: the attempts of one delivery, by induction on those that are left;
  * `Call.accounted`: every call of a mailer is accounted for.
-/

namespace LocalizedMail.Mail

variable {σ : Type}

/-! ## §1. Records -/

/-- A letter that a transport was handed, and what it answered. -/
structure Handover where
  letter : Letter
  answer : Except DeliveryFault Receipt

/-- Whether the transport accepted the letter. -/
def Handover.accepted (h : Handover) : Bool := h.answer.toBool

/-- The state of a transport with a record of what it was handed, oldest first. -/
structure Recorded (σ : Type) where
  link : σ
  record : List Handover

/-- The same transport with a record. -/
def Transport.recording (transport : Transport σ) : Transport (Recorded σ) where
  deliver letter r :=
    match transport.deliver letter r.link with
    | (answer, link) => (answer, ⟨link, r.record ++ [⟨letter, answer⟩]⟩)

theorem deliver_recording {transport : Transport σ} {letter : Letter} {link link' : σ}
    {answer : Except DeliveryFault Receipt}
    (h : transport.deliver letter link = (answer, link')) (record : List Handover) :
    transport.recording.deliver letter ⟨link, record⟩
      = (answer, ⟨link', record ++ [⟨letter, answer⟩]⟩) := by
  simp only [Transport.recording, h]

/-- The same mailer over a transport with a record. -/
def Mailer.recorded (m : Mailer σ) (record : List Handover) : Mailer (Recorded σ) where
  engine := m.engine
  retry := m.retry
  link := ⟨m.link, record⟩
  stats := m.stats

/-- The same step over a transport with a record. -/
def recordedStep {α : Type} (step : Step α (Mailer σ)) (record : List Handover) :
    Step α (Mailer (Recorded σ)) :=
  ⟨step.result, step.state.recorded record, step.events⟩

/-! ## §2. Events against a record -/

/-- Events that neither hand over a letter nor count a mail. -/
structure Silent (es : List Event) : Prop where
  deliveries : ∀ now, deliveries now es = []
  counts : ∀ {c : Counter}, c.ofMails → c.count es = 0

theorem silent_of_templates {es : List Event} (h : OfTemplates es) : Silent es :=
  ⟨fun now => (h.quiet.timeline now).1, h.count_eq_zero⟩

theorem silent_nil : Silent [] := ⟨fun _ => rfl, fun _ => rfl⟩

theorem silent_paused (ms : Nat) : Silent [.paused ms] where
  deliveries _ := rfl
  counts {c} hc := by
    cases c with
    | mailsFailed reason => cases reason <;> rfl
    | loads tier => cases hc
    | _ => rfl

theorem silent_bulkFinished (sent failed : Nat) : Silent [.bulkFinished sent failed] where
  deliveries _ := rfl
  counts {c} hc := by
    cases c with
    | mailsFailed reason => cases reason <;> rfl
    | loads tier => cases hc
    | _ => rfl

/-- Events that tell of the letters in a record, and count what became of them. -/
structure Tallied (record : List Handover) (es : List Event) : Prop where
  letters : ∀ now, (deliveries now es).map Prod.snd = record.map Handover.letter
  /-- Each letter was sent, was given up or was tried again. -/
  made : record.length = Counter.mailsSent.count es
    + (Counter.mailsFailed .transport).count es + Counter.retries.count es
  accepted : record.countP Handover.accepted = Counter.mailsSent.count es

theorem Silent.tallied {es : List Event} (h : Silent es) : Tallied [] es where
  letters now := by rw [h.deliveries]; rfl
  made := by rw [h.counts rfl, h.counts rfl, h.counts rfl]; rfl
  accepted := by rw [h.counts rfl]; rfl

theorem Tallied.append {hs hs' : List Handover} {es fs : List Event} (h : Tallied hs es)
    (h' : Tallied hs' fs) : Tallied (hs ++ hs') (es ++ fs) where
  letters now := by rw [deliveries_append, List.map_append, h.letters, h'.letters, List.map_append]
  made := by
    rw [List.length_append, h.made, h'.made]
    simp only [Counter.count_append]
    omega
  accepted := by rw [List.countP_append, h.accepted, h'.accepted, Counter.count_append]

/-- Statistics that grew by what events count. -/
structure Booked (before after : Stats) (es : List Event) : Prop where
  sent : after.sent = before.sent + Counter.mailsSent.count es
  failed : after.failed = before.failed + (Counter.mailsFailed .transport).count es
  retries : after.retries = before.retries + Counter.retries.count es
  templateErrors :
    after.templateErrors = before.templateErrors + (Counter.mailsFailed .template).count es

theorem Silent.booked {es : List Event} (h : Silent es) (stats : Stats) :
    Booked stats stats es where
  sent := by rw [h.counts rfl, Nat.add_zero]
  failed := by rw [h.counts rfl, Nat.add_zero]
  retries := by rw [h.counts rfl, Nat.add_zero]
  templateErrors := by rw [h.counts rfl, Nat.add_zero]

theorem Booked.append {a b c : Stats} {es fs : List Event} (h : Booked a b es)
    (h' : Booked b c fs) : Booked a c (es ++ fs) where
  sent := by rw [h'.sent, h.sent, Counter.count_append, Nat.add_assoc]
  failed := by rw [h'.failed, h.failed, Counter.count_append, Nat.add_assoc]
  retries := by rw [h'.retries, h.retries, Counter.count_append, Nat.add_assoc]
  templateErrors := by
    rw [h'.templateErrors, h.templateErrors, Counter.count_append, Nat.add_assoc]

/-- Three reports that agree: the events tell of the letters in a record, the statistics grew by
what the events count, and so many of the compositions failed as the events say. -/
structure Audited (before after : Stats) (es : List Event)
    (compositions : List (Except Fault Letter)) (made : List Handover) : Prop where
  tallied : Tallied made es
  booked : Booked before after es
  composed : compositions.countP (fun c => !c.toBool)
    = (Counter.mailsFailed .template).count es

theorem Silent.audited {es : List Event} (h : Silent es) (stats : Stats) :
    Audited stats stats es [] [] :=
  ⟨h.tallied, h.booked stats, (h.counts rfl).symm⟩

/-- **Reports that agree one after the other agree together.** -/
theorem Audited.append {a b c : Stats} {es fs : List Event} {cs ds : List (Except Fault Letter)}
    {hs hs' : List Handover} (h : Audited a b es cs hs) (h' : Audited b c fs ds hs') :
    Audited a c (es ++ fs) (cs ++ ds) (hs ++ hs') where
  tallied := h.tallied.append h'.tallied
  booked := h.booked.append h'.booked
  composed := by rw [List.countP_append, h.composed, h'.composed, Counter.count_append]

theorem Audited.followed {a b : Stats} {es fs : List Event} {cs : List (Except Fault Letter)}
    {hs : List Handover} (h : Audited a b es cs hs) (h' : Silent fs) :
    Audited a b (es ++ fs) cs hs := by
  have hall := h.append (h'.audited b)
  rwa [List.append_nil, List.append_nil] at hall

/-! ## §3. Attempts -/

namespace Mailer

/-- What attempts leave in a record that start with attempt number `attempt`. -/
structure Attempted (attempt : Nat) (step : Step Outcome σ) (record : List Handover) : Prop where
  tallied : Tallied record step.events
  attempts : step.result.attempts = attempt + Counter.retries.count step.events
  sent : Counter.mailsSent.count step.events = step.result.success.toNat
  failed : (Counter.mailsFailed .transport).count step.events = (!step.result.success).toNat
  composed : (Counter.mailsFailed .template).count step.events = 0

variable {transport : Transport σ} {letter : Letter}

/-- The record of the last attempt. -/
theorem Attempted.last (attempt : Nat) (answer : Except DeliveryFault Receipt) (link : σ) :
    Attempted attempt
      ⟨⟨letter.envelope.recipients, attempt, answer⟩, link,
        .attempted letter :: closing attempt answer⟩ [⟨letter, answer⟩] := by
  cases answer with
  | ok receipt => exact ⟨⟨fun _ => rfl, rfl, rfl⟩, rfl, rfl, rfl, rfl⟩
  | error fault => exact ⟨⟨fun _ => rfl, rfl, rfl⟩, rfl, rfl, rfl, rfl⟩

/-- **Step lemma**: an attempt before others goes before their record. -/
theorem Attempted.again {attempt : Nat} {rest : Step Outcome σ} {record : List Handover}
    (h : Attempted (attempt + 1) rest record) (fault : DeliveryFault) (delay : Nat) :
    Attempted attempt
      { rest with
        events := [.attempted letter, .attemptFailed attempt fault, .retrying (attempt + 1) delay,
          .paused delay] ++ rest.events }
      (⟨letter, .error fault⟩ :: record) := by
  have hfirst : Tallied [⟨letter, .error fault⟩] [.attempted letter, .attemptFailed attempt fault,
      .retrying (attempt + 1) delay, .paused delay] := ⟨fun _ => rfl, rfl, rfl⟩
  refine ⟨hfirst.append h.tallied, ?attempts, ?sent, ?failed, ?composed⟩
  case attempts =>
    dsimp only
    rw [h.attempts, Counter.count_append, ← Nat.add_assoc]
    rfl
  case sent =>
    dsimp only
    rw [Counter.count_append, h.sent]
    exact Nat.zero_add _
  case failed =>
    dsimp only
    rw [Counter.count_append, h.failed]
    exact Nat.zero_add _
  case composed =>
    dsimp only
    rw [Counter.count_append, h.composed]
    rfl

/-- **Run lemma**: the attempts of a delivery are those in the record, and keeping the record
changes nothing about them. -/
theorem attempts_recording (transport : Transport σ) (letter : Letter) (left attempt : Nat)
    (backoff : Backoff) (link : σ) :
    let step := attempts transport letter left attempt backoff link
    ∃ made, Attempted attempt step made ∧ ∀ record,
      attempts transport.recording letter left attempt backoff ⟨link, record⟩
        = ⟨step.result, ⟨step.state, record ++ made⟩, step.events⟩ := by
  induction left generalizing attempt backoff link with
  | zero =>
    rcases h : transport.deliver letter link with ⟨answer, link'⟩
    refine ⟨[⟨letter, answer⟩], ?_, fun record => ?_⟩
    · rw [attempts_last h (Or.inr rfl)]
      exact Attempted.last attempt answer link'
    · rw [attempts_last h (Or.inr rfl), attempts_last (deliver_recording h record) (Or.inr rfl)]
  | succ left ih =>
    rcases h : transport.deliver letter link with ⟨answer, link'⟩
    cases ht : isTransient answer with
    | false =>
      refine ⟨[⟨letter, answer⟩], ?_, fun record => ?_⟩
      · rw [attempts_last h (Or.inl ht)]
        exact Attempted.last attempt answer link'
      · rw [attempts_last h (Or.inl ht), attempts_last (deliver_recording h record) (Or.inl ht)]
    | true =>
      cases answer with
      | ok receipt => cases ht
      | error fault =>
        obtain ⟨made, hmade, hsame⟩ := ih (attempt + 1) backoff.next.2 link'
        refine ⟨⟨letter, .error fault⟩ :: made, ?_, fun record => ?_⟩
        · rw [attempts_again h ht]
          exact hmade.again fault backoff.next.1
        · rw [attempts_again h ht, attempts_again (deliver_recording h record) ht]
          dsimp only
          rw [hsame, List.append_assoc]
          rfl

end Mailer

/-! ## §4. Steps of a mailer -/

/-- A step of a mailer that agrees with its record: its reports do, and the step over a transport
with a record is the same step. -/
structure Accounted {α : Type} (m : Mailer σ) (step : Step α (Mailer σ))
    (recording : List Handover → Step α (Mailer (Recorded σ)))
    (compositions : List (Except Fault Letter)) (made : List Handover) : Prop where
  recorded : ∀ record, recording record = recordedStep step (record ++ made)
  audited : Audited m.stats step.state.stats step.events compositions made

/-- What a step answers has no part in its accounts. -/
theorem Accounted.map {α β : Type} {m : Mailer σ} {step : Step α (Mailer σ)}
    {recording : List Handover → Step α (Mailer (Recorded σ))}
    {compositions : List (Except Fault Letter)} {made : List Handover}
    (h : Accounted m step recording compositions made) (f : α → β) :
    Accounted m (step.map f) (fun record => (recording record).map f) compositions made where
  recorded record := congrArg (Step.map f) (h.recorded record)
  audited := h.audited

namespace Mailer

section steps

variable (disk : FileTree) (transport : Transport σ) (m : Mailer σ)

/-- Composing a mail hands over nothing. -/
theorem compose_accounted (r : Request) :
    Accounted m (m.compose disk r) (fun record => (m.recorded record).compose disk r)
      [(m.compose disk r).result] [] := by
  have hrecorded : ∀ record,
      (m.recorded record).compose disk r = recordedStep (m.compose disk r) (record ++ []) := by
    intro record
    rw [List.append_nil]
    unfold compose recordedStep
    dsimp only
    have hengine : (m.recorded record).engine = m.engine := rfl
    rw [hengine]
    cases (m.engine.composeMail disk r.template r.lang r.values).result <;> rfl
  rw [compose_result]
  cases hletter : letterFor disk m.engine r with
  | ok letter =>
    obtain ⟨hstate, htemplates⟩ := compose_of_letter hletter
    have hsilent := silent_of_templates htemplates
    refine ⟨hrecorded, hsilent.tallied, ?_, (hsilent.counts rfl).symm⟩
    rw [hstate]
    exact hsilent.booked m.stats
  | error fault =>
    obtain ⟨hstate, cause, es, -, htemplates, hevents⟩ := compose_of_fault hletter
    have hsilent := silent_of_templates htemplates
    have hreport : Tallied [] [.composeFailed r.template cause] := ⟨fun _ => rfl, rfl, rfl⟩
    refine ⟨hrecorded, ?_⟩
    rw [hevents, hstate]
    exact (hsilent.audited m.stats).append ⟨hreport, ⟨rfl, rfl, rfl, rfl⟩, rfl⟩

/-- A first result and those after it, which there are only if the first is no failure. -/
def upToFailure {α ε : Type} (first : Except ε α) (others : List (Except ε α)) :
    List (Except ε α) :=
  match first with
  | .ok value => .ok value :: others
  | .error error => [.error error]

/-- What each of several mails composes to in its turn, up to the first that does not compose. -/
def compositions (disk : FileTree) (m : Mailer σ) : List Request → List (Except Fault Letter)
  | [] => []
  | r :: rest =>
    let step := m.compose disk r
    upToFailure step.result (compositions disk step.state rest)

theorem composeAll_accounted (rs : List Request) :
    Accounted m (m.composeAll disk rs) (fun record => (m.recorded record).composeAll disk rs)
      (m.compositions disk rs) [] := by
  induction rs generalizing m with
  | nil =>
    exact ⟨fun record => by rw [List.append_nil]; rfl, silent_nil.audited _⟩
  | cons r rest ih =>
    have hone := compose_accounted disk m r
    have hrecorded : ∀ record, ((m.recorded record).compose disk r).result
        = (m.compose disk r).result := by
      intro record
      rw [hone.recorded]
      rfl
    have hstate : ∀ record, ((m.recorded record).compose disk r).state
        = (m.compose disk r).state.recorded record := by
      intro record
      rw [hone.recorded, List.append_nil]
      rfl
    cases hresult : (m.compose disk r).result with
    | error fault =>
      rw [hresult] at hone
      rw [composeAll_of_error hresult, compositions, hresult]
      refine ⟨fun record => ?_, hone.audited⟩
      rw [composeAll_of_error ((hrecorded record).trans hresult), hone.recorded]
      rfl
    | ok letter =>
      have hothers := ih (m.compose disk r).state
      rw [hresult] at hone
      rw [composeAll_of_ok hresult, compositions, hresult]
      refine ⟨fun record => ?_, hone.audited.append hothers.audited⟩
      rw [composeAll_of_ok ((hrecorded record).trans hresult), hstate, hothers.recorded,
        hone.recorded]
      rfl

/-- A delivery with retries is accounted for. -/
theorem deliver_accounted (letter : Letter) (maxAttempts : Nat) :
    ∃ made, Accounted m (m.deliver transport letter maxAttempts)
      (fun record => (m.recorded record).deliver transport.recording letter maxAttempts) [] made := by
  obtain ⟨made, hmade, hsame⟩ := attempts_recording transport letter (maxAttempts - 1) 1
    (.start (.ofRetry m.retry)) m.link
  refine ⟨made, fun record => ?recorded, hmade.tallied, ?booked, hmade.composed.symm⟩
  case recorded =>
    unfold deliver recordedStep recorded
    dsimp only
    rw [hsame]
  case booked =>
    unfold deliver Stats.afterOutcome
    dsimp only
    have hretries := hmade.attempts
    have hsent := hmade.sent
    have hfailed := hmade.failed
    generalize attempts transport letter (maxAttempts - 1) 1 (.start (.ofRetry m.retry)) m.link
      = step at hmade hretries hsent hfailed ⊢
    rw [hretries, Nat.add_sub_cancel_left]
    cases hsuccess : step.result.success with
    | true =>
      rw [hsuccess] at hsent hfailed
      refine ⟨?_, ?_, rfl, ?_⟩
      · rw [hsent]; rfl
      · rw [hfailed]; rfl
      · rw [hmade.composed]; rfl
    | false =>
      rw [hsuccess] at hsent hfailed
      refine ⟨?_, ?_, rfl, ?_⟩
      · rw [hsent]; rfl
      · rw [hfailed]; rfl
      · rw [hmade.composed]; rfl

theorem deliverAll_accounted (maxAttempts delayMs : Nat) (first : Bool) (letters : List Letter) :
    ∃ made, Accounted m (m.deliverAll transport maxAttempts delayMs first letters)
      (fun record =>
        (m.recorded record).deliverAll transport.recording maxAttempts delayMs first letters)
      [] made := by
  induction letters generalizing m first with
  | nil =>
    exact ⟨[], fun record => by rw [List.append_nil]; rfl, silent_nil.audited _⟩
  | cons letter rest ih =>
    obtain ⟨made, hone⟩ := deliver_accounted transport m letter maxAttempts
    obtain ⟨others, hothers⟩ := ih (m.deliver transport letter maxAttempts).state false
    have hpause : Silent (if first || delayMs = 0 then [] else [Event.paused delayMs]) := by
      split
      · exact silent_nil
      · exact silent_paused delayMs
    refine ⟨made ++ others, fun record => ?_,
      ((hpause.audited m.stats).append hone.audited).append hothers.audited⟩
    unfold deliverAll
    dsimp only
    rw [hone.recorded]
    have hrest := hothers.recorded (record ++ made)
    dsimp only [recordedStep] at hrest ⊢
    rw [hrest, List.append_assoc]

/-- A mail that is sent in one attempt is accounted for. -/
theorem send_accounted (r : Request) :
    ∃ made, Accounted m (m.send disk transport r)
      (fun record => (m.recorded record).send disk transport.recording r)
      [(m.compose disk r).result] made := by
  have hone := compose_accounted disk m r
  have hrecorded := hone.recorded
  unfold send
  dsimp only
  simp only [hrecorded, List.append_nil]
  dsimp only [recordedStep]
  cases hresult : (m.compose disk r).result with
  | error fault =>
    rw [hresult] at hone
    refine ⟨[], fun record => ?_, hone.audited⟩
    rw [List.append_nil]
    rfl
  | ok letter =>
    rw [hresult] at hone
    dsimp only
    rcases h : transport.deliver letter (m.compose disk r).state.link with ⟨answer, link'⟩
    have hlink : ∀ record, transport.recording.deliver letter
        ((m.compose disk r).state.recorded record).link
          = (answer, ⟨link', record ++ [⟨letter, answer⟩]⟩) := deliver_recording h
    -- the answer decides between the two counts, and between the events that are counted
    cases answer with
    | ok receipt =>
      have hlast : Tallied [⟨letter, .ok receipt⟩]
          [.attempted letter, .sent receipt.recipients none] := ⟨fun _ => rfl, rfl, rfl⟩
      refine ⟨[⟨letter, .ok receipt⟩], fun record => ?_,
        hone.audited.append ⟨hlast, ⟨rfl, rfl, rfl, rfl⟩, rfl⟩⟩
      dsimp only
      rw [hlink]
      rfl
    | error fault =>
      have hlast : Tallied [⟨letter, .error fault⟩] [.attempted letter, .sendFailed fault] :=
        ⟨fun _ => rfl, rfl, rfl⟩
      refine ⟨[⟨letter, .error fault⟩], fun record => ?_,
        hone.audited.append ⟨hlast, ⟨rfl, rfl, rfl, rfl⟩, rfl⟩⟩
      dsimp only
      rw [hlink]
      rfl

/-- A mail that is sent with retries is accounted for. -/
theorem sendWithRetry_accounted (r : Request) (maxAttempts : Nat) :
    ∃ made, Accounted m (m.sendWithRetry disk transport r maxAttempts)
      (fun record => (m.recorded record).sendWithRetry disk transport.recording r maxAttempts)
      [(m.compose disk r).result] made := by
  have hone := compose_accounted disk m r
  have hrecorded := hone.recorded
  unfold sendWithRetry
  dsimp only
  simp only [hrecorded, List.append_nil]
  dsimp only [recordedStep]
  cases hresult : (m.compose disk r).result with
  | error fault =>
    rw [hresult] at hone
    refine ⟨[], fun record => ?_, hone.audited⟩
    rw [List.append_nil]
    rfl
  | ok letter =>
    rw [hresult] at hone
    obtain ⟨made, hmade⟩ :=
      deliver_accounted transport (m.compose disk r).state letter maxAttempts
    refine ⟨made, fun record => ?_, hone.audited.append hmade.audited⟩
    dsimp only
    rw [hmade.recorded]
    rfl

/-- A bulk send is accounted for, whether or not it comes to its deliveries. -/
theorem sendBulk_accounted (b : BulkRequest) (recipients : List Recipient) :
    ∃ made, Accounted m (m.sendBulk disk transport b recipients)
      (fun record => (m.recorded record).sendBulk disk transport.recording b recipients)
      (m.compositions disk (recipients.map b.mailFor)) made := by
  have hall := composeAll_accounted disk m (recipients.map b.mailFor)
  have hrecorded := hall.recorded
  unfold sendBulk
  dsimp only
  simp only [hrecorded, List.append_nil]
  dsimp only [recordedStep]
  cases hresult : (m.composeAll disk (recipients.map b.mailFor)).result with
  | error fault =>
    refine ⟨[], fun record => ?_, hall.audited⟩
    rw [List.append_nil]
    rfl
  | ok letters =>
    obtain ⟨made, hmade⟩ := deliverAll_accounted transport
      (m.composeAll disk (recipients.map b.mailFor)).state
      (b.maxAttempts.getD m.retry.maxAttempts) (b.delayMs.getD m.retry.bulkDelayMs) true letters
    refine ⟨made, fun record => ?recorded, ?audited⟩
    case recorded =>
      dsimp only
      have hretry : (m.recorded record).retry = m.retry := rfl
      rw [hretry, hmade.recorded]
      rfl
    case audited =>
      -- the first half hands over nothing, and the second half composes nothing
      have hboth := hall.audited.append hmade.audited
      rw [List.append_nil, List.nil_append] at hboth
      exact hboth.followed (silent_bulkFinished _ _)

end steps

end Mailer

/-! ## §5. Calls -/

/-- What a mailer is asked to do. -/
inductive Call where
  | send (r : Request)
  | sendWithRetry (r : Request) (maxAttempts : Nat)
  | sendBulk (b : BulkRequest) (recipients : List Recipient)

/-- What a mailer answers. -/
inductive Reply where
  | receipt (r : Except Fault Receipt)
  | outcome (r : Except Fault Outcome)
  | report (r : Except Fault BulkReport)

namespace Call

/-- What a call does to a mailer. -/
def run (disk : FileTree) (transport : Transport σ) (m : Mailer σ) : Call → Step Reply (Mailer σ)
  | send r => (m.send disk transport r).map .receipt
  | sendWithRetry r maxAttempts => (m.sendWithRetry disk transport r maxAttempts).map .outcome
  | sendBulk b recipients => (m.sendBulk disk transport b recipients).map .report

/-- What the mails of a call compose to, up to the first that does not compose. -/
def compositions (disk : FileTree) (m : Mailer σ) : Call → List (Except Fault Letter)
  | send r => [(m.compose disk r).result]
  | sendWithRetry r _ => [(m.compose disk r).result]
  | sendBulk b recipients => m.compositions disk (recipients.map b.mailFor)

/-- What the transport is handed during a call. -/
def handovers (disk : FileTree) (transport : Transport σ) (m : Mailer σ) (c : Call) :
    List Handover :=
  (c.run disk transport.recording (m.recorded [])).state.link.record

/-- **Every call is accounted for.** -/
theorem accounted (disk : FileTree) (transport : Transport σ) (m : Mailer σ) (c : Call) :
    Accounted m (c.run disk transport m)
      (fun record => c.run disk transport.recording (m.recorded record))
      (c.compositions disk m) (c.handovers disk transport m) := by
  obtain ⟨made, h⟩ : ∃ made, Accounted m (c.run disk transport m)
      (fun record => c.run disk transport.recording (m.recorded record))
      (c.compositions disk m) made := by
    cases c with
    | send r =>
      obtain ⟨made, h⟩ := m.send_accounted disk transport r
      exact ⟨made, h.map Reply.receipt⟩
    | sendWithRetry r maxAttempts =>
      obtain ⟨made, h⟩ := m.sendWithRetry_accounted disk transport r maxAttempts
      exact ⟨made, h.map Reply.outcome⟩
    | sendBulk b recipients =>
      obtain ⟨made, h⟩ := m.sendBulk_accounted disk transport b recipients
      exact ⟨made, h.map Reply.report⟩
  -- the record that starts empty is what the call adds to any record
  have hmade : c.handovers disk transport m = made := by
    unfold handovers
    rw [h.recorded]
    rfl
  rw [hmade]
  exact h

end Call

end LocalizedMail.Mail
