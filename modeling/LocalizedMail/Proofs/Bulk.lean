import LocalizedMail.Proofs.Composing

/-!
# A bulk send is many single sends

A bulk send composes all letters before it delivers the first, while single sends compose and
deliver in turn.  The two come to the same: composing depends on the engine only and delivering on
everything else, so the order in which they happen cannot show.

  * `sendEach`: the single sends that a bulk send stands for;
  * `deliverAll_sendEach`: delivering letters in a row against single sends, by induction on the
    recipients;
  * `sendBulk_eq_sendEach`: the whole bulk send; it adds pauses between recipients and nothing else;
  * `sendBulk_cuts_long_pause`: a pause of more than thirty years is not waited out.
-/

namespace LocalizedMail.Mail

namespace Mailer

variable {σ : Type}

/-! ## §1. Single sends -/

/-- What comes of mails that are sent one after the other, each on its own. -/
def sendEach (disk : FileTree) (transport : Transport σ) (m : Mailer σ) (maxAttempts : Nat) :
    List Request → List (Step (Except Fault Outcome) (Mailer σ))
  | [] => []
  | r :: rest =>
    let step := m.sendWithRetry disk transport r maxAttempts
    step :: sendEach disk transport step.state maxAttempts rest

/-- The mailer after steps of which each starts where the one before it ended. -/
def afterSteps (m : Mailer σ) (steps : List (Step (Except Fault Outcome) (Mailer σ))) : Mailer σ :=
  (steps.getLast?.map Step.state).getD m

theorem length_sendEach (disk : FileTree) (transport : Transport σ) (m : Mailer σ)
    (maxAttempts : Nat) (rs : List Request) :
    (m.sendEach disk transport maxAttempts rs).length = rs.length := by
  induction rs generalizing m with
  | nil => rfl
  | cons r rest ih => rw [sendEach, List.length_cons, ih, List.length_cons]

theorem afterSteps_cons (m : Mailer σ) (step : Step (Except Fault Outcome) (Mailer σ))
    (steps : List (Step (Except Fault Outcome) (Mailer σ))) :
    m.afterSteps (step :: steps) = step.state.afterSteps steps := by
  unfold afterSteps
  rw [List.getLast?_cons]
  cases steps.getLast? <;> rfl

/-- A single send of a mail that composes. -/
theorem sendWithRetry_of_letter {disk : FileTree} {m : Mailer σ} {r : Request} {letter : Letter}
    (h : letterFor disk m.engine r = .ok letter) (transport : Transport σ) (maxAttempts : Nat) :
    let delivery := m.deliver transport letter maxAttempts
    let step := m.sendWithRetry disk transport r maxAttempts
    step.result = .ok delivery.result ∧
      step.state = delivery.state.withEngine (m.engine.loaded disk r.template r.lang) ∧
      ∃ es, Quiet es ∧ step.events = es ++ delivery.events := by
  obtain ⟨hstate, htemplates⟩ := compose_of_letter h
  have hresult := compose_result disk m r
  rw [h] at hresult
  intro delivery step
  have hstep : step = m.sendWithRetry disk transport r maxAttempts := rfl
  unfold sendWithRetry at hstep
  dsimp only at hstep
  rw [hresult] at hstep
  dsimp only at hstep
  rw [hstep]
  dsimp only
  rw [hstate]
  exact ⟨rfl, rfl, _, htemplates.quiet, rfl⟩

/-! ## §2. Deliveries in a row -/

/-- The time that passes before a delivery in a row. -/
def lead (first : Bool) (delayMs : Nat) : Nat := if first then 0 else waitMs delayMs

/-- The time that passes before so many deliveries in a row. -/
def leads (first : Bool) (delayMs : Nat) : Nat → Nat
  | 0 => 0
  | n + 1 => lead first delayMs + waitMs delayMs * n

theorem leads_false (delayMs n : Nat) : leads false delayMs n = waitMs delayMs * n := by
  cases n with
  | zero => rfl
  | succ n =>
    show waitMs delayMs + waitMs delayMs * n = waitMs delayMs * (n + 1)
    rw [Nat.mul_succ, Nat.add_comm]

theorem leads_true (delayMs n : Nat) : leads true delayMs n = waitMs delayMs * (n - 1) := by
  cases n with
  | zero => rfl
  | succ n =>
    show 0 + waitMs delayMs * n = waitMs delayMs * n
    rw [Nat.zero_add]

/-- The engine of a mailer has no part in a delivery. -/
theorem deliver_engine (transport : Transport σ) (m : Mailer σ) (e : Template.Engine)
    (letter : Letter) (maxAttempts : Nat) :
    let delivery := m.deliver transport letter maxAttempts
    (m.withEngine e).deliver transport letter maxAttempts
      = ⟨delivery.result, delivery.state.withEngine e, delivery.events⟩ := rfl

/-- The first of several deliveries in a row, and the time before it. -/
theorem deliverAll_timeline (transport : Transport σ) (m : Mailer σ)
    (maxAttempts delayMs : Nat) (first : Bool) (letter : Letter) (rest : List Letter) (now : Nat) :
    let step := m.deliver transport letter maxAttempts
    let others := step.state.deliverAll transport maxAttempts delayMs false rest
    let all := m.deliverAll transport maxAttempts delayMs first (letter :: rest)
    deliveries now all.events
        = deliveries (now + lead first delayMs) step.events
          ++ deliveries (now + lead first delayMs + elapsedMs step.events) others.events ∧
      elapsedMs all.events
        = lead first delayMs + elapsedMs step.events + elapsedMs others.events := by
  intro step others all
  obtain ⟨pause, hpause, hquiet, htime⟩ : ∃ pause,
      all.events = pause ++ step.events ++ others.events ∧ (∀ t, deliveries t pause = []) ∧
        elapsedMs pause = lead first delayMs := by
    refine ⟨_, rfl, ?_, ?_⟩
    · intro t
      split <;> rfl
    · cases first with
      | true => rfl
      | false =>
        by_cases hzero : delayMs = 0
        · subst hzero
          rfl
        · simp only [Bool.false_or, decide_eq_true_eq, if_neg hzero]
          rfl
  rw [hpause, List.append_assoc, deliveries_append, deliveries_append, hquiet, htime,
    elapsedMs_append, elapsedMs_append, htime, List.nil_append]
  exact ⟨rfl, (Nat.add_assoc _ _ _).symm⟩

/-- **Deliveries in a row are the deliveries of single sends**, with a pause before each but the
first; the engine that delivers may be any, since delivering does not use it. -/
theorem deliverAll_sendEach (disk : FileTree) (transport : Transport σ) (b : BulkRequest)
    (maxAttempts delayMs now : Nat) {m : Mailer σ} {recipients : List Recipient}
    {letter : Recipient → Letter} (first : Bool) (e : Template.Engine)
    (h : ∀ r ∈ recipients, letterFor disk m.engine (b.mailFor r) = .ok (letter r)) :
    let singles := m.sendEach disk transport maxAttempts (recipients.map b.mailFor)
    let all := (m.withEngine e).deliverAll transport maxAttempts delayMs first
      (recipients.map letter)
    singles.map Step.result = all.result.map .ok ∧
      all.state = (m.afterSteps singles).withEngine e ∧
      deliveries now all.events
        = spread (waitMs delayMs) (now + lead first delayMs) (singles.map Step.events) ∧
      elapsedMs all.events
        = elapsedMs (singles.flatMap Step.events) + leads first delayMs recipients.length := by
  induction recipients generalizing m now first with
  | nil => exact ⟨rfl, rfl, rfl, rfl⟩
  | cons r rest ih =>
    have hr := h r (List.mem_cons_self ..)
    obtain ⟨hresult, hstate, es, hquiet, hevents⟩ :=
      sendWithRetry_of_letter hr transport maxAttempts
    obtain ⟨htimes, htotal⟩ := deliverAll_timeline transport (m.withEngine e) maxAttempts delayMs
      first (letter r) (rest.map letter) now
    rw [deliver_engine] at htimes htotal
    -- the others compose to the same letters after this one was sent
    have hrest : ∀ r' ∈ rest, letterFor disk
        (m.sendWithRetry disk transport (b.mailFor r) maxAttempts).state.engine (b.mailFor r')
          = .ok (letter r') := by
      rw [hstate]
      exact letterFor_others h
    obtain ⟨hresults, hstates, hcalls, helapsed⟩ := ih
      (now + lead first delayMs + elapsedMs (m.deliver transport (letter r) maxAttempts).events)
      false hrest
    rw [leads_false] at helapsed
    -- and they are delivered from where its delivery ends
    rw [hstate, withEngine_withEngine] at hresults hstates hcalls helapsed
    refine ⟨?results, ?states, ?calls, ?elapsed⟩
    case results =>
      show _ :: List.map Step.result _ = Except.ok _ :: List.map Except.ok _
      rw [hresult, hstate, hresults]
      rfl
    case states =>
      rw [List.map_cons, List.map_cons, sendEach, afterSteps_cons, hstate, ← hstates]
      rfl
    case calls =>
      rw [List.map_cons, List.map_cons, sendEach, List.map_cons, spread, hevents,
        hquiet.deliveries_append, hquiet.elapsedMs_append, hstate]
      exact htimes.trans (congrArg _ hcalls)
    case elapsed =>
      rw [List.map_cons, List.map_cons, sendEach, List.flatMap_cons, elapsedMs_append, hevents,
        hquiet.elapsedMs_append, hstate, List.length_cons, leads, htotal]
      dsimp only
      omega

/-- The engine after single sends has loaded their template so many times. -/
theorem engine_afterSteps (disk : FileTree) (transport : Transport σ) (b : BulkRequest)
    (maxAttempts : Nat) {m : Mailer σ} {recipients : List Recipient}
    {letter : Recipient → Letter}
    (h : ∀ r ∈ recipients, letterFor disk m.engine (b.mailFor r) = .ok (letter r)) :
    (m.afterSteps (m.sendEach disk transport maxAttempts (recipients.map b.mailFor))).engine
      = recipients.foldl (fun e _ => e.loaded disk b.template b.lang) m.engine := by
  induction recipients generalizing m with
  | nil => rfl
  | cons r rest ih =>
    have hr := h r (List.mem_cons_self ..)
    obtain ⟨-, hstate, -⟩ := sendWithRetry_of_letter hr transport maxAttempts
    have hengine : (m.sendWithRetry disk transport (b.mailFor r) maxAttempts).state.engine
        = m.engine.loaded disk b.template b.lang := by
      rw [hstate]
      rfl
    have hrest : ∀ r' ∈ rest, letterFor disk
        (m.sendWithRetry disk transport (b.mailFor r) maxAttempts).state.engine (b.mailFor r')
          = .ok (letter r') := by
      rw [hengine]
      exact letterFor_others h
    rw [List.map_cons, sendEach, afterSteps_cons, ih hrest, hengine, List.foldl_cons]

end Mailer

/-! ## §3. A whole bulk send -/

/-- Every mail of a bulk send was either delivered or not. -/
theorem BulkReport.sent_add_failed (r : BulkReport) : r.sent + r.failed = r.total := by
  have hle : r.sent ≤ r.total := List.countP_le_length
  unfold BulkReport.failed
  omega

variable {σ : Type}

/-- A bulk send whose mails compose delivers their letters in a row.  Composing comes before the
calls and the report after them, and neither shows in time. -/
theorem sendBulk_of_letters {disk : FileTree} {m : Mailer σ} {b : BulkRequest}
    {recipients : List Recipient} {letter : Recipient → Letter}
    (h : ∀ r ∈ recipients, letterFor disk m.engine (b.mailFor r) = .ok (letter r))
    (transport : Transport σ) (now : Nat) :
    let delivery := (m.withEngine
        (recipients.foldl (fun e _ => e.loaded disk b.template b.lang) m.engine)).deliverAll
      transport (b.maxAttempts.getD m.retry.maxAttempts) (b.delayMs.getD m.retry.bulkDelayMs) true
      (recipients.map letter)
    let bulk := m.sendBulk disk transport b recipients
    bulk.result = .ok ⟨delivery.result⟩ ∧ bulk.state = delivery.state ∧
      deliveries now bulk.events = deliveries now delivery.events ∧
      elapsedMs bulk.events = elapsedMs delivery.events := by
  obtain ⟨hcomposed, hengine, htemplates⟩ := Mailer.composeAll_of_letters h
  have hquiet := htemplates.quiet
  intro delivery bulk
  have hbulk : bulk = m.sendBulk disk transport b recipients := rfl
  unfold Mailer.sendBulk at hbulk
  dsimp only at hbulk
  rw [hcomposed, hengine] at hbulk
  dsimp only at hbulk
  have hlast : ∀ sent failed, Quiet [Event.bulkFinished sent failed] :=
    fun _ _ => quiet_nil.cons rfl
  rw [hbulk]
  dsimp only
  rw [List.append_assoc, hquiet.deliveries_append, hquiet.elapsedMs_append, deliveries_append,
    elapsedMs_append, ((hlast _ _).timeline _).1, ((hlast _ _).timeline 0).2]
  exact ⟨rfl, rfl, List.append_nil _, Nat.add_zero _⟩

/-- **A bulk send is a single send to each recipient.**  If the mail of every recipient composes,
a bulk send makes the calls of single sends in the order of the recipients, with the outcomes and
the mailer that they end with; all it adds is a pause between one recipient and the next. -/
theorem sendBulk_eq_sendEach (disk : FileTree) (transport : Transport σ) (m : Mailer σ)
    (b : BulkRequest) (recipients : List Recipient) (now : Nat)
    (h : ∀ r ∈ recipients, ∃ letter, (m.compose disk (b.mailFor r)).result = .ok letter) :
    let singles := m.sendEach disk transport (b.maxAttempts.getD m.retry.maxAttempts)
      (recipients.map fun r =>
        { template := b.template
          lang := b.lang
          values := b.values.merge r.values
          envelope := { b.envelope with addressees := [r.email] }
          text := none })
    let bulk := m.sendBulk disk transport b recipients
    let pause := waitMs (b.delayMs.getD m.retry.bulkDelayMs)
    ∃ report, bulk.result = .ok report ∧
      singles.map Step.result = report.outcomes.map .ok ∧
      bulk.state = m.afterSteps singles ∧
      (deliveries now bulk.events).map Prod.snd
        = singles.flatMap (fun s => (deliveries 0 s.events).map Prod.snd) ∧
      deliveries now bulk.events = spread pause now (singles.map Step.events) ∧
      elapsedMs bulk.events
        = elapsedMs (singles.flatMap Step.events) + pause * (recipients.length - 1) ∧
      report.total = recipients.length ∧ report.sent + report.failed = report.total := by
  let letter : Recipient → Letter := fun r =>
    (letterFor disk m.engine (b.mailFor r)).toOption.getD default
  have hletter : ∀ r ∈ recipients, letterFor disk m.engine (b.mailFor r) = .ok (letter r) := by
    intro r hr
    obtain ⟨l, hl⟩ := h r hr
    rw [Mailer.compose_result] at hl
    show _ = Except.ok ((letterFor disk m.engine (b.mailFor r)).toOption.getD default)
    rw [hl]
    rfl
  obtain ⟨hresult, hafter, htimes, htotal⟩ := sendBulk_of_letters hletter transport now
  obtain ⟨hresults, hstate, hcalls, helapsed⟩ := Mailer.deliverAll_sendEach disk transport b
    (b.maxAttempts.getD m.retry.maxAttempts) (b.delayMs.getD m.retry.bulkDelayMs) now true
    (recipients.foldl (fun e _ => e.loaded disk b.template b.lang) m.engine) hletter
  generalize Mailer.deliverAll transport _ _ _ _ _ = delivery
    at hresult hafter htimes htotal hresults hstate hcalls helapsed
  intro singles bulk pause
  have hsingles : singles = m.sendEach disk transport (b.maxAttempts.getD m.retry.maxAttempts)
      (recipients.map b.mailFor) := rfl
  rw [← hsingles] at hresults hstate hcalls helapsed
  have hcount : delivery.result.length = recipients.length := by
    have hlength := congrArg List.length hresults
    rw [List.length_map, List.length_map, hsingles, Mailer.length_sendEach, List.length_map]
      at hlength
    exact hlength.symm
  refine ⟨⟨delivery.result⟩, hresult, hresults, ?state, ?letters, ?calls, ?elapsed, hcount,
    BulkReport.sent_add_failed _⟩
  case state =>
    rw [hafter, hstate, ← Mailer.engine_afterSteps disk transport b _ hletter]
    rfl
  case letters => rw [htimes, hcalls, letters_spread, List.flatMap_map]
  case calls => exact htimes.trans hcalls
  case elapsed => rw [htotal, helapsed, Mailer.leads_true]

/-! ## §4. One newsletter -/

/-- A mailer whose first delivery fails once. -/
def greeter : Mailer (List (Option DeliveryFault)) where
  engine := ⟨.create "templates" "en", .create "en", .empty, false⟩
  retry := {}
  link := [some (.transient "busy")]

/-- A transport that follows its script and then accepts everything. -/
def script : Transport (List (Option DeliveryFault)) := .scripted ⟨[], "250 OK"⟩

/-- One greeting for everyone. -/
def newsletter : BulkRequest where
  template := "welcome"
  lang := "en"

/-- Two recipients without values of their own. -/
def subscribers : List Recipient := [⟨"ann", .empty⟩, ⟨"bob", .empty⟩]

/-- The mails of the newsletter compose, so its bulk send is two single sends. -/
theorem sendBulk_eq_sendEach_newsletter :
    (∀ r ∈ subscribers, ∃ letter,
      (greeter.compose Template.greetings (newsletter.mailFor r)).result = .ok letter) ∧
    ∃ report, (greeter.sendBulk Template.greetings script newsletter subscribers).result
        = .ok report ∧
      report.total = subscribers.length ∧ report.sent + report.failed = report.total := by
  have hcompose : ∀ r ∈ subscribers, ∃ letter,
      (greeter.compose Template.greetings (newsletter.mailFor r)).result = .ok letter := by
    intro r hr
    simp only [subscribers, List.mem_cons, List.not_mem_nil, or_false] at hr
    rcases hr with rfl | rfl
    · exact ⟨_, rfl⟩
    · exact ⟨_, rfl⟩
  obtain ⟨report, hreport, -, -, -, -, -, htotal, hsum⟩ :=
    sendBulk_eq_sendEach Template.greetings script greeter newsletter subscribers 0 hcompose
  exact ⟨hcompose, report, hreport, htotal, hsum⟩

/-- **A long pause is cut.**  Between the recipients of a bulk send there are thirty years and not
the pause that was asked for. -/
theorem sendBulk_cuts_long_pause :
    let delayMs := longestPauseMs + 1
    let bulk := greeter.sendBulk Template.greetings script
      { newsletter with delayMs := some delayMs } subscribers
    let singles := greeter.sendEach Template.greetings script greeter.retry.maxAttempts
      (subscribers.map newsletter.mailFor)
    (subscribers.all fun r =>
        (greeter.compose Template.greetings (newsletter.mailFor r)).result.toBool) ∧
      (deliveries 0 bulk.events).map Prod.fst = [0, 1000, 1000 + longestPauseMs] ∧
      deliveries 0 bulk.events ≠ spread delayMs 0 (singles.map Step.events) := by
  decide +kernel

end LocalizedMail.Mail
