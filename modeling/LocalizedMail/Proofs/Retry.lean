import LocalizedMail.Mail.Mailer
import LocalizedMail.Proofs.Schedule

/-!
# What a delivery with retries does

A transport with a state gives a sequence of answers to one letter that is handed over again and
again.  A delivery with retries reads that sequence up to the first answer that is no transient
failure, or up to its last attempt, and everything else about it follows from where it stopped:

  * `attemptsMade`: where it stops;
  * `Retried`: the calls and when they are made, the outcome, the mailer afterwards;
  * `deliver_retried`: every delivery with retries is as `Retried` says;
  * `deliver_cuts_long_delay`: a delay of more than thirty years is not waited out.

The induction is on the attempts that are left (`attempts_run`).  Its invariant `Run` speaks of the
answers from the current connection on, so the step from one attempt to the next only shifts them.
-/

namespace LocalizedMail.Mail

variable {σ : Type}

/-! ## §1. The answers to one letter -/

namespace Transport

/-- The connection after a letter was handed over so many times. -/
def linkAfter (transport : Transport σ) (letter : Letter) (link : σ) : Nat → σ
  | 0 => link
  | n + 1 => (transport.deliver letter (linkAfter transport letter link n)).2

/-- The answer when a letter is handed over after so many other times. -/
def answer (transport : Transport σ) (letter : Letter) (link : σ) (n : Nat) :
    Except DeliveryFault Receipt :=
  (transport.deliver letter (transport.linkAfter letter link n)).1

/-- A transport that gives a sequence of answers, whatever it is handed. -/
def replaying (answers : Nat → Except DeliveryFault Receipt) : Transport Nat where
  deliver _ n := (answers n, n + 1)

/-- Every sequence of answers is the sequence of a transport. -/
theorem answer_replaying (answers : Nat → Except DeliveryFault Receipt) (letter : Letter) :
    (replaying answers).answer letter 0 = answers := by
  have hlink : ∀ n, (replaying answers).linkAfter letter 0 n = n := by
    intro n
    induction n with
    | zero => rfl
    | succ n ih =>
      show (replaying answers).linkAfter letter 0 n + 1 = n + 1
      rw [ih]
  funext n
  show answers ((replaying answers).linkAfter letter 0 n) = answers n
  rw [hlink n]

section shift

variable {transport : Transport σ} {letter : Letter} {link link' : σ}
  {first : Except DeliveryFault Receipt} (h : transport.deliver letter link = (first, link'))

include h

theorem linkAfter_shift (n : Nat) :
    transport.linkAfter letter link (n + 1) = transport.linkAfter letter link' n := by
  induction n with
  | zero =>
    show (transport.deliver letter link).2 = link'
    rw [h]
  | succ n ih =>
    show (transport.deliver letter (transport.linkAfter letter link (n + 1))).2 = _
    rw [ih]
    rfl

theorem answer_shift (n : Nat) :
    transport.answer letter link (n + 1) = transport.answer letter link' n := by
  unfold answer
  rw [linkAfter_shift h]

theorem answer_zero : transport.answer letter link 0 = first := by
  show (transport.deliver letter link).1 = first
  rw [h]

end shift

end Transport

/-! ## §2. Where a delivery stops -/

/-- Whether an answer is a failure after which another attempt may succeed. -/
def isTransient : Except DeliveryFault Receipt → Bool
  | .ok _ => false
  | .error fault => fault.isRetryable

/-- The number of attempts of which there are at most so many: up to the first answer that is no
transient failure, or all of them. -/
def attemptsMade (answers : Nat → Except DeliveryFault Receipt) (most : Nat) : Nat :=
  match (List.range most).find? fun i => !isTransient (answers i) with
  | some i => i + 1
  | none => most

theorem attemptsMade_of_final {answers : Nat → Except DeliveryFault Receipt} (most : Nat)
    (h : isTransient (answers 0) = false) : attemptsMade answers (most + 1) = 1 := by
  unfold attemptsMade
  rw [List.range_succ_eq_map, List.find?_cons_of_pos (by simp [h])]

theorem attemptsMade_of_transient {answers : Nat → Except DeliveryFault Receipt} (most : Nat)
    (h : isTransient (answers 0) = true) :
    attemptsMade answers (most + 1) = attemptsMade (fun i => answers (i + 1)) most + 1 := by
  unfold attemptsMade
  rw [List.range_succ_eq_map, List.find?_cons_of_neg (by simp [h]), List.find?_map]
  have hcomp : (fun i => !isTransient (answers i)) ∘ Nat.succ
      = fun i => !isTransient (answers (i + 1)) := rfl
  rw [hcomp]
  cases (List.range most).find? fun i => !isTransient (answers (i + 1)) <;> rfl

/-- At least one attempt is made. -/
theorem attemptsMade_pos (answers : Nat → Except DeliveryFault Receipt) (most : Nat) :
    0 < attemptsMade answers (most + 1) := by
  cases h : isTransient (answers 0) with
  | false => rw [attemptsMade_of_final most h]; exact Nat.one_pos
  | true => rw [attemptsMade_of_transient most h]; exact Nat.succ_pos _

/-- The next delays of a run, so many of them. -/
def Backoff.delays (b : Backoff) : Nat → List Nat
  | 0 => []
  | n + 1 => b.next.1 :: b.next.2.delays n

theorem Backoff.length_delays (b : Backoff) (n : Nat) : (b.delays n).length = n := by
  induction n generalizing b with
  | zero => rfl
  | succ n ih =>
    show (b.next.2.delays n).length + 1 = n + 1
    rw [ih]

/-! ## §4. Attempts -/

namespace Mailer

/-- What the last attempt is reported as, apart from the letter. -/
def closing (attempt : Nat) : Except DeliveryFault Receipt → List Event
  | .ok receipt => [.sent receipt.recipients (some attempt)]
  | .error fault => [.attemptFailed attempt fault, .failed]

theorem quiet_closing (attempt : Nat) (answer : Except DeliveryFault Receipt) :
    Quiet (closing attempt answer) := by
  cases answer with
  | ok receipt => exact quiet_nil.cons rfl
  | error fault => exact (quiet_nil.cons rfl).cons rfl

section attempts

variable {transport : Transport σ} {letter : Letter} {link link' : σ}

/-- An attempt after which there is no other. -/
theorem attempts_last {answer : Except DeliveryFault Receipt}
    (h : transport.deliver letter link = (answer, link')) {left : Nat}
    (hlast : isTransient answer = false ∨ left = 0) (attempt : Nat) (backoff : Backoff) :
    attempts transport letter left attempt backoff link =
      ⟨⟨letter.envelope.recipients, attempt, answer⟩, link',
        .attempted letter :: closing attempt answer⟩ := by
  unfold attempts
  rw [h]
  cases answer with
  | ok receipt => rfl
  | error fault =>
    dsimp only
    split
    · next left' hretry =>
      rcases hlast with hlast | hlast
      · rw [isTransient, hretry] at hlast; cases hlast
      · cases hlast
    · rfl

/-- An attempt after which another one is made. -/
theorem attempts_again {fault : DeliveryFault}
    (h : transport.deliver letter link = (.error fault, link')) (hretry : fault.isRetryable)
    (left attempt : Nat) (backoff : Backoff) :
    attempts transport letter (left + 1) attempt backoff link =
      let rest := attempts transport letter left (attempt + 1) backoff.next.2 link'
      { rest with
        events := [.attempted letter, .attemptFailed attempt fault,
          .retrying (attempt + 1) backoff.next.1, .paused backoff.next.1] ++ rest.events } := by
  rw [attempts, h]
  dsimp only
  rw [hretry]

end attempts

/-- What attempts come to that start with attempt number `attempt` and go on so many times more. -/
structure Run (transport : Transport σ) (letter : Letter) (link : σ) (backoff : Backoff)
    (attempt retries : Nat) (step : Step Outcome σ) : Prop where
  result : step.result
    = ⟨letter.envelope.recipients, attempt + retries, transport.answer letter link retries⟩
  state : step.state = transport.linkAfter letter link (retries + 1)
  pauses : pauses step.events = backoff.delays retries
  calls : ∀ now, deliveries now step.events
    = (callTimes now ((backoff.delays retries).map waitMs)).map fun t => (t, letter)

section run

variable {transport : Transport σ} {letter : Letter} {link link' : σ}

/-- The run of the last attempt. -/
theorem Run.last {answer : Except DeliveryFault Receipt}
    (h : transport.deliver letter link = (answer, link')) (backoff : Backoff) (attempt : Nat) :
    Run transport letter link backoff attempt 0
      ⟨⟨letter.envelope.recipients, attempt, answer⟩, link',
        .attempted letter :: closing attempt answer⟩ where
  result := by rw [Transport.answer_zero h]; rfl
  state := by rw [Transport.linkAfter_shift h]; rfl
  pauses := by cases answer <;> rfl
  calls := by
    intro now
    show (now, letter) :: deliveries now (closing attempt answer) = _
    rw [((quiet_closing attempt answer).timeline now).1, Backoff.delays, List.map_nil,
      callTimes_nil]
    rfl

/-- **Step lemma**: an attempt before a run makes a run. -/
theorem Run.again {fault : DeliveryFault}
    (h : transport.deliver letter link = (.error fault, link')) {backoff : Backoff}
    {attempt retries : Nat} {rest : Step Outcome σ}
    (hrest : Run transport letter link' backoff.next.2 (attempt + 1) retries rest) :
    Run transport letter link backoff attempt (retries + 1)
      { rest with
        events := [.attempted letter, .attemptFailed attempt fault,
          .retrying (attempt + 1) backoff.next.1, .paused backoff.next.1] ++ rest.events } where
  result := by
    dsimp only
    rw [hrest.result, Transport.answer_shift h, Nat.add_right_comm, Nat.add_assoc]
  state := by
    dsimp only
    rw [hrest.state, Transport.linkAfter_shift h]
  pauses := by
    show backoff.next.1 :: Mail.pauses rest.events = backoff.next.1 :: backoff.next.2.delays retries
    rw [hrest.pauses]
  calls := by
    intro now
    show (now, letter) :: deliveries (now + waitMs backoff.next.1) rest.events = _
    rw [hrest.calls, Backoff.delays, List.map_cons, callTimes_cons, List.map_cons]

end run

/-- **Run lemma**: attempts go on until the sequence of answers stops them. -/
theorem attempts_run (transport : Transport σ) (letter : Letter) (left attempt : Nat)
    (backoff : Backoff) (link : σ) {retries : Nat}
    (hretries : attemptsMade (transport.answer letter link) (left + 1) = retries + 1) :
    Run transport letter link backoff attempt retries
      (attempts transport letter left attempt backoff link) := by
  induction left generalizing attempt backoff link retries with
  | zero =>
    rcases h : transport.deliver letter link with ⟨answer, link'⟩
    have hzero : retries = 0 := by
      cases ht : isTransient (transport.answer letter link 0) with
      | false => rw [attemptsMade_of_final 0 ht] at hretries; omega
      | true =>
        rw [attemptsMade_of_transient 0 ht] at hretries
        have hnone : attemptsMade (fun i => transport.answer letter link (i + 1)) 0 = 0 := rfl
        omega
    subst hzero
    rw [attempts_last h (Or.inr rfl)]
    exact Run.last h backoff attempt
  | succ left ih =>
    rcases h : transport.deliver letter link with ⟨answer, link'⟩
    have hanswer : transport.answer letter link 0 = answer := Transport.answer_zero h
    cases ht : isTransient answer with
    | false =>
      rw [attemptsMade_of_final _ (by rw [hanswer]; exact ht)] at hretries
      obtain rfl : retries = 0 := by omega
      rw [attempts_last h (Or.inl ht)]
      exact Run.last h backoff attempt
    | true =>
      cases answer with
      | ok receipt => cases ht
      | error fault =>
        -- the answers to the rest of the run are the answers from the second on
        have hshift : (fun i => transport.answer letter link (i + 1))
            = transport.answer letter link' := funext (Transport.answer_shift h)
        rw [attemptsMade_of_transient _ (by rw [hanswer]; exact ht), hshift] at hretries
        have hpos := attemptsMade_pos (transport.answer letter link') left
        obtain ⟨more, rfl⟩ : ∃ more, retries = more + 1 := ⟨retries - 1, by omega⟩
        rw [attempts_again h ht]
        exact Run.again h (ih (attempt + 1) backoff.next.2 link' (by omega))

end Mailer

/-! ## §5. Deliveries with retries -/

/-- The receipt of a delivery that succeeded. -/
def Outcome.receipt? (o : Outcome) : Option Receipt := o.result.toOption

/-- The failure of a delivery that did not succeed, in words. -/
def Outcome.error? (o : Outcome) : Option String :=
  match o.result with
  | .ok _ => none
  | .error fault => some fault.message

/-- The delays before the second and later attempts, of which there are so many in all. -/
def Mailer.delays (m : Mailer σ) (attempts : Nat) : List Nat :=
  (Backoff.start (.ofRetry m.retry)).delays (attempts - 1)

/-- What a delivery with retries comes to, if it makes so many attempts. -/
structure Retried (transport : Transport σ) (m : Mailer σ) (letter : Letter) (made : Nat)
    (step : Step Outcome (Mailer σ)) : Prop where
  /-- There is one call for each attempt. -/
  count : ∀ now, (deliveries now step.events).length = made
  /-- The first call is made at once, each further one after its delay, all with one letter. -/
  calls : ∀ now, deliveries now step.events
    = (callTimes now ((m.delays made).map waitMs)).map fun t => (t, letter)
  /-- The pauses that are asked for are the delays of a new run. -/
  pauses : pauses step.events = m.delays made
  /-- The delivery is over when the last call is made. -/
  ends : ∀ now, ((deliveries now step.events).map Prod.fst).getLast?
    = some (now + elapsedMs step.events)
  recipients : step.result.recipients = letter.envelope.recipients
  attempts : step.result.attempts = made
  /-- The last answer decides between a receipt and an error, and between two counts. -/
  ended :
    match transport.answer letter m.link (made - 1) with
    | .ok receipt =>
      step.result.success = true ∧ step.result.receipt? = some receipt ∧
        step.result.error? = none ∧
        step.state.stats = { m.stats with
          sent := m.stats.sent + 1, retries := m.stats.retries + (made - 1) }
    | .error fault =>
      step.result.success = false ∧ step.result.receipt? = none ∧
        step.result.error? = some fault.message ∧
        step.state.stats = { m.stats with
          failed := m.stats.failed + 1, retries := m.stats.retries + (made - 1) }
  /-- Apart from its counts, only the connection of the mailer changes. -/
  state : step.state
    = { m with link := transport.linkAfter letter m.link made, stats := step.state.stats }

/-- **A delivery with retries goes on until an answer stops it.**  For every sequence of answers
the letter is handed over up to the first answer that is no transient failure, at least once and at
most as often as allowed, with the delays of a new run between the calls. -/
theorem deliver_retried (transport : Transport σ) (m : Mailer σ) (letter : Letter)
    (maxAttempts : Nat) :
    Retried transport m letter
      (attemptsMade (transport.answer letter m.link) (max maxAttempts 1))
      (m.deliver transport letter maxAttempts) := by
  have hmost : max maxAttempts 1 = maxAttempts - 1 + 1 := by omega
  rw [hmost]
  obtain ⟨retries, hretries⟩ : ∃ retries,
      attemptsMade (transport.answer letter m.link) (maxAttempts - 1 + 1) = retries + 1 := by
    have hpos := attemptsMade_pos (transport.answer letter m.link) (maxAttempts - 1)
    exact ⟨attemptsMade (transport.answer letter m.link) (maxAttempts - 1 + 1) - 1, by omega⟩
  have hrun := Mailer.attempts_run transport letter (maxAttempts - 1) 1
    (.start (.ofRetry m.retry)) m.link hretries
  rw [hretries]
  unfold Mailer.deliver
  generalize Mailer.attempts transport letter (maxAttempts - 1) 1
    (.start (.ofRetry m.retry)) m.link = step at hrun ⊢
  have hdelays : m.delays (retries + 1) = (Backoff.start (.ofRetry m.retry)).delays retries := rfl
  have hcalls : ∀ now, deliveries now step.events
      = (callTimes now ((m.delays (retries + 1)).map waitMs)).map fun t => (t, letter) := by
    rw [hdelays]
    exact hrun.calls
  refine ⟨?count, hcalls, hrun.pauses, ?ends, ?recipients, ?attempts, ?ended, ?state⟩
  case count =>
    intro now
    rw [hcalls, List.length_map, length_callTimes, List.length_map, hdelays,
      Backoff.length_delays]
  case ends =>
    intro now
    have hfst : ∀ ts : List Nat, (ts.map fun t => (t, letter)).map Prod.fst = ts := by
      intro ts
      rw [List.map_map]
      exact List.map_id ts
    dsimp only
    rw [hcalls, hfst, getLast?_callTimes, add_elapsedMs, hrun.pauses, hdelays]
  case recipients =>
    dsimp only
    rw [hrun.result]
  case attempts =>
    dsimp only
    rw [hrun.result, Nat.add_comm]
  case ended =>
    dsimp only
    rw [hrun.result, Nat.add_sub_cancel]
    unfold Mailer.Stats.afterOutcome
    dsimp only
    rw [Nat.add_sub_cancel_left]
    cases transport.answer letter m.link retries with
    | ok receipt => exact ⟨rfl, rfl, rfl, rfl⟩
    | error fault => exact ⟨rfl, rfl, rfl, rfl⟩
  case state =>
    dsimp only
    rw [hrun.state]

/-! ## §6. A delay that is too long -/

/-- A mailer that is told to wait longer than thirty years before its second attempt. -/
def patient : Mailer Nat where
  engine := ⟨.create "templates" "en", .create "en", .empty, false⟩
  retry := { initialDelayMs := longestPauseMs + 1, maxDelayMs := longestPauseMs + 1 }
  link := 0

/-- **A long delay is cut.**  The second call is not made after the delay of the run but after
thirty years. -/
theorem deliver_cuts_long_delay :
    let step := patient.deliver (.replaying fun _ => .error (.transient "busy")) default 2
    patient.delays 2 = [longestPauseMs + 1] ∧
      deliveries 0 step.events = [(0, default), (longestPauseMs, default)] ∧
      deliveries 0 step.events ≠ (callTimes 0 (patient.delays 2)).map fun t => (t, default) := by
  decide +kernel

end LocalizedMail.Mail
