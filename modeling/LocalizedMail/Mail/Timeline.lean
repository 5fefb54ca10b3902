import LocalizedMail.Event

/-!
# Deliveries in time

Pauses are the only events that take time, and none takes longer than thirty years.  A list of
events therefore says when each delivery was attempted, counted from the moment at which the first
of the events happened.

  * `elapsedMs_append` adds up the time of two lists;
  * `deliveries_append` starts the second list when the first one ends.
-/

namespace LocalizedMail.Mail

/-- The longest pause there is: thirty years of 365 days, in milliseconds. -/
def longestPauseMs : Nat := 30 * 365 * 24 * 60 * 60 * 1000

/-- How long an event takes, in milliseconds. -/
def durationMs : Event → Nat
  | .paused ms => min ms longestPauseMs
  | _ => 0

/-- How long events take, in milliseconds. -/
def elapsedMs : List Event → Nat
  | [] => 0
  | e :: es => durationMs e + elapsedMs es

/-- The letters handed to a transport, and when, for events that begin at `now`. -/
def deliveries (now : Nat) : List Event → List (Nat × Letter)
  | [] => []
  | .attempted letter :: rest => (now, letter) :: deliveries now rest
  | e :: rest => deliveries (now + durationMs e) rest

@[simp] theorem elapsedMs_nil : elapsedMs [] = 0 := rfl

@[simp] theorem elapsedMs_cons (e : Event) (es : List Event) :
    elapsedMs (e :: es) = durationMs e + elapsedMs es := rfl

@[simp] theorem elapsedMs_append (es fs : List Event) :
    elapsedMs (es ++ fs) = elapsedMs es + elapsedMs fs := by
  induction es with
  | nil => simp
  | cons e es ih => simp [ih, Nat.add_assoc]

theorem deliveries_append (now : Nat) (es fs : List Event) :
    deliveries now (es ++ fs) = deliveries now es ++ deliveries (now + elapsedMs es) fs := by
  induction es generalizing now with
  | nil => simp [deliveries]
  | cons e es ih =>
    cases e <;> simp [deliveries, ih, durationMs, Nat.add_assoc]

end LocalizedMail.Mail
