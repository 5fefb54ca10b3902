import LocalizedMail.Settings.Basic

/-!
# Growing delays

The delays between the attempts of one delivery: the first is given, each further one is the one
before times a factor, and none is longer than a given limit.

A delay grows in double precision: the product is rounded to the nearest number of the format, cut
to the limit, itself rounded, and then to whole milliseconds.  A factor below one, or one that is
not a number, counts as one.
-/

namespace LocalizedMail.Mail

/-- The greatest number of milliseconds that a delay can have. -/
def greatestDelay : Nat := Nat.pow 2 64 - 1

/-- How delays grow. -/
structure Backoff.Rule where
  initialMs : Nat := 1000
  maxMs : Nat := 30000
  multiplier : Binary64 := .ofNat 2

/-- The rule that settings give. -/
def Backoff.Rule.ofRetry (r : Settings.Retry) : Backoff.Rule :=
  ⟨r.initialDelayMs, r.maxDelayMs, r.multiplier⟩

/-- The delay after a delay of `current`. -/
def Backoff.Rule.grow (r : Backoff.Rule) (current : Nat) : Nat :=
  let grown := (Binary64.ofNat current).mul (r.multiplier.max (.ofNat 1))
  ((grown.min (.ofNat r.maxMs)).truncate 0 greatestDelay).toNat

/-- A run of growing delays. -/
structure Backoff where
  rule : Backoff.Rule
  /-- the delay that comes next -/
  currentMs : Nat
  /-- how many delays there have been; the counter has 32 bits and goes on at zero -/
  attempt : UInt32

namespace Backoff

/-- The run of a rule before its first delay. -/
def start (r : Rule) : Backoff := ⟨r, min r.initialMs r.maxMs, 0⟩

/-- The next delay, and the run after it. -/
def next (b : Backoff) : Nat × Backoff :=
  (b.currentMs, ⟨b.rule, b.rule.grow b.currentMs, b.attempt + 1⟩)

/-- The run before its first delay. -/
def reset (b : Backoff) : Backoff := start b.rule

/-- The delay that comes after `n` others. -/
def Rule.delay (r : Rule) : Nat → Nat
  | 0 => min r.initialMs r.maxMs
  | n + 1 => r.grow (r.delay n)

end Backoff

end LocalizedMail.Mail
