import LocalizedMail.Mail.Timeline

/-!
# When calls are made

A list of events fixes when each letter was handed over.  Two things in it decide that: the pauses
that were asked for, which are kept apart here from the time they take, and the order in which
deliveries stand between them.

  * `pauses` and `add_elapsedMs`: time passes in pauses and nowhere else;
  * `callTimes`: when calls are made that have a wait between each and the next;
  * `Quiet`: events that neither deliver nor take time, and what they do to a list: nothing;
  * `spread`: runs one after the other, with a wait between each and the next.
-/

namespace LocalizedMail.Mail

/-! ## §1. Pauses -/

/-- The pause that an event asks for. -/
def pauseMs? : Event → Option Nat
  | .paused ms => some ms
  | _ => none

/-- The pauses that events ask for, in order. -/
def pauses (events : List Event) : List Nat := events.filterMap pauseMs?

/-- How long a pause takes: what was asked for, up to the longest pause there is. -/
def waitMs (pause : Nat) : Nat := min pause longestPauseMs

/-- **Time passes in pauses and nowhere else.** -/
theorem add_elapsedMs (now : Nat) (es : List Event) :
    now + elapsedMs es = ((pauses es).map waitMs).foldl (· + ·) now := by
  induction es generalizing now with
  | nil => rfl
  | cons e es ih =>
    rw [elapsedMs_cons, ← Nat.add_assoc, ih]
    cases e with
    | paused ms => rfl
    | _ => rfl

/-! ## §2. Calls with waits between them -/

/-- When calls are made that have the given waits between them; the first is made at once. -/
def callTimes (now : Nat) (waits : List Nat) : List Nat := waits.scanl (· + ·) now

@[simp] theorem callTimes_nil (now : Nat) : callTimes now [] = [now] := by
  unfold callTimes
  exact List.scanl_nil

@[simp] theorem callTimes_cons (now wait : Nat) (waits : List Nat) :
    callTimes now (wait :: waits) = now :: callTimes (now + wait) waits := by
  unfold callTimes
  exact List.scanl_cons

theorem length_callTimes (now : Nat) (waits : List Nat) :
    (callTimes now waits).length = waits.length + 1 := by
  unfold callTimes
  exact List.length_scanl

/-- The last call is made when all waits are over. -/
theorem getLast?_callTimes (now : Nat) (waits : List Nat) :
    (callTimes now waits).getLast? = some (waits.foldl (· + ·) now) := by
  unfold callTimes
  exact List.getLast?_scanl

/-! ## §3. Quiet events -/

/-- Whether an event neither hands over a letter nor takes time. -/
def isQuiet : Event → Bool
  | .attempted _ => false
  | .paused _ => false
  | _ => true

/-- Events that neither hand over a letter nor take time. -/
def Quiet (es : List Event) : Prop := ∀ e ∈ es, isQuiet e

theorem quiet_nil : Quiet [] := by
  intro e he
  cases he

theorem Quiet.append {es fs : List Event} (h : Quiet es) (h' : Quiet fs) : Quiet (es ++ fs) := by
  intro e he
  rcases List.mem_append.mp he with he | he
  · exact h e he
  · exact h' e he

theorem Quiet.cons {e : Event} {es : List Event} (he : isQuiet e) (h : Quiet es) :
    Quiet (e :: es) := by
  intro e' he'
  rcases List.mem_cons.mp he' with rfl | he'
  · exact he
  · exact h e' he'

/-- Quiet events are no deliveries and take no time. -/
theorem Quiet.timeline {es : List Event} (h : Quiet es) (now : Nat) :
    deliveries now es = [] ∧ elapsedMs es = 0 := by
  induction es with
  | nil => exact ⟨rfl, rfl⟩
  | cons e es ih =>
    have he : isQuiet e := h e (List.mem_cons_self ..)
    obtain ⟨hd, ht⟩ := ih fun e' he' => h e' (List.mem_cons_of_mem _ he')
    rw [elapsedMs_cons, ht]
    cases e with
    | attempted letter => cases he
    | paused ms => cases he
    | _ => exact ⟨hd, rfl⟩

/-- Quiet events ask for no pause. -/
theorem Quiet.pauses_eq_nil {es : List Event} (h : Quiet es) : pauses es = [] := by
  unfold pauses
  rw [List.filterMap_eq_nil_iff]
  intro e he
  have hquiet : isQuiet e := h e he
  cases e with
  | paused ms => cases hquiet
  | _ => rfl

theorem Quiet.deliveries_append {es : List Event} (h : Quiet es) (now : Nat) (fs : List Event) :
    deliveries now (es ++ fs) = deliveries now fs := by
  obtain ⟨hd, ht⟩ := h.timeline now
  rw [Mail.deliveries_append, hd, ht]
  rfl

theorem Quiet.elapsedMs_append {es : List Event} (h : Quiet es) (fs : List Event) :
    elapsedMs (es ++ fs) = elapsedMs fs := by
  rw [Mail.elapsedMs_append, (h.timeline 0).2, Nat.zero_add]

/-! ## §4. Runs with waits between them -/

/-- The deliveries of runs of events that follow one another, with a wait between each and the
next. -/
def spread (wait now : Nat) : List (List Event) → List (Nat × Letter)
  | [] => []
  | es :: rest => deliveries now es ++ spread wait (now + elapsedMs es + wait) rest

/-- The letters of such runs do not depend on the time, and stand in the order of the runs. -/
theorem letters_spread (wait now : Nat) (runs : List (List Event)) :
    (spread wait now runs).map Prod.snd
      = runs.flatMap fun es => (deliveries 0 es).map Prod.snd := by
  have hshift : ∀ (es : List Event) (t u : Nat),
      (deliveries t es).map Prod.snd = (deliveries u es).map Prod.snd := by
    intro es
    induction es with
    | nil => intro t u; rfl
    | cons e es ih =>
      intro t u
      cases e with
      | attempted letter =>
        show letter :: _ = letter :: _
        rw [ih t u]
      | _ => exact ih _ _
  induction runs generalizing now with
  | nil => rfl
  | cons es rest ih =>
    show (deliveries now es ++ spread wait (now + elapsedMs es + wait) rest).map Prod.snd = _
    rw [List.map_append, ih, List.flatMap_cons, hshift es now 0]

end LocalizedMail.Mail
