import LocalizedMail.Proofs.Composing

/-!
# A bulk send that is given up

A bulk send composes all of its letters before it delivers the first, and gives up at the first mail
that does not compose.  What is left behind does not depend on how many mails composed before that
one: a template stays in the cache however often it is loaded, and nothing was delivered yet.

  * `loaded_loaded`: loading a template twice leaves the engine that loading it once leaves;
  * `exists_first_error`: a list is cut at the first of its items that fails;
  * `composeAll_of_fault`: composing up to that recipient, by induction on those before it;
  * `sendBulk_aborts`: the whole bulk send.
-/

namespace LocalizedMail

/-! ## §1. Loading twice -/

namespace Template.Engine

/-- A template that is loaded again is found where it was. -/
theorem loaded_loaded (disk : FileTree) (e : Engine) (name lang : String) :
    (e.loaded disk name lang).loaded disk name lang = e.loaded disk name lang := by
  have hstate := (Store.load_load disk e.store name lang).2
  unfold loaded
  dsimp only
  rw [hstate]

end Template.Engine

namespace Mail

/-! ## §2. The first mail that does not compose -/

/-- If one item fails, there is a first one that does. -/
theorem exists_first_error {α β ε : Type} {f : α → Except ε β} {xs : List α}
    (h : ∃ x ∈ xs, ∃ error, f x = .error error) :
    ∃ before x after error, xs = before ++ x :: after ∧
      (∀ y ∈ before, ∃ value, f y = .ok value) ∧ f x = .error error := by
  induction xs with
  | nil =>
    obtain ⟨x, hx, -⟩ := h
    cases hx
  | cons x xs ih =>
    cases hx : f x with
    | error error => exact ⟨[], x, xs, error, rfl, List.forall_mem_nil _, hx⟩
    | ok value =>
      have hrest : ∃ y ∈ xs, ∃ error, f y = .error error := by
        obtain ⟨y, hy, error, herror⟩ := h
        rcases List.mem_cons.mp hy with rfl | hy
        · rw [hx] at herror; cases herror
        · exact ⟨y, hy, error, herror⟩
      obtain ⟨before, y, after, error, rfl, hbefore, herror⟩ := ih hrest
      refine ⟨x :: before, y, after, error, rfl, ?_, herror⟩
      exact List.forall_mem_cons.mpr ⟨⟨value, hx⟩, hbefore⟩

variable {σ : Type}

/-- **Composing stops at the first mail that does not compose.**  The mails before it leave the
template in the cache, which it would have been put into anyway. -/
theorem Mailer.composeAll_of_fault {disk : FileTree} {m : Mailer σ} {b : BulkRequest}
    {before : List Recipient} {r : Recipient} {fault : Fault}
    (hbefore : ∀ r' ∈ before, ∃ letter, letterFor disk m.engine (b.mailFor r') = .ok letter)
    (hr : letterFor disk m.engine (b.mailFor r) = .error fault) (after : List Recipient) :
    let step := m.composeAll disk ((before ++ r :: after).map b.mailFor)
    step.result = .error fault ∧
      step.state = (m.withEngine (m.engine.loaded disk b.template b.lang)).withStats
        (fun s => { s with templateErrors := s.templateErrors + 1 }) ∧
      ∃ cause es, fault = .template cause ∧ OfTemplates es ∧
        step.events = es ++ [.composeFailed b.template cause] := by
  induction before generalizing m with
  | nil =>
    have hresult := compose_result disk m (b.mailFor r)
    rw [hr] at hresult
    rw [List.nil_append, List.map_cons, composeAll_of_error hresult]
    exact ⟨rfl, compose_of_fault hr⟩
  | cons r' before ih =>
    obtain ⟨letter, hletter⟩ := hbefore r' (List.mem_cons_self ..)
    obtain ⟨hstate, htemplates⟩ := compose_of_letter hletter
    have hresult := compose_result disk m (b.mailFor r')
    rw [hletter] at hresult
    -- whatever the others compose to, they still do after this one
    have hsame : ∀ r'', letterFor disk (m.compose disk (b.mailFor r')).state.engine (b.mailFor r'')
        = letterFor disk m.engine (b.mailFor r'') := by
      intro r''
      rw [hstate]
      exact letterFor_loaded disk m.engine (b.mailFor r'')
    obtain ⟨hfault, hstates, cause, es, hcause, hothers, hevents⟩ :=
      ih (m := (m.compose disk (b.mailFor r')).state)
        (fun r'' hr'' => by rw [hsame]; exact hbefore r'' (List.mem_cons_of_mem _ hr''))
        (by rw [hsame]; exact hr)
    rw [List.cons_append, List.map_cons, composeAll_of_ok hresult]
    dsimp only
    refine ⟨?result, ?state, cause, _, hcause, htemplates.append hothers, ?events⟩
    case result =>
      rw [hfault]
      rfl
    case state =>
      rw [hstates, hstate, withEngine_withEngine]
      exact congrArg (fun e => (m.withEngine e).withStats _)
        (Template.Engine.loaded_loaded disk m.engine b.template b.lang)
    case events => rw [hevents, List.append_assoc]

/-! ## §3. A whole bulk send -/

/-- **A bulk send with a mail that does not compose delivers nothing.**  Wherever that mail stands,
the bulk send fails as the first such mail fails on its own.  No letter is handed over, nothing is
waited for, and the connection and the counts of deliveries stay as they are; one failure is
counted, and the template is kept as one load keeps it. -/
theorem sendBulk_aborts (disk : FileTree) (transport : Transport σ) (m : Mailer σ)
    (b : BulkRequest) (recipients : List Recipient)
    (h : ∃ r ∈ recipients, ∃ fault, (m.compose disk (b.mailFor r)).result = .error fault) :
    let bulk := m.sendBulk disk transport b recipients
    ∃ before r after cause,
      recipients = before ++ r :: after ∧
      (∀ r' ∈ before, ∃ letter, (m.compose disk (b.mailFor r')).result = .ok letter) ∧
      (m.compose disk (b.mailFor r)).result = .error (.template cause) ∧
      bulk.result = .error (.template cause) ∧
      (∀ now, deliveries now bulk.events = []) ∧ pauses bulk.events = [] ∧
      bulk.state = { m with
        engine := m.engine.loaded disk b.template b.lang
        stats := { m.stats with templateErrors := m.stats.templateErrors + 1 } } ∧
      (Counter.mailsFailed .template).count bulk.events = 1 ∧
      ∀ c : Counter, c.ofMails → c ≠ .mailsFailed .template → c.count bulk.events = 0 := by
  obtain ⟨before, r, after, fault, rfl, hbefore, hr⟩ := exists_first_error h
  have hletters : ∀ r' ∈ before, ∃ letter,
      letterFor disk m.engine (b.mailFor r') = .ok letter := by
    intro r' hr'
    obtain ⟨letter, hletter⟩ := hbefore r' hr'
    rw [Mailer.compose_result] at hletter
    exact ⟨letter, hletter⟩
  obtain ⟨hresult, hstate, cause, es, rfl, htemplates, hevents⟩ :=
    Mailer.composeAll_of_fault hletters (by rw [← Mailer.compose_result]; exact hr) after
  intro bulk
  have hbulk : bulk = m.sendBulk disk transport b (before ++ r :: after) := rfl
  unfold Mailer.sendBulk at hbulk
  dsimp only at hbulk
  rw [hresult] at hbulk
  dsimp only at hbulk
  have hquiet : Quiet bulk.events := by
    rw [hbulk, hevents]
    exact htemplates.quiet.append (quiet_nil.cons rfl)
  -- the report of the failure is the only event that counts a mail
  have hcount : ∀ c : Counter, c.ofMails →
      c.count bulk.events = c.increase (.composeFailed b.template cause) := by
    intro c hc
    rw [hbulk, hevents, Counter.count_append, htemplates.count_eq_zero hc, Nat.zero_add,
      Counter.count_cons, Counter.count_nil, Nat.add_zero]
  refine ⟨before, r, after, cause, rfl, hbefore, hr, ?result, ?deliveries, hquiet.pauses_eq_nil,
    ?state, hcount _ rfl, ?counts⟩
  case result => rw [hbulk]
  case deliveries => exact fun now => (hquiet.timeline now).1
  case state => rw [hbulk, hstate]; rfl
  case counts =>
    intro c hc hother
    rw [hcount c hc]
    cases c with
    | mailsFailed reason =>
      cases reason with
      | template => exact absurd rfl hother
      | transport => rfl
    | loads tier => cases hc
    | _ => rfl

/-! ## §4. A letter without a name -/

/-- A letter that begins with a name. -/
def letters : FileTree :=
  .directory [("templates", .directory [
    ("en", .directory [("letter.xhtml", .file (.text "Dear \x7b\x7bNAME\x7d\x7d"))])])]

/-- A mailer that fails a mail in which a value is missing. -/
def careful : Mailer (List (Option DeliveryFault)) where
  engine := ⟨.create "templates" "en", .create "en", .empty, true⟩
  retry := {}
  link := []

/-- One letter to everyone. -/
def circular : BulkRequest where
  template := "letter"

/-- Two readers, of whom the second has no name. -/
def readers : List Recipient := [⟨"ann", .ofList [("NAME", .text "Ann")]⟩, ⟨"bob", .empty⟩]

/-- The first letter composes and is not delivered, because the second does not compose. -/
theorem sendBulk_aborts_nameless :
    (∃ r ∈ readers, ∃ fault,
      (careful.compose letters (circular.mailFor r)).result = .error fault) ∧
    ∃ cause, (careful.sendBulk letters (.scripted ⟨[], "250 OK"⟩) circular readers).result
        = .error (.template cause) ∧
      deliveries 0 (careful.sendBulk letters (.scripted ⟨[], "250 OK"⟩) circular readers).events
        = [] := by
  have hbob : (careful.compose letters (circular.mailFor ⟨"bob", .empty⟩)).result
      = .error (.template (.missingValues ["NAME"])) := by decide +kernel
  have hfails : ∃ r ∈ readers, ∃ fault,
      (careful.compose letters (circular.mailFor r)).result = .error fault :=
    ⟨⟨"bob", .empty⟩, List.mem_cons_of_mem _ (List.mem_cons_self ..), _, hbob⟩
  obtain ⟨-, -, -, cause, -, -, -, hresult, hnone, -⟩ :=
    sendBulk_aborts letters (.scripted ⟨[], "250 OK"⟩) careful circular readers hfails
  exact ⟨hfails, cause, hresult, hnone 0⟩

end Mail

end LocalizedMail
