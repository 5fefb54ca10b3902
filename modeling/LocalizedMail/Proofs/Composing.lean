import LocalizedMail.Mail.Mailer
import LocalizedMail.Metrics
import LocalizedMail.Proofs.History
import LocalizedMail.Proofs.Schedule

/-!
# What composing a mail depends on

A mail is composed from the body that its template resolves to, and the only thing that composing
changes is the cache of the store.  Loading twice gives the same body, so mails that share template
and language can be composed in any number, at any time between one another's deliveries.

  * `letterFor` and `compose_of_letter`: a letter is a function of engine and request;
  * `letterFor_others`: composing a mail does not change what others of its kind compose to;
  * `composeAll_of_letters`: mails of one template and one language, one after the other;
  * `ofTemplates_composeMail`: composing neither delivers nor takes time, and counts no mails.
-/

namespace LocalizedMail

/-! ## §1. What templates report -/

/-- Whether an event is about looking up and filling in templates. -/
def Event.ofTemplates : Event → Bool
  | .fellBack _ _ _ => true
  | .served _ => true
  | .bodyRead _ _ _ => true
  | .unreadable _ _ _ => true
  | .notFound => true
  | .rendered _ => true
  | .incomplete _ _ _ => true
  | _ => false

/-- Whether a counter is about mails. -/
def Counter.ofMails : Counter → Bool
  | .retries => true
  | .mailsFailed _ => true
  | .mailsSent => true
  | _ => false

/-- No event about templates counts a mail. -/
theorem Counter.increase_ofTemplates {c : Counter} {e : Event} (hc : c.ofMails)
    (he : e.ofTemplates) : c.increase e = 0 := by
  unfold Counter.increase
  split
  -- the events that count mails are not about templates
  case h_1 | h_2 | h_3 | h_4 | h_5 => cases he
  -- and the counters that other events add to are not about mails
  case h_6 | h_7 | h_8 | h_9 => cases hc
  case h_10 => rfl

/-- Events that are about templates. -/
def OfTemplates (es : List Event) : Prop := ∀ e ∈ es, e.ofTemplates

namespace OfTemplates

theorem nil : OfTemplates [] := by
  intro e he
  cases he

theorem cons {e : Event} {es : List Event} (he : e.ofTemplates) (h : OfTemplates es) :
    OfTemplates (e :: es) :=
  List.forall_mem_cons.mpr ⟨he, h⟩

theorem append {es fs : List Event} (h : OfTemplates es) (h' : OfTemplates fs) :
    OfTemplates (es ++ fs) :=
  List.forall_mem_append.mpr ⟨h, h'⟩

/-- Templates neither deliver nor take time. -/
theorem quiet {es : List Event} (h : OfTemplates es) : Mail.Quiet es := by
  intro e he
  have htemplates : e.ofTemplates := h e he
  cases e with
  | attempted letter => cases htemplates
  | paused ms => cases htemplates
  | _ => rfl

/-- Templates count no mails. -/
theorem count_eq_zero {es : List Event} (h : OfTemplates es) {c : Counter} (hc : c.ofMails) :
    c.count es = 0 := by
  induction es with
  | nil => rfl
  | cons e es ih =>
    obtain ⟨he, hes⟩ := List.forall_mem_cons.mp h
    rw [Counter.count_cons, Counter.increase_ofTemplates hc he, ih hes]

end OfTemplates

namespace Template

open Mail (Quiet)
open Placeholder (Rendered Variables)

namespace Store

theorem ofTemplates_firstFile (disk : FileTree) (s : Store) (name : String) (ds : List String) :
    OfTemplates (firstFile disk s name ds).2 := by
  induction ds with
  | nil => exact .nil
  | cons d ds ih =>
    unfold firstFile
    dsimp only
    split
    next body hread => exact (OfTemplates.nil.cons rfl).cons rfl
    next hread => exact ih
    next fault _ hread => exact ih.cons rfl

theorem ofTemplates_lookup (disk : FileTree) (s : Store) (name : String) (ds : List String) :
    OfTemplates (lookup disk s name ds).events := by
  have hspec := lookup_spec disk s name ds
  generalize lookup disk s name ds = step at hspec ⊢
  cases hspec with
  | registered => exact OfTemplates.nil.cons rfl
  | cached => exact OfTemplates.nil.cons rfl
  | read => exact ofTemplates_firstFile disk s name ds
  | missed => exact ofTemplates_firstFile disk s name ds

theorem ofTemplates_load (disk : FileTree) (s : Store) (name lang : String) :
    OfTemplates (s.load disk name lang).events := by
  have hfirst := ofTemplates_lookup disk s name (s.chain lang).requested
  have hback : OfTemplates (fallbackEvents disk s name lang) := by
    unfold fallbackEvents
    split
    · exact .nil
    · exact (ofTemplates_lookup disk s name (s.chain lang).fallback).cons rfl
  have hspec := load_spec disk s name lang
  generalize s.load disk name lang = step at hspec ⊢
  cases hspec with
  | refused => exact .nil
  | requested =>
    dsimp only
    exact hfirst
  | fellBack =>
    dsimp only
    exact hfirst.append hback
  | nowhere =>
    dsimp only
    exact (hfirst.append hback).append (OfTemplates.nil.cons rfl)

end Store

namespace Engine

theorem ofTemplates_incompleteEvents (name lang : String) (missing : List String) :
    OfTemplates (incompleteEvents name lang missing) := by
  unfold incompleteEvents
  split
  · exact .nil
  · exact OfTemplates.nil.cons rfl

theorem ofTemplates_renderReport (disk : FileTree) (e : Engine) (name lang : String)
    (values : Variables) : OfTemplates (e.renderReport disk name lang values).events := by
  have hload := e.store.ofTemplates_load disk name lang
  unfold renderReport
  dsimp only
  split
  · exact hload
  · exact hload.append (OfTemplates.nil.cons rfl)

/-- **Composing reports nothing but what it does with templates.** -/
theorem ofTemplates_composeMail (disk : FileTree) (e : Engine) (name lang : String)
    (values : Variables) : OfTemplates (e.composeMail disk name lang values).events := by
  have hbody := ofTemplates_renderReport disk e name lang values
  unfold composeMail
  dsimp only
  split
  · exact hbody
  · split
    · exact hbody.append (OfTemplates.nil.cons rfl)
    · exact (hbody.append (OfTemplates.nil.cons rfl)).append
        (ofTemplates_incompleteEvents name lang _)

/-! ## §2. Composing twice -/

/-- The engine after it loaded a template for a language. -/
def loaded (disk : FileTree) (e : Engine) (name lang : String) : Engine :=
  { e with store := (e.store.load disk name lang).state }

theorem defaultLang_loaded (disk : FileTree) (e : Engine) (name lang : String) :
    (e.loaded disk name lang).defaultLang = e.defaultLang := by
  have hload : Store.Queried disk e.store (e.store.load disk name lang).state :=
    .loaded name lang
  show (e.store.load disk name lang).state.defaultLang = e.store.defaultLang
  exact hload.sameShelf.defaultLang

theorem renderReport_loaded (disk : FileTree) (e : Engine) (name lang : String)
    (values : Variables) :
    ((e.loaded disk name lang).renderReport disk name lang values).result
      = (e.renderReport disk name lang values).result := by
  have hload := (Store.load_load disk e.store name lang).1
  unfold renderReport loaded
  dsimp only
  rw [hload]
  cases (e.store.load disk name lang).result <;> rfl

/-- The mail that a rendered body makes. -/
def mailFrom (e : Engine) (name lang : String) (values : Variables) :
    Except Fault Rendered → Except Fault Composed
  | .error fault => .error fault
  | .ok html =>
    match (e.substitute (e.subjects.resolve name lang) values).1 with
    | .error fault => .error fault
    | .ok subject =>
      .ok
        { html := html.output
          subject := subject.output
          lang := Language.orDefault lang e.defaultLang
          missing := joinMissing html.missing subject.missing }

/-- Apart from the body, a mail is made of what no load changes. -/
theorem composeMail_result (disk : FileTree) (e : Engine) (name lang : String)
    (values : Variables) :
    (e.composeMail disk name lang values).result
      = e.mailFrom name lang values (e.renderReport disk name lang values).result := by
  have hstate := renderReport_state disk e name lang values
  have hsubst : ∀ line, (e.renderReport disk name lang values).state.substitute line values
      = e.substitute line values := by
    intro line
    rw [hstate]
    rfl
  unfold composeMail mailFrom
  dsimp only
  cases (e.renderReport disk name lang values).result with
  | error fault => rfl
  | ok html =>
    dsimp only
    rw [hsubst]
    cases (e.substitute (e.subjects.resolve name lang) values).1 <;> rfl

/-- **A mail composes to the same after its template was loaded.** -/
theorem composeMail_loaded (disk : FileTree) (e : Engine) (name lang : String)
    (values : Variables) :
    ((e.loaded disk name lang).composeMail disk name lang values).result
      = (e.composeMail disk name lang values).result := by
  have hmail : (e.loaded disk name lang).mailFrom name lang values
      = e.mailFrom name lang values := by
    have hlang := defaultLang_loaded disk e name lang
    funext body
    unfold mailFrom
    rw [hlang]
    rfl
  rw [composeMail_result, composeMail_result, renderReport_loaded, hmail]

end Engine

end Template

/-! ## §3. Letters -/

namespace Mail

/-- The letter that a mail composes to. -/
def letterFor (disk : FileTree) (e : Template.Engine) (r : Request) : Except Fault Letter :=
  match (e.composeMail disk r.template r.lang r.values).result with
  | .error fault => .error (.template fault)
  | .ok composed => .ok ⟨r.envelope, composed.subject, composed.html, r.text⟩

theorem letterFor_loaded (disk : FileTree) (e : Template.Engine) (r : Request) :
    letterFor disk (e.loaded disk r.template r.lang) r = letterFor disk e r := by
  unfold letterFor
  rw [Template.Engine.composeMail_loaded]

/-- After the mail for one recipient was composed, those for the others compose to the same. -/
theorem letterFor_others {disk : FileTree} {e : Template.Engine} {b : BulkRequest} {r : Recipient}
    {others : List Recipient} {letter : Recipient → Letter}
    (h : ∀ r' ∈ r :: others, letterFor disk e (b.mailFor r') = .ok (letter r')) :
    ∀ r' ∈ others,
      letterFor disk (e.loaded disk b.template b.lang) (b.mailFor r') = .ok (letter r') := by
  intro r' hr'
  have hsame := letterFor_loaded disk e (b.mailFor r')
  rw [h r' (List.mem_cons_of_mem _ hr')] at hsame
  exact hsame

namespace Mailer

variable {σ : Type}

/-- The mailer with another engine. -/
def withEngine (m : Mailer σ) (e : Template.Engine) : Mailer σ := { m with engine := e }

@[simp] theorem withEngine_withEngine (m : Mailer σ) (e f : Template.Engine) :
    (m.withEngine e).withEngine f = m.withEngine f := rfl

theorem compose_result (disk : FileTree) (m : Mailer σ) (r : Request) :
    (m.compose disk r).result = letterFor disk m.engine r := by
  unfold compose letterFor
  dsimp only
  cases (m.engine.composeMail disk r.template r.lang r.values).result <;> rfl

/-- A mail that composes changes the cache of the engine and nothing else. -/
theorem compose_of_letter {disk : FileTree} {m : Mailer σ} {r : Request} {letter : Letter}
    (h : letterFor disk m.engine r = .ok letter) :
    (m.compose disk r).state = m.withEngine (m.engine.loaded disk r.template r.lang) ∧
      OfTemplates (m.compose disk r).events := by
  have htemplates := m.engine.ofTemplates_composeMail disk r.template r.lang r.values
  have hstate := Template.Engine.composeMail_state disk m.engine r.template r.lang r.values
  unfold letterFor at h
  unfold compose
  dsimp only
  cases hmail : (m.engine.composeMail disk r.template r.lang r.values).result with
  | error fault => rw [hmail] at h; cases h
  | ok composed =>
    dsimp only
    rw [hstate]
    exact ⟨rfl, htemplates⟩

/-- A mail that does not compose is counted and reported, after its template was loaded. -/
theorem compose_of_fault {disk : FileTree} {m : Mailer σ} {r : Request} {fault : Fault}
    (h : letterFor disk m.engine r = .error fault) :
    (m.compose disk r).state
        = (m.withEngine (m.engine.loaded disk r.template r.lang)).withStats
          (fun s => { s with templateErrors := s.templateErrors + 1 }) ∧
      ∃ cause es, fault = .template cause ∧ OfTemplates es ∧
        (m.compose disk r).events = es ++ [.composeFailed r.template cause] := by
  have htemplates := m.engine.ofTemplates_composeMail disk r.template r.lang r.values
  have hstate := Template.Engine.composeMail_state disk m.engine r.template r.lang r.values
  unfold letterFor at h
  unfold compose
  dsimp only
  cases hmail : (m.engine.composeMail disk r.template r.lang r.values).result with
  | error cause =>
    rw [hmail] at h
    dsimp only
    rw [hstate]
    exact ⟨rfl, cause, _, (Except.error.inj h).symm, htemplates, rfl⟩
  | ok composed => rw [hmail] at h; cases h

section composeAll

variable {disk : FileTree} {m : Mailer σ} {r : Request}

/-- A mail that composes makes way for the others. -/
theorem composeAll_of_ok {letter : Letter} (h : (m.compose disk r).result = .ok letter)
    (rest : List Request) :
    m.composeAll disk (r :: rest) =
      let others := (m.compose disk r).state.composeAll disk rest
      ⟨others.result.map (letter :: ·), others.state, (m.compose disk r).events ++ others.events⟩ := by
  conv => lhs; unfold composeAll
  dsimp only
  rw [h]

/-- A mail that does not compose ends it all. -/
theorem composeAll_of_error {fault : Fault} (h : (m.compose disk r).result = .error fault)
    (rest : List Request) :
    m.composeAll disk (r :: rest)
      = ⟨.error fault, (m.compose disk r).state, (m.compose disk r).events⟩ := by
  conv => lhs; unfold composeAll
  dsimp only
  rw [h]

end composeAll

/-- **Mails of one template and one language compose to what each of them composes to alone.** -/
theorem composeAll_of_letters {disk : FileTree} {m : Mailer σ} {b : BulkRequest}
    {recipients : List Recipient} {letter : Recipient → Letter}
    (h : ∀ r ∈ recipients, letterFor disk m.engine (b.mailFor r) = .ok (letter r)) :
    let step := m.composeAll disk (recipients.map b.mailFor)
    step.result = .ok (recipients.map letter) ∧
      step.state = m.withEngine
        (recipients.foldl (fun e _ => e.loaded disk b.template b.lang) m.engine) ∧
      OfTemplates step.events := by
  induction recipients generalizing m with
  | nil => exact ⟨rfl, rfl, .nil⟩
  | cons r rest ih =>
    have hr := h r (List.mem_cons_self ..)
    obtain ⟨hstate, htemplates⟩ := compose_of_letter hr
    have hresult := compose_result disk m (b.mailFor r)
    rw [hr] at hresult
    have hrest : ∀ r' ∈ rest, letterFor disk (m.compose disk (b.mailFor r)).state.engine
        (b.mailFor r') = .ok (letter r') := by
      rw [hstate]
      exact letterFor_others h
    obtain ⟨hresults, hstates, hothers⟩ := ih hrest
    rw [List.map_cons, composeAll_of_ok hresult]
    dsimp only
    refine ⟨?_, ?_, htemplates.append hothers⟩
    · rw [hresults]
      rfl
    · rw [hstates, hstate]
      rfl

end Mailer

end Mail

end LocalizedMail
