import LocalizedMail.Proofs.Recording
import Mathlib.Algebra.BigOperators.Group.Finset.Basic
import Mathlib.Data.Fintype.Basic

/-!
# The accounts of all mailers

Any number of mailers live in one process.  Each keeps its own statistics; the counters of the
process are kept once for all of them.  Mailers may share engines and transports, so between two
calls the engine and the connection of a mailer may become anything; what it did so far may not.

Whatever is called, in whatever order, the books balance after every call:

  * `Books.Balanced`: the statistics of a mailer against its record, kept by every call
    (`Books.Balanced.called`);
  * `Office.Balanced`: the same of all mailers, with the counters of the process; kept by everything
    that happens (`Office.Balanced.step`);
  * `accounts_balance`: what holds after every run.
-/

namespace LocalizedMail.Mail

variable {ι σ : Type}

/-! ## §1. The books of one mailer -/

/-- A mailer, what it handed over to its transport so far, and what its mails composed to. -/
structure Books (σ : Type) where
  mailer : Mailer σ
  handovers : List Handover := []
  compositions : List (Except Fault Letter) := []

namespace Books

/-- The books after a call. -/
def called (b : Books σ) (disk : FileTree) (transport : Transport σ) (c : Call) : Books σ where
  mailer := (c.run disk transport b.mailer).state
  handovers := b.handovers ++ c.handovers disk transport b.mailer
  compositions := b.compositions ++ c.compositions disk b.mailer

/-- The books after others used the engine and the transport of the mailer. -/
def shared (b : Books σ) (engine : Template.Engine) (link : σ) : Books σ :=
  { b with mailer := { b.mailer with engine := engine, link := link } }

/-- Every letter that was handed over is counted once: as sent, as given up, or as tried again; and
so is every mail that did not compose. -/
structure Balanced (b : Books σ) : Prop where
  made : b.handovers.length
    = b.mailer.stats.sent + b.mailer.stats.failed + b.mailer.stats.retries
  accepted : b.handovers.countP Handover.accepted = b.mailer.stats.sent
  composed : b.compositions.countP (fun c => !c.toBool) = b.mailer.stats.templateErrors

theorem Balanced.opened (engine : Template.Engine) (retry : Settings.Retry) (link : σ) :
    Balanced { mailer := { engine := engine, retry := retry, link := link } } :=
  ⟨rfl, rfl, rfl⟩

/-- **Step lemma**: a call keeps the books balanced. -/
theorem Balanced.called {b : Books σ} (h : b.Balanced) (disk : FileTree)
    (transport : Transport σ) (c : Call) : (b.called disk transport c).Balanced := by
  obtain ⟨htold, hbooked, hcomposed⟩ := (c.accounted disk transport b.mailer).audited
  refine ⟨?made, ?accepted, ?composed⟩
  case made =>
    show (b.handovers ++ c.handovers disk transport b.mailer).length = _
    rw [List.length_append, h.made, htold.made]
    show _ = (c.run disk transport b.mailer).state.stats.sent
      + (c.run disk transport b.mailer).state.stats.failed
      + (c.run disk transport b.mailer).state.stats.retries
    rw [hbooked.sent, hbooked.failed, hbooked.retries]
    omega
  case accepted =>
    show (b.handovers ++ c.handovers disk transport b.mailer).countP Handover.accepted = _
    rw [List.countP_append, h.accepted, htold.accepted]
    exact hbooked.sent.symm
  case composed =>
    show (b.compositions ++ c.compositions disk b.mailer).countP (fun c => !c.toBool) = _
    rw [List.countP_append, h.composed, hcomposed]
    exact hbooked.templateErrors.symm

end Books

/-! ## §2. Sums over all mailers -/

/-- The statistic that a counter of mails adds up. -/
def statistic (c : Counter) (s : Stats) : Nat :=
  match c with
  | .retries => s.retries
  | .mailsFailed .template => s.templateErrors
  | .mailsFailed .transport => s.failed
  | .mailsSent => s.sent
  | _ => 0

/-- Statistics that grew by what events count, counter by counter. -/
theorem Booked.statistic {before after : Stats} {es : List Event} (h : Booked before after es)
    {c : Counter} (hc : c.ofMails) :
    statistic c after = statistic c before + c.count es := by
  cases c with
  | retries => exact h.retries
  | mailsSent => exact h.sent
  | mailsFailed reason =>
    cases reason with
    | template => exact h.templateErrors
    | transport => exact h.failed
  | loads tier => cases hc
  | missingValues => cases hc
  | notFound => cases hc
  | renderings => cases hc

section sums

variable [Fintype ι] [DecidableEq ι]

/-- A sum in which one item changes. -/
theorem sum_update {α : Type} (f : α → Nat) (g : ι → α) (i : ι) (x : α) :
    ∑ j, f (Function.update g i x j) + f (g i) = ∑ j, f (g j) + f x := by
  have hnew := Finset.add_sum_erase Finset.univ (fun j => f (Function.update g i x j))
    (Finset.mem_univ i)
  have hold := Finset.add_sum_erase Finset.univ (fun j => f (g j)) (Finset.mem_univ i)
  have hothers : ∑ j ∈ Finset.univ.erase i, f (Function.update g i x j)
      = ∑ j ∈ Finset.univ.erase i, f (g j) :=
    Finset.sum_congr rfl fun j hj => by rw [Function.update_of_ne (Finset.ne_of_mem_erase hj)]
  rw [Function.update_self] at hnew
  omega

end sums

/-! ## §3. All mailers -/

/-- The books of all mailers, and everything that was reported. -/
structure Office (ι σ : Type) where
  books : ι → Books σ
  events : List Event := []

/-- Something that happens to the mailers of a process. -/
inductive Occurrence (ι σ : Type) where
  /-- a mailer completes a call, over the files as they are then -/
  | called (i : ι) (disk : FileTree) (c : Call)
  /-- others use the engine and the transport of a mailer -/
  | shared (i : ι) (engine : Template.Engine) (link : σ)

namespace Office

/-- New mailers. -/
def opened (engines : ι → Template.Engine) (retries : ι → Settings.Retry) (links : ι → σ) :
    Office ι σ where
  books i := { mailer := { engine := engines i, retry := retries i, link := links i } }

variable [Fintype ι]

/-- The books of every mailer balance, and the counters are the sums of the statistics. -/
structure Balanced (o : Office ι σ) : Prop where
  books : ∀ i, (o.books i).Balanced
  sums : ∀ c : Counter, c.ofMails →
    c.count o.events = ∑ i, statistic c (o.books i).mailer.stats

theorem Balanced.opened (engines : ι → Template.Engine) (retries : ι → Settings.Retry)
    (links : ι → σ) : (Office.opened engines retries links).Balanced where
  books _ := Books.Balanced.opened _ _ _
  sums c hc := by
    have hnone : ∀ i, statistic c ((Office.opened engines retries links).books i).mailer.stats
        = 0 := by
      intro i
      cases c with
      | mailsFailed reason => cases reason <;> rfl
      | _ => rfl
    rw [Finset.sum_eq_zero fun i _ => hnone i]
    rfl

variable [DecidableEq ι]

/-- The office after something happened. -/
def step (transports : ι → Transport σ) (o : Office ι σ) : Occurrence ι σ → Office ι σ
  | .called i disk c =>
    { books := Function.update o.books i ((o.books i).called disk (transports i) c)
      events := o.events ++ (c.run disk (transports i) (o.books i).mailer).events }
  | .shared i engine link =>
    { o with books := Function.update o.books i ((o.books i).shared engine link) }

/-- The office after a run of happenings, oldest first. -/
def after (transports : ι → Transport σ) (o : Office ι σ) (run : List (Occurrence ι σ)) :
    Office ι σ :=
  run.foldl (step transports) o

/-- One mailer goes on to other books, and its statistics grow by what is reported meanwhile. -/
theorem Balanced.replace {o : Office ι σ} (h : o.Balanced) {i : ι} {b : Books σ} {es : List Event}
    (hb : b.Balanced) (hgrown : ∀ c : Counter, c.ofMails →
      statistic c b.mailer.stats = statistic c (o.books i).mailer.stats + c.count es) :
    Balanced { books := Function.update o.books i b, events := o.events ++ es } where
  books j := by
    dsimp only
    by_cases hj : j = i
    · subst hj
      rw [Function.update_self]
      exact hb
    · rw [Function.update_of_ne hj]
      exact h.books j
  sums c hc := by
    have hsum := sum_update (fun b : Books σ => statistic c b.mailer.stats) o.books i b
    have hone := hgrown c hc
    have hall := h.sums c hc
    dsimp only at hsum ⊢
    rw [Counter.count_append]
    omega

/-- **Step lemma**: whatever happens keeps the books balanced. -/
theorem Balanced.step {o : Office ι σ} (h : o.Balanced) (transports : ι → Transport σ)
    (x : Occurrence ι σ) : (o.step transports x).Balanced := by
  cases x with
  | called i disk c =>
    have hcall := c.accounted disk (transports i) (o.books i).mailer
    exact h.replace ((h.books i).called disk (transports i) c)
      fun counter hcounter => hcall.audited.booked.statistic hcounter
  | shared i engine link =>
    -- neither the statistics of the mailer nor its records change, and nothing is reported
    obtain ⟨hmade, haccepted, hcomposed⟩ := h.books i
    have hbalanced : ((o.books i).shared engine link).Balanced := ⟨hmade, haccepted, hcomposed⟩
    have hsilent : ∀ c : Counter, c.ofMails →
        statistic c ((o.books i).shared engine link).mailer.stats
          = statistic c (o.books i).mailer.stats + c.count [] := fun _ _ => rfl
    have hsame := h.replace hbalanced hsilent
    rw [List.append_nil] at hsame
    exact hsame

/-- **Run lemma**: the books balance after every run. -/
theorem Balanced.after {o : Office ι σ} (h : o.Balanced) (transports : ι → Transport σ)
    (run : List (Occurrence ι σ)) : (o.after transports run).Balanced := by
  induction run generalizing o with
  | nil => exact h
  | cons x run ih => exact ih (h.step transports x)

end Office

/-! ## §4. After every run -/

/-- **The accounts balance.**  For every run of calls of any number of mailers, over any transports:
each letter that a mailer handed over is counted once, as sent, as given up or as tried again; as
sent exactly if the transport accepted it; each mail that did not compose is counted; and the
counters of the process are the sums of the statistics of its mailers. -/
theorem accounts_balance [Fintype ι] [DecidableEq ι] (transports : ι → Transport σ)
    (engines : ι → Template.Engine) (retries : ι → Settings.Retry) (links : ι → σ)
    (run : List (Occurrence ι σ)) :
    let o := (Office.opened engines retries links).after transports run
    let stats := fun i => (o.books i).mailer.stats
    (∀ i,
      (o.books i).handovers.length = (stats i).sent + (stats i).failed + (stats i).retries ∧
      (o.books i).handovers.countP Handover.accepted = (stats i).sent ∧
      (o.books i).compositions.countP (fun c => !c.toBool) = (stats i).templateErrors) ∧
    Counter.mailsSent.count o.events = ∑ i, (stats i).sent ∧
    (Counter.mailsFailed .transport).count o.events = ∑ i, (stats i).failed ∧
    (Counter.mailsFailed .template).count o.events = ∑ i, (stats i).templateErrors ∧
    Counter.retries.count o.events = ∑ i, (stats i).retries := by
  intro o stats
  have hbalanced : o.Balanced :=
    (Office.Balanced.opened engines retries links).after transports run
  refine ⟨fun i => ?books, ?sent, ?failed, ?templates, ?retried⟩
  case books =>
    obtain ⟨hmade, haccepted, hcomposed⟩ := hbalanced.books i
    exact ⟨hmade, haccepted, hcomposed⟩
  case sent => exact hbalanced.sums .mailsSent rfl
  case failed => exact hbalanced.sums (.mailsFailed .transport) rfl
  case templates => exact hbalanced.sums (.mailsFailed .template) rfl
  case retried => exact hbalanced.sums .retries rfl

end LocalizedMail.Mail
