import LocalizedMail.Proofs.Registrations
import LocalizedMail.Proofs.Strictness
import Mathlib.Data.List.Forall2

/-!
# Two spellings of one language

A language is spelled in many ways: in either case, with either separator, with blanks around it.
Two runs of calls that differ in spellings only are compared here, call by call.  They leave the
same engine, and they reply the same, except that three replies repeat the spelling of the call:
the failure to find a template, the description of a template that is nowhere, and a mail.

A call uses the language in one way only, for the directories that it stands for; so it is enough
that two spellings of a language stand for the same ones.  The text itself is used for nothing but
the repetition.

Main results:
  * `Language.candidates_of_respells` and `Language.filedUnder_of_respells`: two spellings of a
    language stand for the same directories, and file under the same one;
  * `Call.withLang_spec`: what one call does when its language is spelled in another way;
  * `respelled_run`: two runs that differ in spellings only.
-/

namespace LocalizedMail.Language

/-! ## §1. Spellings -/

/-- The canonical form of the tag that a text spells, its outer blanks apart. -/
def canonicalForm? (lang : String) : Option String := (spelled? lang).map Tag.directory

/-- Two texts are tags, and they have one canonical form. -/
def Respells (lang lang' : String) : Prop :=
  (canonicalForm? lang).isSome ∧ canonicalForm? lang' = canonicalForm? lang

instance (lang lang' : String) : Decidable (Respells lang lang') :=
  inferInstanceAs (Decidable (_ ∧ _))

/-- One canonical form is one tag. -/
theorem Respells.exists_tag {lang lang' : String} (h : Respells lang lang') :
    ∃ t, spelled? lang = some t ∧ spelled? lang' = some t := by
  obtain ⟨htag, hform⟩ := h
  unfold canonicalForm? at htag hform
  rw [Option.isSome_map] at htag
  obtain ⟨t, ht⟩ := Option.isSome_iff_exists.mp htag
  rw [ht, Option.map_some, Option.map_eq_some_iff] at hform
  obtain ⟨u, hu, hdir⟩ := hform
  obtain rfl := Tag.Canonical.directory_injective (Tag.canonical_of_spelled? hu)
    (Tag.canonical_of_spelled? ht) hdir
  exact ⟨u, ht, hu⟩

section respells

variable {lang lang' : String} (h : Respells lang lang') (defaultLang : String)
include h

/-- A tag asks for itself, in either spelling. -/
theorem orDefault_of_respells : orDefault lang defaultLang = lang ∧
    orDefault lang' defaultLang = lang' := by
  obtain ⟨t, ht, ht'⟩ := h.exists_tag
  exact ⟨orDefault_of_not_isAllBlank (not_isAllBlank_of_spelled? ht) defaultLang,
    orDefault_of_not_isAllBlank (not_isAllBlank_of_spelled? ht') defaultLang⟩

/-- **Two spellings of a language stand for the same directories.** -/
theorem candidates_of_respells :
    candidates (orDefault lang' defaultLang) = candidates (orDefault lang defaultLang) := by
  obtain ⟨t, ht, ht'⟩ := h.exists_tag
  obtain ⟨hasked, hasked'⟩ := orDefault_of_respells h defaultLang
  rw [hasked, hasked', candidates_of_spelled? ht, candidates_of_spelled? ht']

/-- **Two spellings of a language file under the same directory.** -/
theorem filedUnder_of_respells : filedUnder lang' defaultLang = filedUnder lang defaultLang := by
  unfold filedUnder
  rw [candidates_of_respells h]

theorem chain_of_respells :
    Chain.of (orDefault lang' defaultLang) defaultLang
      = Chain.of (orDefault lang defaultLang) defaultLang := by
  unfold Chain.of
  rw [candidates_of_respells h]

end respells

end LocalizedMail.Language

namespace LocalizedMail.Template

open LocalizedMail.Language (Respells)
open Placeholder (Rendered Variables)

/-! ## §2. Replies and the language they repeat -/

/-- A failure with another language in place of the one that was asked for. -/
def Fault.echoing (lang : String) : Fault → Fault
  | .notFound name _ => .notFound name lang
  | fault => fault

/-- A description with another language in place of the one that was asked for. -/
def Store.Info.echoing (lang : String) (i : Store.Info) : Store.Info :=
  match i.place with
  | .nowhere _ => { i with place := .nowhere lang }
  | _ => i

/-- A mail with another language in place of the one that was asked for. -/
def Engine.Composed.echoing (lang : String) (mail : Engine.Composed) : Engine.Composed :=
  { mail with lang := lang }

/-- An answer with another language in place of the one that was asked for. -/
def Answer.echoing (lang : String) : Answer → Answer
  | body r => body (r.mapError (Fault.echoing lang))
  | availability b => availability b
  | report r => report (r.mapError (Fault.echoing lang))
  | mail r => mail ((r.mapError (Fault.echoing lang)).map (Engine.Composed.echoing lang))
  | place r => place (r.map (Store.Info.echoing lang))
  | names r => names r
  | done => done

/-- Something that is done with an engine and replied to. -/
inductive Call where
  | operate (op : Operation)
  | resolveSubject (name lang : String)

/-- What a call replies. -/
inductive Reply where
  | answer (a : Answer)
  | registered (r : Except Fault Unit)
  | counted (r : Except Fault Nat)
  | line (text : String)
  | nothing

/-- A reply with another language in place of the one that was asked for. -/
def Reply.echoing (lang : String) : Reply → Reply
  | answer a => answer (a.echoing lang)
  | registered r => registered r
  | counted r => counted r
  | line text => line text
  | nothing => nothing

/-- A reply without the language that was asked for. -/
def Reply.masked (r : Reply) : Reply := r.echoing ""

/-- What an operation replies. -/
def Operation.reply (site : Site) : Operation → Reply
  | query q => .answer (q.run site.disk site.engine).result
  | register name body lang => .registered (site.engine.store.register name body lang).result
  | registerSubject name line lang =>
    .registered (site.engine.registerSubject name line lang).result
  | loadSubjects lang path =>
    .counted (site.engine.subjects.loadDocument site.disk lang path).result
  | readSubjectFiles => .counted (site.engine.readSubjectFiles site.disk).result
  | change _ => .nothing

namespace Call

/-- What a call does to a site. -/
def run (site : Site) : Call → Site
  | operate op => op.run site
  | resolveSubject _ _ => site

/-- What a call replies. -/
def reply (site : Site) : Call → Reply
  | operate op => op.reply site
  | resolveSubject name lang => .line (site.engine.subjects.resolve name lang)

end Call

namespace Site

/-- The site after some calls, oldest first. -/
def afterCalls (site : Site) (calls : List Call) : Site := calls.foldl Call.run site

/-- What some calls reply, oldest first. -/
def replies (site : Site) : List Call → List Reply
  | [] => []
  | c :: calls => c.reply site :: (c.run site).replies calls

end Site

/-- A language that is put in twice is the second one. -/
theorem Fault.echoing_echoing (lang lang' : String) (fault : Fault) :
    (fault.echoing lang).echoing lang' = fault.echoing lang' := by
  cases fault with
  | notFound name asked => rfl
  | invalidName name => rfl
  | missingValues names => rfl
  | invalidConfig fault => rfl
  | storage fault => rfl

theorem Store.Info.echoing_echoing (lang lang' : String) (i : Store.Info) :
    (i.echoing lang).echoing lang' = i.echoing lang' := by
  obtain ⟨name, place⟩ := i
  cases place with
  | registered d => rfl
  | onDisk d cached path => rfl
  | nowhere asked => rfl

theorem mapError_echoing_echoing {α : Type} (lang lang' : String) (r : Except Fault α) :
    (r.mapError (Fault.echoing lang)).mapError (Fault.echoing lang')
      = r.mapError (Fault.echoing lang') := by
  cases r with
  | ok a => rfl
  | error fault => exact congrArg Except.error (fault.echoing_echoing lang lang')

theorem Reply.echoing_echoing (lang lang' : String) (r : Reply) :
    (r.echoing lang).echoing lang' = r.echoing lang' := by
  cases r with
  | answer a =>
    refine congrArg Reply.answer ?_
    cases a with
    | body r => exact congrArg Answer.body (mapError_echoing_echoing lang lang' r)
    | availability b => rfl
    | report r => exact congrArg Answer.report (mapError_echoing_echoing lang lang' r)
    | mail r =>
      refine congrArg Answer.mail ?_
      cases r with
      | ok mail => rfl
      | error fault => exact congrArg Except.error (fault.echoing_echoing lang lang')
    | place r =>
      refine congrArg Answer.place ?_
      cases r with
      | ok i => exact congrArg Except.ok (i.echoing_echoing lang lang')
      | error fault => rfl
    | names r => rfl
    | done => rfl
  | registered r => rfl
  | counted r => rfl
  | line text => rfl
  | nothing => rfl

/-! ## §3. One call of a store or of subject lines -/

section one

variable {lang lang' : String} (h : Respells lang lang')
include h

namespace Store

theorem chain_of_respells (s : Store) : s.chain lang' = s.chain lang :=
  Language.chain_of_respells h s.defaultLang

/-- A load of a template under another spelling leaves the same store, and gives the same body or
fails alike. -/
theorem load_of_respells (disk : FileTree) (s : Store) (name : String) :
    (s.load disk name lang').state = (s.load disk name lang).state ∧
      (s.load disk name lang').result
        = (s.load disk name lang).result.mapError (Fault.echoing lang') := by
  obtain ⟨hasked, hasked'⟩ := Language.orDefault_of_respells h s.defaultLang
  unfold load checkName
  by_cases hname : isName name
  · simp only [hname, if_true, s.chain_of_respells h, hasked, hasked']
    generalize s.chain lang = chain
    cases (lookup disk s name chain.requested).result with
    | some body => exact ⟨rfl, rfl⟩
    | none =>
      by_cases hempty : chain.fallback.isEmpty
      · simp only [hempty, if_true, true_and]
        rfl
      · simp only [hempty, Bool.false_eq_true, if_false]
        cases (lookup disk (lookup disk s name chain.requested).state name
            chain.fallback).result with
        | some body => exact ⟨rfl, rfl⟩
        | none => exact ⟨rfl, rfl⟩
  · simp only [hname, Bool.false_eq_true, if_false, true_and]
    rfl

theorem isAvailable_of_respells (disk : FileTree) (s : Store) (name : String) :
    (s.isAvailable disk name lang').state = (s.isAvailable disk name lang).state ∧
      (s.isAvailable disk name lang').result = (s.isAvailable disk name lang).result := by
  obtain ⟨hstate, hresult⟩ := load_of_respells h disk s name
  refine ⟨hstate, ?_⟩
  show (s.load disk name lang').result.toBool = (s.load disk name lang).result.toBool
  rw [hresult]
  cases (s.load disk name lang).result with
  | ok body => rfl
  | error fault => rfl

theorem info_of_respells (disk : FileTree) (s : Store) (name : String) :
    s.info disk name lang'
      = (s.info disk name lang).map (Info.echoing lang') := by
  obtain ⟨-, hasked'⟩ := Language.orDefault_of_respells h s.defaultLang
  unfold info checkName
  by_cases hname : isName name
  · simp only [hname, if_true, s.chain_of_respells h, hasked']
    refine congrArg Except.ok ?_
    -- a lookup that ends somewhere does not say what it was asked for
    have hplace : ∀ {ds p}, s.locate disk name ds = some p →
        (⟨name, p⟩ : Info).echoing lang' = ⟨name, p⟩ := by
      intro ds p hp
      unfold locate at hp
      split at hp
      · obtain rfl := Option.some.inj hp; rfl
      · split at hp
        · obtain rfl := Option.some.inj hp; rfl
        · obtain ⟨d, -, rfl⟩ := Option.map_eq_some_iff.mp hp; rfl
    cases hfirst : s.locate disk name (s.chain lang).requested with
    | some p => exact (hplace hfirst).symm
    | none =>
      cases hsecond : s.locate disk name (s.chain lang).fallback with
      | some p => exact (hplace hsecond).symm
      | none => rfl
  · simp only [hname, Bool.false_eq_true, if_false]
    rfl

theorem list_of_respells (disk : FileTree) (s : Store) : s.list disk lang' = s.list disk lang := by
  unfold list
  rw [s.chain_of_respells h]

theorem clearTemplate_of_respells (s : Store) (name : String) :
    (s.clearTemplate name lang').state = (s.clearTemplate name lang).state := by
  rw [clearTemplate_state, clearTemplate_state, s.chain_of_respells h]

theorem register_of_respells (s : Store) (name body : String) :
    s.register name body lang' = s.register name body lang :=
  register_congr (Language.filedUnder_of_respells h s.defaultLang)

end Store

namespace Subjects

theorem put_of_respells (s : Subjects) (name line : String) :
    s.put name line lang' = s.put name line lang := by
  unfold put
  rw [Language.filedUnder_of_respells h]

theorem resolve_of_respells (s : Subjects) (name : String) :
    s.resolve name lang' = s.resolve name lang := by
  unfold resolve
  rw [Language.chain_of_respells h]

/-- A document that is loaded under another spelling is taken over alike. -/
theorem loadDocument_of_respells (disk : FileTree) (s : Subjects) (path : String) (pass : Pass) :
    (s.loadDocument disk lang' path pass).state = (s.loadDocument disk lang path pass).state ∧
      (s.loadDocument disk lang' path pass).result
        = (s.loadDocument disk lang path pass).result := by
  have hputAll : ∀ entries, s.putAll lang' entries = s.putAll lang entries := by
    intro entries
    unfold putAll
    simp only [put_of_respells h]
  rw [loadDocument_eq_putAll, loadDocument_eq_putAll]
  cases readDocument disk path with
  | error fault => exact ⟨rfl, rfl⟩
  | ok entries =>
    dsimp only
    cases badName? (pass.order entries.entries) with
    | some name => exact ⟨rfl, rfl⟩
    | none => exact ⟨hputAll (pass.order entries.entries), rfl⟩

end Subjects

namespace Engine

theorem renderReport_of_respells (disk : FileTree) (e : Engine) (name : String)
    (values : Variables) :
    (e.renderReport disk name lang' values).result
      = (e.renderReport disk name lang values).result.mapError (Fault.echoing lang') := by
  obtain ⟨-, hresult⟩ := Store.load_of_respells h disk e.store name
  unfold renderReport
  dsimp only
  rw [hresult]
  cases (e.store.load disk name lang).result with
  | error fault => rfl
  | ok body =>
    unfold Except.mapError substitute
    dsimp only
    split
    · rfl
    · rfl

theorem renderText_of_respells (disk : FileTree) (e : Engine) (name : String)
    (values : Variables) :
    (e.renderText disk name lang' values).result
      = (e.renderText disk name lang values).result.mapError (Fault.echoing lang') := by
  have hreport := renderReport_of_respells h disk e name values
  unfold renderText
  dsimp only
  rw [hreport]
  cases (e.renderReport disk name lang values).result with
  | error fault => rfl
  | ok r => rfl

theorem composeMail_of_respells (disk : FileTree) (e : Engine) (name : String)
    (values : Variables) :
    (e.composeMail disk name lang' values).result
      = ((e.composeMail disk name lang values).result.mapError (Fault.echoing lang')).map
          (Composed.echoing lang') := by
  obtain ⟨-, hasked'⟩ := Language.orDefault_of_respells h e.defaultLang
  rw [composeMail_result, composeMail_result, renderReport_of_respells h]
  cases (e.renderReport disk name lang values).result with
  | error fault => rfl
  | ok html =>
    unfold mailFrom Except.mapError
    dsimp only
    rw [Subjects.resolve_of_respells h, hasked']
    unfold substitute
    dsimp only
    split
    next hlacking =>
      split at hlacking
      · obtain rfl := Except.error.inj hlacking; rfl
      · cases hlacking
    next subject hcomplete => rfl

end Engine

end one

/-! ## §4. One call -/

/-- The language of a query. -/
def Query.lang? : Query → Option String
  | load _ lang => some lang
  | isAvailable _ lang => some lang
  | renderReport _ lang _ => some lang
  | renderText _ lang _ => some lang
  | composeMail _ lang _ => some lang
  | info _ lang => some lang
  | list lang => some lang
  | clearCache => none
  | clearTemplate _ lang => some lang

/-- The query with another language. -/
def Query.withLang (lang : String) : Query → Query
  | load name _ => load name lang
  | isAvailable name _ => isAvailable name lang
  | renderReport name _ values => renderReport name lang values
  | renderText name _ values => renderText name lang values
  | composeMail name _ values => composeMail name lang values
  | info name _ => info name lang
  | list _ => list lang
  | clearCache => clearCache
  | clearTemplate name _ => clearTemplate name lang

/-- A query in another spelling leaves the same engine and gives the same answer. -/
theorem Query.withLang_spec {lang lang' : String} (h : Respells lang lang') {q : Query}
    (hlang : q.lang? = some lang) (disk : FileTree) (e : Engine) :
    ((q.withLang lang').run disk e).state = (q.run disk e).state ∧
      ((q.withLang lang').run disk e).result = (q.run disk e).result.echoing lang' := by
  cases q with
  | load name _ =>
    obtain rfl := Option.some.inj hlang
    obtain ⟨hstate, hresult⟩ := Store.load_of_respells h disk e.store name
    exact ⟨congrArg (fun s => { e with store := s }) hstate, congrArg Answer.body hresult⟩
  | isAvailable name _ =>
    obtain rfl := Option.some.inj hlang
    obtain ⟨hstate, hresult⟩ := Store.isAvailable_of_respells h disk e.store name
    exact ⟨congrArg (fun s => { e with store := s }) hstate, congrArg Answer.availability hresult⟩
  | renderReport name _ values =>
    obtain rfl := Option.some.inj hlang
    obtain ⟨hstate, -⟩ := Store.load_of_respells h disk e.store name
    refine ⟨?_, congrArg Answer.report (Engine.renderReport_of_respells h disk e name values)⟩
    show (e.renderReport disk name lang' values).state = (e.renderReport disk name _ values).state
    rw [Engine.renderReport_state, Engine.renderReport_state, hstate]
  | renderText name _ values =>
    obtain rfl := Option.some.inj hlang
    obtain ⟨hstate, -⟩ := Store.load_of_respells h disk e.store name
    refine ⟨?_, congrArg Answer.body (Engine.renderText_of_respells h disk e name values)⟩
    show (e.renderText disk name lang' values).state = (e.renderText disk name _ values).state
    rw [Engine.renderText_state, Engine.renderText_state, hstate]
  | composeMail name _ values =>
    obtain rfl := Option.some.inj hlang
    obtain ⟨hstate, -⟩ := Store.load_of_respells h disk e.store name
    refine ⟨?_, congrArg Answer.mail (Engine.composeMail_of_respells h disk e name values)⟩
    show (e.composeMail disk name lang' values).state = (e.composeMail disk name _ values).state
    rw [Engine.composeMail_state, Engine.composeMail_state, hstate]
  | info name _ =>
    obtain rfl := Option.some.inj hlang
    exact ⟨rfl, congrArg Answer.place (Store.info_of_respells h disk e.store name)⟩
  | list _ =>
    obtain rfl := Option.some.inj hlang
    exact ⟨rfl, congrArg Answer.names (Store.list_of_respells h disk e.store)⟩
  | clearCache => cases hlang
  | clearTemplate name _ =>
    obtain rfl := Option.some.inj hlang
    exact ⟨congrArg (fun s => { e with store := s })
      (Store.clearTemplate_of_respells h e.store name), rfl⟩

/-- The language of an operation. -/
def Operation.lang? : Operation → Option String
  | query q => q.lang?
  | register _ _ lang => some lang
  | registerSubject _ _ lang => some lang
  | loadSubjects lang _ => some lang
  | readSubjectFiles => none
  | change _ => none

/-- The operation with another language. -/
def Operation.withLang (lang : String) : Operation → Operation
  | query q => query (q.withLang lang)
  | register name body _ => register name body lang
  | registerSubject name line _ => registerSubject name line lang
  | loadSubjects _ path => loadSubjects lang path
  | readSubjectFiles => readSubjectFiles
  | change disk => change disk

/-- An operation in another spelling leaves the same site and gives the same reply. -/
theorem Operation.withLang_spec {lang lang' : String} (h : Respells lang lang') {op : Operation}
    (hlang : op.lang? = some lang) (site : Site) :
    (op.withLang lang').run site = op.run site ∧
      (op.withLang lang').reply site = (op.reply site).echoing lang' := by
  cases op with
  | query q =>
    obtain ⟨hstate, hresult⟩ := Query.withLang_spec h hlang site.disk site.engine
    exact ⟨congrArg (Site.mk site.disk) hstate, congrArg Reply.answer hresult⟩
  | register name body _ =>
    obtain rfl := Option.some.inj hlang
    have hstep := Store.register_of_respells h site.engine.store name body
    exact ⟨congrArg (fun s => { site with engine := (site.engine.withStore s).state }) hstep,
      congrArg (fun s => Reply.registered (Step.result s)) hstep⟩
  | registerSubject name line _ =>
    obtain rfl := Option.some.inj hlang
    have hstep : site.engine.registerSubject name line lang'
        = site.engine.registerSubject name line _ :=
      Engine.registerSubject_congr
        (Language.filedUnder_of_respells h site.engine.subjects.defaultLang)
    exact ⟨congrArg (fun s => { site with engine := Step.state s }) hstep,
      congrArg (fun s => Reply.registered (Step.result s)) hstep⟩
  | loadSubjects _ path =>
    obtain rfl := Option.some.inj hlang
    obtain ⟨hstate, hresult⟩ :=
      Subjects.loadDocument_of_respells h site.disk site.engine.subjects path .asWritten
    exact ⟨congrArg (fun s => { site with engine := { site.engine with subjects := s } }) hstate,
      congrArg Reply.counted hresult⟩
  | readSubjectFiles => cases hlang
  | change disk => cases hlang

namespace Call

/-- The language of a call, for the calls that have one. -/
def lang? : Call → Option String
  | operate op => op.lang?
  | resolveSubject _ lang => some lang

/-- The call with another language. -/
def withLang (lang : String) : Call → Call
  | operate op => operate (op.withLang lang)
  | resolveSubject name _ => resolveSubject name lang

/-- **A call in another spelling** leaves the same site, and its reply is the same but for the
spelling that it repeats. -/
theorem withLang_spec {lang lang' : String} (h : Respells lang lang') {c : Call}
    (hlang : c.lang? = some lang) (site : Site) :
    (c.withLang lang').run site = c.run site ∧
      (c.withLang lang').reply site = (c.reply site).echoing lang' := by
  cases c with
  | operate op => exact Operation.withLang_spec h hlang site
  | resolveSubject name _ =>
    obtain rfl := Option.some.inj hlang
    exact ⟨rfl, congrArg Reply.line (Subjects.resolve_of_respells h site.engine.subjects name)⟩

/-- The second call is the first, or the first in another spelling of its language. -/
def Respelled (c c' : Call) : Prop :=
  c' = c ∨ ∃ lang lang', c.lang? = some lang ∧ Respells lang lang' ∧ c' = c.withLang lang'

theorem Respelled.run_eq {c c' : Call} (h : c.Respelled c') (site : Site) :
    c'.run site = c.run site := by
  rcases h with rfl | ⟨lang, lang', hlang, hspells, rfl⟩
  · rfl
  · exact (withLang_spec hspells hlang site).1

theorem Respelled.masked_reply {c c' : Call} (h : c.Respelled c') (site : Site) :
    (c'.reply site).masked = (c.reply site).masked := by
  rcases h with rfl | ⟨lang, lang', hlang, hspells, rfl⟩
  · rfl
  · rw [(withLang_spec hspells hlang site).2]
    exact (c.reply site).echoing_echoing lang' ""

end Call

/-! ## §5. Runs of calls -/

/-- **Spellings of a language are interchangeable.**  Two runs of calls of which each is the same in
both, or the same in two spellings of its language, leave the same site, store and subject lines
included, and give the same replies, the language that a reply repeats apart. -/
theorem respelled_run (site : Site) {calls calls' : List Call}
    (respelled : List.Forall₂ Call.Respelled calls calls') :
    site.afterCalls calls' = site.afterCalls calls ∧
      (site.replies calls').map Reply.masked = (site.replies calls).map Reply.masked := by
  induction respelled generalizing site with
  | nil => exact ⟨rfl, rfl⟩
  | cons hcall _ ih =>
    -- the first call leaves one site in both runs, and the rest goes on from there
    obtain ⟨hafter, hreplies⟩ := ih (Call.run site _)
    rw [← hcall.run_eq site] at hafter
    refine ⟨?_, ?_⟩
    · exact hafter.trans (by rw [hcall.run_eq site]; rfl)
    · unfold Site.replies
      rw [List.map_cons, List.map_cons, hcall.masked_reply site, hcall.run_eq site, hreplies]

/-- A day of calls, each of which can be spelled by a language of its own. -/
def dayOfCalls (greeting question : String) : List Call := [
  .operate (.query (.load "goodbye" question)),
  .operate (.register "welcome" "Bonjour" greeting),
  .operate (.registerSubject "welcome" "Bienvenue" greeting),
  .operate (.query (.composeMail "welcome" question .empty)),
  .operate (.query (.info "goodbye" question)),
  .operate (.query (.clearTemplate "welcome" question)),
  .resolveSubject "welcome" question]

/-- Canadian French in two spellings: the runs end in one site, and they reply the same but for the
spelling, which the failure to find a farewell repeats. -/
theorem respelled_run_french :
    let site : Site := ⟨greetings, plainEngine "en"⟩
    site.afterCalls (dayOfCalls " FR" "fr_ca") = site.afterCalls (dayOfCalls "fr" "fr-CA") ∧
      (site.replies (dayOfCalls " FR" "fr_ca")).map Reply.masked
        = (site.replies (dayOfCalls "fr" "fr-CA")).map Reply.masked ∧
      site.replies (dayOfCalls " FR" "fr_ca") ≠ site.replies (dayOfCalls "fr" "fr-CA") := by
  have hgreeting : Respells "fr" " FR" := by decide +kernel
  have hquestion : Respells "fr-CA" "fr_ca" := by decide +kernel
  have respelled : List.Forall₂ Call.Respelled (dayOfCalls "fr" "fr-CA")
      (dayOfCalls " FR" "fr_ca") := by
    have hasked : ∀ {c : Call}, c.lang? = some "fr-CA" → c.Respelled (c.withLang "fr_ca") :=
      fun hlang => Or.inr ⟨_, _, hlang, hquestion, rfl⟩
    have hgiven : ∀ {c : Call}, c.lang? = some "fr" → c.Respelled (c.withLang " FR") :=
      fun hlang => Or.inr ⟨_, _, hlang, hgreeting, rfl⟩
    exact .cons (hasked rfl) (.cons (hgiven rfl) (.cons (hgiven rfl) (.cons (hasked rfl)
      (.cons (hasked rfl) (.cons (hasked rfl) (.cons (hasked rfl) .nil))))))
  obtain ⟨hafter, hreplies⟩ := respelled_run ⟨greetings, plainEngine "en"⟩ respelled
  refine ⟨hafter, hreplies, fun hsame => ?_⟩
  obtain ⟨hfirst, -⟩ := List.cons.inj hsame
  have hload := Answer.body.inj (Reply.answer.inj hfirst)
  revert hload
  decide +kernel

end LocalizedMail.Template
