import LocalizedMail.Proofs.Caching
import LocalizedMail.Proofs.Spelling

/-!
# Clearing one template

Clearing a template for a language drops what is cached of it under the directories of that language
and of the default one.  These are the directories that a lookup for the language can come to, so
the lookup is as good as one after the whole cache was cleared; everything else that is cached, and
everything that is registered, stays.

The two stores are not equal, so they are compared by what a lookup can see of them: stores *agree*
on a template under some directories if they differ only in what they cache elsewhere.  Stores that
agree answer alike and still agree afterwards, and this goes on for as long as nothing else is asked.

  * `AgreeOn.load` and `AgreeOn.info`: what stores that agree make of one lookup;
  * `Query.Asks.run_agree`: the same for every query about one template in one language;
  * `agreeOn_cleared`: a store of which one template was cleared agrees with one that was emptied;
  * `clearTemplate_scoped`: what clearing one template does, and what it leaves alone.
-/

namespace LocalizedMail.Template

open Placeholder (Variables)

namespace Store

/-! ## §1. Stores that agree on a template -/

/-- Two stores over the same files, with the same registrations, and with the same cached bodies of
a template under the directories that a language is looked up in. -/
structure AgreeOn (name lang : String) (s t : Store) : Prop where
  shelf : SameShelf s t
  cache : ∀ d ∈ (s.chain lang).all, t.cache.get? ⟨d, name⟩ = s.cache.get? ⟨d, name⟩

theorem SameShelf.firstFile {s t : Store} (h : SameShelf s t) (disk : FileTree) (name : String)
    (ds : List String) : firstFile disk t name ds = firstFile disk s name ds := by
  induction ds with
  | nil => rfl
  | cons d ds ih =>
    unfold Store.firstFile
    dsimp only
    rw [path_congr h.root, ih]

section agree

variable {name lang : String} {s t : Store}

theorem AgreeOn.firstIn (h : AgreeOn name lang s t) {ds : List String}
    (hds : ∀ d ∈ ds, d ∈ (s.chain lang).all) : firstIn t.cache name ds = firstIn s.cache name ds := by
  induction ds with
  | nil => rfl
  | cons d ds ih =>
    have hrest := ih fun x hx => hds x (List.mem_cons_of_mem d hx)
    unfold Store.firstIn at hrest ⊢
    rw [List.findSome?_cons, List.findSome?_cons, hrest, h.cache d (hds d List.mem_cons_self)]

/-- Stores that agree go on to agree when they keep the same body. -/
theorem AgreeOn.keep (h : AgreeOn name lang s t) {d : String} (hd : d ∈ (s.chain lang).all)
    (hfree : s.cache.get? ⟨d, name⟩ = none) (body : String) :
    AgreeOn name lang (s.keep ⟨d, name⟩ body) (t.keep ⟨d, name⟩ body) where
  shelf :=
    ⟨by simp only [keep_root, h.shelf.root], by simp only [keep_defaultLang, h.shelf.defaultLang],
      by simp only [keep_memory, h.shelf.memory]⟩
  cache := by
    intro x hx
    rw [keep_chain] at hx
    rw [get?_keep hfree, get?_keep ((h.cache d hd).trans hfree), h.cache x hx]

/-- A search of some of the directories. -/
theorem AgreeOn.lookup (h : AgreeOn name lang s t) (disk : FileTree) {ds : List String}
    (hds : ∀ d ∈ ds, d ∈ (s.chain lang).all) :
    (lookup disk t name ds).result = (lookup disk s name ds).result ∧
      (lookup disk t name ds).events = (lookup disk s name ds).events ∧
      AgreeOn name lang (lookup disk s name ds).state (lookup disk t name ds).state := by
  have hmemory : Store.firstIn t.memory name ds = Store.firstIn s.memory name ds := by
    rw [h.shelf.memory]
  have hcache := h.firstIn hds
  have hfile := h.shelf.firstFile disk name ds
  have hread := fst_firstFile disk s name ds
  unfold Store.lookup
  rw [hmemory, hcache, hfile]
  cases Store.firstIn s.memory name ds with
  | some hit => exact ⟨rfl, rfl, h⟩
  | none =>
    cases hc : Store.firstIn s.cache name ds with
    | some hit => exact ⟨rfl, rfl, h⟩
    | none =>
      generalize Store.firstFile disk s name ds = found at hread ⊢
      obtain ⟨hit, events⟩ := found
      cases hit with
      | none => exact ⟨rfl, rfl, h⟩
      | some hit =>
        -- the body is kept under one of the directories, and neither store had one there
        obtain ⟨d, body⟩ := hit
        obtain ⟨hd, -⟩ := firstText_eq_some hread.symm
        exact ⟨rfl, rfl, h.keep (hds d hd) (firstText_eq_none.mp hc d hd) body⟩

/-- A load is made of two searches, both from the store that it starts with. -/
theorem load_eq (disk : FileTree) (s : Store) (lang : String) (good : isName name = true) :
    s.load disk name lang =
      let first := Store.lookup disk s name (s.chain lang).requested
      let second := Store.lookup disk s name (s.chain lang).fallback
      let events := first.events ++ fallbackEvents disk s name lang
      match first.result, second.result with
      | some body, _ => ⟨.ok body, first.state, first.events⟩
      | none, some body => ⟨.ok body, second.state, events⟩
      | none, none =>
        ⟨.error (.notFound name (Language.orDefault lang s.defaultLang)), s,
          events ++ [.notFound]⟩ := by
  have hspec := load_spec disk s name lang
  generalize s.load disk name lang = step at hspec ⊢
  cases hspec with
  | refused bad => rw [good] at bad; cases bad
  | requested _ found => simp only [found]
  | fellBack _ missed found => simp only [missed, found]
  | nowhere _ missed missedToo => simp only [missed, missedToo]

/-- **A load of the template for the language.** -/
theorem AgreeOn.load (h : AgreeOn name lang s t) (disk : FileTree) :
    (t.load disk name lang).result = (s.load disk name lang).result ∧
      (t.load disk name lang).events = (s.load disk name lang).events ∧
      AgreeOn name lang (s.load disk name lang).state (t.load disk name lang).state := by
  obtain ⟨hfirst, hevents, hstate⟩ :=
    h.lookup disk fun d hd => Language.mem_all.mpr (Or.inl hd)
  obtain ⟨hsecond, hevents', hstate'⟩ :=
    h.lookup disk fun d hd => Language.mem_all.mpr (Or.inr hd)
  have hback : fallbackEvents disk t name lang = fallbackEvents disk s name lang := by
    unfold fallbackEvents
    rw [h.shelf.chain, h.shelf.defaultLang, hevents']
  cases good : isName name with
  | false =>
    rw [load_of_refused good, load_of_refused good]
    exact ⟨rfl, rfl, h⟩
  | true =>
    rw [load_eq disk s lang good, load_eq disk t lang good]
    dsimp only
    rw [hback, h.shelf.chain, h.shelf.defaultLang, hfirst, hsecond, hevents]
    cases (Store.lookup disk s name (s.chain lang).requested).result with
    | some body =>
      dsimp only
      exact ⟨rfl, rfl, hstate⟩
    | none =>
      cases (Store.lookup disk s name (s.chain lang).fallback).result with
      | some body =>
        dsimp only
        exact ⟨rfl, rfl, hstate'⟩
      | none =>
        dsimp only
        exact ⟨rfl, rfl, h⟩

theorem AgreeOn.locate (h : AgreeOn name lang s t) (disk : FileTree) {ds : List String}
    (hds : ∀ d ∈ ds, d ∈ (s.chain lang).all) : t.locate disk name ds = s.locate disk name ds := by
  unfold Store.locate
  rw [h.shelf.memory, h.firstIn hds]
  simp only [path_congr h.shelf.root]

/-- **A description of the template in the language.** -/
theorem AgreeOn.info (h : AgreeOn name lang s t) (disk : FileTree) :
    t.info disk name lang = s.info disk name lang := by
  have hrequested := h.locate disk fun d hd => Language.mem_all.mpr (Or.inl hd)
  have hfallback := h.locate disk fun d hd => Language.mem_all.mpr (Or.inr hd)
  unfold Store.info
  dsimp only
  rw [h.shelf.chain, h.shelf.defaultLang, hrequested, hfallback]

end agree

end Store

/-! ## §2. Engines that agree on a template -/

namespace Engine

/-- Two engines that differ in their stores only, and these agree on a template in a language. -/
structure AgreeOn (name lang : String) (e f : Engine) : Prop where
  store : e.store.AgreeOn name lang f.store
  subjects : f.subjects = e.subjects
  defaults : f.defaults = e.defaults
  strict : f.strict = e.strict

section agree

variable {name lang : String} {e f : Engine}

/-- Engines that agree go on to agree when their stores do. -/
theorem AgreeOn.withStore (h : AgreeOn name lang e f) {s t : Store}
    (hstore : s.AgreeOn name lang t) :
    AgreeOn name lang { e with store := s } { f with store := t } :=
  ⟨hstore, h.subjects, h.defaults, h.strict⟩

theorem AgreeOn.substitute (h : AgreeOn name lang e f) (text : String) (values : Variables) :
    f.substitute text values = e.substitute text values := by
  unfold Engine.substitute
  rw [h.defaults, h.strict]

theorem AgreeOn.renderReport_result (h : AgreeOn name lang e f) (disk : FileTree)
    (values : Variables) :
    (f.renderReport disk name lang values).result
      = (e.renderReport disk name lang values).result := by
  obtain ⟨hload, -⟩ := h.store.load disk
  unfold renderReport
  dsimp only
  rw [hload]
  cases (e.store.load disk name lang).result with
  | error fault => rfl
  | ok body =>
    dsimp only
    rw [h.substitute]

theorem AgreeOn.renderText_result (h : AgreeOn name lang e f) (disk : FileTree)
    (values : Variables) :
    (f.renderText disk name lang values).result = (e.renderText disk name lang values).result := by
  unfold renderText
  dsimp only
  rw [h.renderReport_result disk values]
  cases (e.renderReport disk name lang values).result with
  | error fault => rfl
  | ok r => rfl

theorem AgreeOn.composeMail_result (h : AgreeOn name lang e f) (disk : FileTree)
    (values : Variables) :
    (f.composeMail disk name lang values).result
      = (e.composeMail disk name lang values).result := by
  have hmail : f.mailFrom name lang values = e.mailFrom name lang values := by
    funext body
    unfold mailFrom defaultLang
    rw [h.substitute, h.subjects, h.store.shelf.defaultLang]
  rw [Engine.composeMail_result, Engine.composeMail_result, hmail,
    h.renderReport_result disk values]

end agree

end Engine

/-! ## §3. What is asked about a template -/

/-- Whether a query is about one template in one language: the template is loaded, looked for,
rendered, made a mail of or described. -/
def Query.Asks (name lang : String) (q : Query) : Prop :=
  q.loads? = some (name, lang) ∨ q = .info name lang

/-- **Engines that agree on a template answer alike when they are asked about it, and go on to
agree.** -/
theorem Query.Asks.run_agree {name lang : String} {q : Query} (asks : q.Asks name lang)
    {e f : Engine} (h : e.AgreeOn name lang f) (disk : FileTree) :
    (q.run disk f).result = (q.run disk e).result ∧
      (q.run disk e).state.AgreeOn name lang (q.run disk f).state := by
  obtain ⟨hresult, -, hstate⟩ := h.store.load disk
  have hloaded := h.withStore hstate
  rcases asks with hloads | rfl
  · cases q with
    | load _ _ =>
      obtain ⟨rfl, rfl⟩ := Prod.mk.inj (Option.some.inj hloads)
      exact ⟨congrArg Answer.body hresult, hloaded⟩
    | isAvailable _ _ =>
      obtain ⟨rfl, rfl⟩ := Prod.mk.inj (Option.some.inj hloads)
      exact ⟨congrArg (fun r : Except Fault String => Answer.availability r.toBool) hresult, hloaded⟩
    | renderReport _ _ values =>
      obtain ⟨rfl, rfl⟩ := Prod.mk.inj (Option.some.inj hloads)
      refine ⟨congrArg Answer.report (h.renderReport_result disk values), ?_⟩
      show (e.renderReport disk _ _ values).state.AgreeOn _ _
        (f.renderReport disk _ _ values).state
      rw [Engine.renderReport_state, Engine.renderReport_state]
      exact hloaded
    | renderText _ _ values =>
      obtain ⟨rfl, rfl⟩ := Prod.mk.inj (Option.some.inj hloads)
      refine ⟨congrArg Answer.body (h.renderText_result disk values), ?_⟩
      show (e.renderText disk _ _ values).state.AgreeOn _ _ (f.renderText disk _ _ values).state
      rw [Engine.renderText_state, Engine.renderText_state]
      exact hloaded
    | composeMail _ _ values =>
      obtain ⟨rfl, rfl⟩ := Prod.mk.inj (Option.some.inj hloads)
      refine ⟨congrArg Answer.mail (h.composeMail_result disk values), ?_⟩
      show (e.composeMail disk _ _ values).state.AgreeOn _ _
        (f.composeMail disk _ _ values).state
      rw [Engine.composeMail_state, Engine.composeMail_state]
      exact hloaded
    | info _ _ => cases hloads
    | list _ => cases hloads
    | clearCache => cases hloads
    | clearTemplate _ _ => cases hloads
  · exact ⟨congrArg Answer.place (h.store.info disk), h⟩

/-- Whether a call is a query about one template in one language, resolves a subject line, or
happens to the files. -/
def Call.Asks (name lang : String) : Call → Prop
  | .operate (.query q) => q.Asks name lang
  | .operate (.change _) => True
  | .operate _ => False
  | .resolveSubject _ _ => True

/-- Two sites with the same files, and engines that agree on a template in a language. -/
structure Site.AgreeOn (name lang : String) (a b : Site) : Prop where
  disk : b.disk = a.disk
  engine : a.engine.AgreeOn name lang b.engine

/-- **One call.** -/
theorem Call.Asks.agree {name lang : String} {c : Call} (asks : c.Asks name lang) {a b : Site}
    (h : a.AgreeOn name lang b) :
    c.reply b = c.reply a ∧ (c.run a).AgreeOn name lang (c.run b) := by
  cases c with
  | resolveSubject subject tag =>
    refine ⟨?_, h⟩
    unfold Call.reply
    rw [h.engine.subjects]
  | operate op =>
    cases op with
    | change disk => exact ⟨rfl, rfl, h.engine⟩
    | query q =>
      obtain ⟨hresult, hstate⟩ := Query.Asks.run_agree asks h.engine a.disk
      have hrun : q.run b.disk b.engine = q.run a.disk b.engine := by rw [h.disk]
      refine ⟨congrArg Reply.answer ((congrArg Step.result hrun).trans hresult), h.disk, ?_⟩
      show (q.run a.disk a.engine).state.AgreeOn name lang (q.run b.disk b.engine).state
      rw [hrun]
      exact hstate
    | register _ _ _ => cases asks
    | registerSubject _ _ _ => cases asks
    | loadSubjects _ _ => cases asks
    | readSubjectFiles => cases asks

/-- **A run of calls.** -/
theorem Site.AgreeOn.replies {name lang : String} {a b : Site} (h : a.AgreeOn name lang b)
    {calls : List Call} (asks : ∀ c ∈ calls, c.Asks name lang) :
    b.replies calls = a.replies calls := by
  induction calls generalizing a b with
  | nil => rfl
  | cons c calls ih =>
    obtain ⟨hreply, hnext⟩ := (asks c List.mem_cons_self).agree h
    unfold Site.replies
    rw [hreply, ih hnext fun c' hc' => asks c' (List.mem_cons_of_mem c hc')]

/-! ## §4. Clearing -/

namespace Store

/-- The directories of a lookup are those of the requested and of the default language. -/
theorem mem_chain_all {s : Store} {lang d : String} :
    d ∈ (s.chain lang).all ↔
      d ∈ Language.candidates (Language.orDefault lang s.defaultLang) ∨
        d ∈ Language.candidates s.defaultLang := by
  rw [Language.mem_all, mem_fallback, or_and_left, and_iff_left (Classical.em _), mem_requested]

/-- Clearing a template changes nothing but the cache. -/
theorem clearTemplate_eq_withCache (s : Store) (name lang : String) :
    (s.clearTemplate name lang).state
      = { s with cache := (s.clearTemplate name lang).state.cache } := by
  rw [clearTemplate_state]

/-- What is cached after one template was cleared. -/
theorem get?_clearTemplate (s : Store) (name lang : String) (key : Key) :
    (s.clearTemplate name lang).state.cache.get? key
      = if key.name = name ∧ key.directory ∈ (s.chain lang).all then none
        else s.cache.get? key := by
  rw [clearTemplate_state]
  dsimp only
  rw [get?_foldl_erase]

/-- **A store of which one template was cleared agrees on it with one that was emptied**: neither
has it cached where a lookup could come to it. -/
theorem agreeOn_cleared (s : Store) (name lang : String) :
    AgreeOn name lang s.clearCache.state (s.clearTemplate name lang).state where
  shelf := by
    rw [clearTemplate_state]
    exact ⟨rfl, rfl, rfl⟩
  cache := by
    intro d hd
    rw [get?_clearTemplate, if_pos ⟨rfl, hd⟩]
    rfl

end Store

/-- **Clearing one template is as good as clearing the cache, and leaves everything else alone.**
In any state of a site a template is cleared for a language, or else the whole cache is cleared.

  * A load, a check and a description of the template in the language give the same and are
    reported the same after both; and so it goes on, for every run of calls about this template in
    this language, whatever happens to the files meanwhile.
  * Clearing the template drops the bodies that are cached of it under the directories of the
    requested and of the default language, and no other body.
  * It changes nothing but the cache. -/
theorem clearTemplate_scoped (site : Site) (name lang : String) {calls : List Call}
    (asks : ∀ c ∈ calls, c.Asks name lang) :
    let cleared := (Operation.query (.clearTemplate name lang)).run site
    let emptied := (Operation.query .clearCache).run site
    let before := site.engine.store
    let after := cleared.engine.store
    (∀ disk,
      let load := after.load disk name lang
      let load' := emptied.engine.store.load disk name lang
      let check := after.isAvailable disk name lang
      let check' := emptied.engine.store.isAvailable disk name lang
      (load.result = load'.result ∧ load.events = load'.events) ∧
      (check.result = check'.result ∧ check.events = check'.events) ∧
      after.info disk name lang = emptied.engine.store.info disk name lang) ∧
    cleared.replies calls = emptied.replies calls ∧
    (∀ key, after.cache.get? key =
      if key.name = name ∧ (key.directory ∈ Language.candidates (Language.orDefault lang
          before.defaultLang) ∨ key.directory ∈ Language.candidates before.defaultLang)
      then none else before.cache.get? key) ∧
    cleared = { site with
      engine := { site.engine with store := { before with cache := after.cache } } } := by
  intro cleared emptied before after
  have hafter : after = (before.clearTemplate name lang).state := rfl
  have hagree : emptied.engine.store.AgreeOn name lang after := before.agreeOn_cleared name lang
  refine ⟨?fresh, ?run, ?frame, ?rest⟩
  case fresh =>
    intro disk load load' check check'
    obtain ⟨hresult, hevents, -⟩ := hagree.load disk
    exact ⟨⟨hresult, hevents⟩, ⟨congrArg Except.toBool hresult, hevents⟩, hagree.info disk⟩
  case run =>
    have hsites : emptied.AgreeOn name lang cleared := ⟨rfl, hagree, rfl, rfl, rfl⟩
    exact hsites.replies asks
  case frame =>
    intro key
    rw [hafter, Store.get?_clearTemplate]
    simp only [Store.mem_chain_all]
  case rest =>
    exact congrArg (fun s => { site with engine := { site.engine with store := s } })
      (before.clearTemplate_eq_withCache name lang)

/-- English templates, a greeting and a farewell, both of one text. -/
def edition (text : String) : FileTree :=
  .directory [("templates", .directory [
    ("en", .directory [
      ("farewell.xhtml", .file (.text text)),
      ("welcome.xhtml", .file (.text text))])])]

/-- Both templates are read, the greeting for French, and then there is a second edition. -/
def revision : List Operation := [
  .query (.load "welcome" "fr"),
  .query (.load "farewell" "en"),
  .change (edition "second")]

/-- The greeting is cleared for French, and with it what the default language lent it; so the second
edition is read, as after the whole cache was cleared.  The farewell stays as it was. -/
theorem clearTemplate_scoped_revision :
    let site := (⟨edition "first", plainEngine "en"⟩ : Site).after revision
    let cleared := (Operation.query (.clearTemplate "welcome" "fr")).run site
    let emptied := (Operation.query .clearCache).run site
    let calls : List Call := [
      .operate (.query (.isAvailable "welcome" "fr")),
      .operate (.change (edition "third")),
      .operate (.query (.info "welcome" "fr")),
      .operate (.query (.load "welcome" "fr"))]
    (∀ c ∈ calls, c.Asks "welcome" "fr") ∧ cleared.replies calls = emptied.replies calls ∧
      (site.engine.store.load site.disk "welcome" "fr").result = .ok "first" ∧
      (cleared.engine.store.load site.disk "welcome" "fr").result = .ok "second" ∧
      cleared.engine.store.cache.get? ⟨"en", "farewell"⟩ = some "first" := by
  intro site cleared emptied calls
  have asks : ∀ c ∈ calls, c.Asks "welcome" "fr" := by
    intro c hc
    simp only [calls, List.mem_cons, List.not_mem_nil, or_false] at hc
    rcases hc with rfl | rfl | rfl | rfl
    · exact Or.inl rfl
    · exact trivial
    · exact Or.inr rfl
    · exact Or.inl rfl
  obtain ⟨hfresh, hreplies, hkept, -⟩ := clearTemplate_scoped site "welcome" "fr" asks
  obtain ⟨⟨hload, -⟩, -, -⟩ := hfresh site.disk
  refine ⟨asks, hreplies, by decide +kernel, hload.trans (by decide +kernel), ?_⟩
  exact (hkept ⟨"en", "farewell"⟩).trans (by decide +kernel)

end LocalizedMail.Template
