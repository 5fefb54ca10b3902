import LocalizedMail.Proofs.Lookup
import LocalizedMail.Template.Engine
import Mathlib.Tactic.Push

/-!
# What earlier lookups change

Between two registrations an engine is only *queried*: bodies are loaded, rendered, described,
listed, and the cache is cleared.  This file is about what such a history does to a later load.

Whatever the history, a cached body is the text of its file, so history can show in one way only:
a directory that comes later in the list may be served from the cache before an earlier one is read
from its file.  Hence the exact condition under which it never shows:

  * `load_ignores_history_iff`: a load gives the same after every history exactly when the
    directories that serve it hold a registration, or files that all have one text;
  * `load_shows_history`: two tags of one language, two files, and a load that shows which of the
    tags was loaded first.
-/

namespace LocalizedMail.Template

open Placeholder (Rendered Variables)

/-! ## §1. Queries -/

/-- An operation that registers nothing. -/
inductive Query where
  | load (name lang : String)
  | isAvailable (name lang : String)
  | renderReport (name lang : String) (values : Variables)
  | renderText (name lang : String) (values : Variables)
  | composeMail (name lang : String) (values : Variables)
  | info (name lang : String)
  | list (lang : String)
  | clearCache
  | clearTemplate (name lang : String)

/-- What a query answers. -/
inductive Answer where
  | body (r : Except Fault String)
  | availability (b : Bool)
  | report (r : Except Fault Rendered)
  | mail (r : Except Fault Engine.Composed)
  | place (r : Except Fault Store.Info)
  | names (r : Except Fault (List String))
  | done

/-- What a query does to an engine. -/
def Query.run (disk : FileTree) (e : Engine) : Query → Step Answer Engine
  | load name lang => (e.withStore (e.store.load disk name lang)).map .body
  | isAvailable name lang => (e.withStore (e.store.isAvailable disk name lang)).map .availability
  | renderReport name lang values => (e.renderReport disk name lang values).map .report
  | renderText name lang values => (e.renderText disk name lang values).map .body
  | composeMail name lang values => (e.composeMail disk name lang values).map .mail
  | info name lang => ⟨.place (e.store.info disk name lang), e, []⟩
  | list lang => ⟨.names (e.store.list disk lang), e, []⟩
  | clearCache => (e.withStore e.store.clearCache).map fun _ => .done
  | clearTemplate name lang => (e.withStore (e.store.clearTemplate name lang)).map fun _ => .done

namespace Engine

/-- The engine after a history of queries, oldest first. -/
def after (disk : FileTree) (e : Engine) (history : List Query) : Engine :=
  history.foldl (fun e q => (q.run disk e).state) e

/-- The engine with the same registrations and nothing in its cache. -/
def forgetful (e : Engine) : Engine := { e with store := e.store.clearCache.state }

end Engine

/-! ## §2. What a query does to the store -/

namespace Store

/-- What a store can become by one query. -/
inductive Queried (disk : FileTree) (s : Store) : Store → Prop
  | untouched : Queried disk s s
  | loaded (name lang : String) : Queried disk s (s.load disk name lang).state
  | cleared : Queried disk s s.clearCache.state
  | clearedOf (name lang : String) : Queried disk s (s.clearTemplate name lang).state

end Store

theorem Engine.renderReport_state (disk : FileTree) (e : Engine) (name lang : String)
    (values : Variables) :
    (e.renderReport disk name lang values).state
      = { e with store := (e.store.load disk name lang).state } := by
  unfold Engine.renderReport
  dsimp only
  split <;> rfl

theorem Engine.renderText_state (disk : FileTree) (e : Engine) (name lang : String)
    (values : Variables) :
    (e.renderText disk name lang values).state
      = { e with store := (e.store.load disk name lang).state } := by
  rw [← Engine.renderReport_state disk e name lang values]
  unfold Engine.renderText
  dsimp only
  split <;> rfl

theorem Engine.composeMail_state (disk : FileTree) (e : Engine) (name lang : String)
    (values : Variables) :
    (e.composeMail disk name lang values).state
      = { e with store := (e.store.load disk name lang).state } := by
  rw [← Engine.renderReport_state disk e name lang values]
  unfold Engine.composeMail
  dsimp only
  split
  · rfl
  · split <;> rfl

/-- A query changes nothing but the store, and the store in one of four ways. -/
theorem Query.run_state (disk : FileTree) (e : Engine) (q : Query) :
    ∃ t, Store.Queried disk e.store t ∧ (q.run disk e).state = { e with store := t } := by
  cases q with
  | load name lang => exact ⟨_, .loaded name lang, rfl⟩
  | isAvailable name lang => exact ⟨_, .loaded name lang, rfl⟩
  | renderReport name lang values =>
    exact ⟨_, .loaded name lang, e.renderReport_state disk name lang values⟩
  | renderText name lang values =>
    exact ⟨_, .loaded name lang, e.renderText_state disk name lang values⟩
  | composeMail name lang values =>
    exact ⟨_, .loaded name lang, e.composeMail_state disk name lang values⟩
  | info name lang => exact ⟨_, .untouched, rfl⟩
  | list lang => exact ⟨_, .untouched, rfl⟩
  | clearCache => exact ⟨_, .cleared, rfl⟩
  | clearTemplate name lang => exact ⟨_, .clearedOf name lang, rfl⟩

/-! ## §3. The invariant of a history -/

namespace Store

/-- Every cached body is the text of its file. -/
def CacheSound (disk : FileTree) (s : Store) : Prop :=
  ∀ key body, s.cache.get? key = some body → s.fileText? disk key.name key.directory = some body

/-- Under one root a template is looked for in one place. -/
theorem path_congr {s t : Store} (h : t.root = s.root) (d name : String) :
    t.path d name = s.path d name := by
  unfold path directoryPath
  rw [h]

/-- Two stores over the same files, with the same registrations. -/
structure SameShelf (s t : Store) : Prop where
  root : t.root = s.root
  defaultLang : t.defaultLang = s.defaultLang
  memory : t.memory = s.memory

theorem SameShelf.refl (s : Store) : SameShelf s s := ⟨rfl, rfl, rfl⟩

theorem SameShelf.trans {s t u : Store} (h : SameShelf s t) (h' : SameShelf t u) :
    SameShelf s u :=
  ⟨h'.root.trans h.root, h'.defaultLang.trans h.defaultLang, h'.memory.trans h.memory⟩

theorem SameShelf.chain {s t : Store} (h : SameShelf s t) (lang : String) :
    t.chain lang = s.chain lang := by
  simp only [Store.chain, h.defaultLang]

theorem SameShelf.fileText? {s t : Store} (h : SameShelf s t) (disk : FileTree)
    (name d : String) : t.fileText? disk name d = s.fileText? disk name d := by
  unfold Store.fileText?
  rw [path_congr h.root]

theorem clearTemplate_state (s : Store) (name lang : String) :
    (s.clearTemplate name lang).state
      = { s with cache := (s.chain lang).all.foldl (fun t d => t.erase ⟨d, name⟩) s.cache } := by
  unfold clearTemplate
  dsimp only

/-- Erasing keys one after the other leaves the other keys as they are. -/
theorem get?_foldl_erase (name : String) (ds : List String) (t : Table Key String) (k : Key) :
    (ds.foldl (fun t d => t.erase ⟨d, name⟩) t).get? k
      = if k.name = name ∧ k.directory ∈ ds then none else t.get? k := by
  induction ds generalizing t with
  | nil => simp
  | cons d ds ih =>
    obtain ⟨kd, kn⟩ := k
    rw [List.foldl_cons, ih, Table.get?_erase]
    by_cases hn : kn = name
    · by_cases hd : kd = d
      · simp [hn, hd]
      · simp [hn, hd]
    · simp [hn]

/-- **A query leaves the registrations and the files alone.** -/
theorem Queried.sameShelf {disk : FileTree} {s t : Store} (h : Queried disk s t) :
    SameShelf s t := by
  cases h with
  | untouched => exact .refl s
  | loaded name lang =>
    rcases load_state disk s name lang with h | ⟨d, body, -, -, -, -, h⟩
    · rw [h]; exact .refl s
    · rw [h]; exact ⟨keep_root _ _ _, keep_defaultLang _ _ _, keep_memory _ _ _⟩
  | cleared => exact ⟨rfl, rfl, rfl⟩
  | clearedOf name lang => rw [clearTemplate_state]; exact ⟨rfl, rfl, rfl⟩

/-- **A query keeps the cache sound.** -/
theorem Queried.cacheSound {disk : FileTree} {s t : Store} (h : Queried disk s t)
    (hs : CacheSound disk s) : CacheSound disk t := by
  intro key body hbody
  rw [h.sameShelf.fileText?]
  cases h with
  | untouched => exact hs key body hbody
  | loaded name lang =>
    rcases load_state disk s name lang with h | ⟨d, text, -, -, hfree, htext, h⟩
    · rw [h] at hbody
      exact hs key body hbody
    · rw [h, get?_keep hfree] at hbody
      by_cases hkey : key = ⟨d, name⟩
      · subst hkey
        rw [if_pos rfl] at hbody
        rw [← hbody]
        exact htext
      · rw [if_neg hkey] at hbody
        exact hs key body hbody
  | cleared => cases hbody
  | clearedOf name lang =>
    rw [clearTemplate_state] at hbody
    dsimp only at hbody
    rw [get?_foldl_erase] at hbody
    split at hbody
    · cases hbody
    · exact hs key body hbody

end Store

/-- **The invariant of a run of queries.** -/
theorem Engine.after_invariant (disk : FileTree) (e : Engine) (history : List Query)
    (h : e.store.CacheSound disk) :
    Store.SameShelf e.store (e.after disk history).store ∧
      (e.after disk history).store.CacheSound disk := by
  induction history generalizing e with
  | nil => exact ⟨.refl _, h⟩
  | cons q history ih =>
    obtain ⟨t, hqueried, hstate⟩ := q.run_state disk e
    have hstore : (q.run disk e).state.store = t := by rw [hstate]
    obtain ⟨hshelf, hsound⟩ := ih (q.run disk e).state
      (by rw [hstore]; exact hqueried.cacheSound h)
    rw [hstore] at hshelf
    exact ⟨hqueried.sameShelf.trans hshelf, hsound⟩

/-! ## §4. What a sound cache can show -/

namespace Store

/-- Whether one of the directories has a registration or a readable file of a template. -/
def offers (disk : FileTree) (s : Store) (name : String) (directories : List String) : Bool :=
  directories.any fun d =>
    (s.memory.get? ⟨d, name⟩).isSome || (s.fileText? disk name d).isSome

/-- The directories that serve a template for a language: those that are requested if they have
anything to offer, else those that the default language adds. -/
def serving (disk : FileTree) (s : Store) (name lang : String) : List String :=
  if s.offers disk name (s.chain lang).requested then (s.chain lang).requested
  else (s.chain lang).fallback

/-- One of the directories holds a registration, or all their readable files have one text. -/
def OneText (disk : FileTree) (s : Store) (name : String) (directories : List String) : Prop :=
  (∃ d ∈ directories, (s.memory.get? ⟨d, name⟩).isSome) ∨
    ∀ d₁ ∈ directories, ∀ d₂ ∈ directories, ∀ body₁ body₂,
      s.fileText? disk name d₁ = some body₁ → s.fileText? disk name d₂ = some body₂ →
        body₁ = body₂

/-- The directories that serve a template for a language have only one body to serve. -/
def Settled (disk : FileTree) (s : Store) (name lang : String) : Prop :=
  isName name → s.OneText disk name (s.serving disk name lang)

theorem offers_eq_false {disk : FileTree} {s : Store} {name : String} {ds : List String} :
    s.offers disk name ds = false ↔
      ∀ d ∈ ds, s.memory.get? ⟨d, name⟩ = none ∧ s.fileText? disk name d = none := by
  simp [offers, List.any_eq_false]

theorem cacheSound_clearCache (disk : FileTree) (s : Store) :
    s.clearCache.state.CacheSound disk := by
  intro key body hbody
  cases hbody

/-- Over a sound cache, a search finds something exactly when there is something on offer. -/
theorem CacheSound.lookup_eq_none {disk : FileTree} {s : Store} (h : s.CacheSound disk)
    {name : String} {ds : List String} :
    (lookup disk s name ds).result = none ↔ s.offers disk name ds = false := by
  rw [Store.lookup_eq_none, offers_eq_false]
  constructor
  · intro hnone d hd
    exact ⟨(hnone d hd).1, (hnone d hd).2.2⟩
  · intro hnone d hd
    refine ⟨(hnone d hd).1, ?_, (hnone d hd).2⟩
    cases hc : s.cache.get? ⟨d, name⟩ with
    | none => rfl
    | some body =>
      have hfile := h _ _ hc
      rw [(hnone d hd).2] at hfile
      cases hfile

/-- Over a sound cache, what is found is the first registration, or without one the text of a
readable file. -/
theorem CacheSound.lookup_result {disk : FileTree} {s : Store} (h : s.CacheSound disk)
    {name body : String} {ds : List String} (hfound : (lookup disk s name ds).result = some body) :
    (∃ d, firstIn s.memory name ds = some (d, body)) ∨
      firstIn s.memory name ds = none ∧ ∃ d ∈ ds, s.fileText? disk name d = some body := by
  have hspec := lookup_spec disk s name ds
  generalize lookup disk s name ds = step at hspec hfound
  cases hspec with
  | registered hm =>
    obtain rfl := Option.some.inj hfound
    exact Or.inl ⟨_, hm⟩
  | @cached d text hm hc =>
    obtain rfl := Option.some.inj hfound
    obtain ⟨hd, hbody⟩ := firstText_eq_some hc
    have hfile := h ⟨d, name⟩ text hbody
    exact Or.inr ⟨hm, d, hd, hfile⟩
  | read hm _ hf =>
    obtain rfl := Option.some.inj hfound
    obtain ⟨hd, hbody⟩ := firstText_eq_some hf
    exact Or.inr ⟨hm, _, hd, hbody⟩
  | missed => cases hfound

section sameShelf

variable {disk : FileTree} {s t : Store} {name : String} {ds : List String}

theorem SameShelf.offers (h : SameShelf s t) : t.offers disk name ds = s.offers disk name ds := by
  simp only [Store.offers, h.memory, h.fileText?]

/-- Sound caches over the same shelf show no difference where there is only one text. -/
theorem SameShelf.lookup_result (h : SameShelf s t) (hs : s.CacheSound disk)
    (ht : t.CacheSound disk) (hone : s.OneText disk name ds) :
    (lookup disk t name ds).result = (lookup disk s name ds).result := by
  cases hfs : (lookup disk s name ds).result with
  | none => rw [ht.lookup_eq_none, h.offers, ← hs.lookup_eq_none]; exact hfs
  | some bs =>
    cases hft : (lookup disk t name ds).result with
    | none =>
      rw [ht.lookup_eq_none, h.offers, ← hs.lookup_eq_none, hfs] at hft
      cases hft
    | some bt =>
      have hcs := hs.lookup_result hfs
      have hct := ht.lookup_result hft
      rw [h.memory] at hct
      rcases hcs with ⟨d, hm⟩ | ⟨hm, ds', hds, hbs⟩ <;>
        rcases hct with ⟨d', hm'⟩ | ⟨hm', dt, hdt, hbt⟩
      · rw [hm] at hm'
        rw [(Prod.mk.inj (Option.some.inj hm')).2]
      · rw [hm] at hm'; cases hm'
      · rw [hm] at hm'; cases hm'
      · rw [h.fileText?] at hbt
        rcases hone with ⟨d, hd, hreg⟩ | hone
        · rw [firstIn_eq, firstText_eq_none] at hm
          rw [hm d hd] at hreg; cases hreg
        · rw [hone dt hdt ds' hds bt bs hbt hbs]

/-- A load gives the same over sound caches, where there is only one body to serve. -/
theorem SameShelf.load_result (h : SameShelf s t) (hs : s.CacheSound disk)
    (ht : t.CacheSound disk) {lang : String} (hone : s.Settled disk name lang) :
    (t.load disk name lang).result = (s.load disk name lang).result := by
  by_cases hname : isName name
  · have hserving := hone hname
    unfold serving at hserving
    by_cases hoffer : s.offers disk name (s.chain lang).requested
    · rw [if_pos hoffer] at hserving
      have heq := h.lookup_result hs ht hserving
      cases hfound : (lookup disk s name (s.chain lang).requested).result with
      | none => rw [hs.lookup_eq_none, hoffer] at hfound; cases hfound
      | some body =>
        rw [hfound, ← h.chain lang] at heq
        rw [(load_of_requested hname hfound).1, (load_of_requested hname heq).1]
    · rw [if_neg hoffer] at hserving
      have hmissed : (lookup disk s name (s.chain lang).requested).result = none :=
        hs.lookup_eq_none.mpr (by simpa using hoffer)
      have hmissed' : (lookup disk t name (t.chain lang).requested).result = none := by
        rw [ht.lookup_eq_none, h.offers, h.chain]
        simpa using hoffer
      have heq := h.lookup_result hs ht hserving
      cases hfound : (lookup disk s name (s.chain lang).fallback).result with
      | none =>
        rw [hfound, ← h.chain lang] at heq
        rw [load_of_nowhere hname hmissed hfound, load_of_nowhere hname hmissed' heq,
          h.defaultLang]
      | some body =>
        rw [hfound, ← h.chain lang] at heq
        rw [(load_of_fellBack hname hmissed hfound).1, (load_of_fellBack hname hmissed' heq).1]
  · have hbad : isName name = false := by simpa using hname
    rw [load_of_refused hbad, load_of_refused hbad]

end sameShelf

/-! ## §5. How a history shows -/

/-- Nothing is registered under any of the directories. -/
def Unregistered (s : Store) (name : String) (directories : List String) : Prop :=
  ∀ d ∈ directories, s.memory.get? ⟨d, name⟩ = none

/-- With an empty cache, a directory that is loaded by its own name is read and kept. -/
theorem load_own_directory {disk : FileTree} {s : Store} {name lang d body : String}
    (hname : isName name) (hd : d ∈ Language.candidates lang) (hcache : s.cache = .empty)
    (hfree : s.Unregistered name (Language.candidates lang))
    (hbody : s.fileText? disk name d = some body) :
    (s.load disk name d).state = s.keep ⟨d, name⟩ body := by
  have hrequested : (s.chain d).requested = Language.candidates d := by
    unfold chain
    rw [Language.orDefault_of_mem_candidates hd]
    unfold Language.Chain.of
    dsimp only
  have hm : firstIn s.memory name (s.chain d).requested = none := by
    rw [hrequested, firstIn_eq, firstText_eq_none]
    exact fun x hx => hfree x (Language.candidates_subset hd hx)
  have hc : firstIn s.cache name (s.chain d).requested = none := by
    rw [hcache, firstIn_eq, firstText_eq_none]
    exact fun _ _ => rfl
  have hf : firstText (s.fileText? disk name) (s.chain d).requested = some (d, body) := by
    rw [hrequested]
    exact firstText_of_head (Language.candidates_head hd) hbody
  obtain ⟨hr, hs⟩ := lookup_of_read hm hc hf
  exact (load_of_requested hname hr).2.trans hs

/-- Where files have two texts, either can be made the result: one is served from an empty cache,
the other after its own directory was loaded. -/
theorem exists_two_results {disk : FileTree} {s : Store} {name lang : String}
    (hcache : s.cache = .empty) (hsettled : ¬ s.Settled disk name lang) :
    ∃ d, (((s.load disk name d).state).load disk name lang).result
      ≠ (s.load disk name lang).result := by
  unfold Settled OneText at hsettled
  push Not at hsettled
  obtain ⟨hname, hfree, d₁, hd₁, d₂, hd₂, body₁, body₂, hbody₁, hbody₂, hne⟩ := hsettled
  have hsound : s.CacheSound disk := by
    intro key body hbody
    rw [hcache] at hbody
    cases hbody
  -- one of the two texts is not the one that is served from the empty cache
  obtain ⟨d, body, hd, hbody, hother⟩ : ∃ d body, d ∈ s.serving disk name lang ∧
      s.fileText? disk name d = some body ∧ (s.load disk name lang).result ≠ .ok body := by
    by_cases h₁ : (s.load disk name lang).result = .ok body₁
    · refine ⟨d₂, body₂, hd₂, hbody₂, ?_⟩
      rw [h₁]
      exact fun h => hne (Except.ok.inj h)
    · exact ⟨d₁, body₁, hd₁, hbody₁, h₁⟩
  refine ⟨d, fun heq => hother (heq.symm.trans ?_)⟩
  have hempty : ∀ ds, firstIn s.cache name ds = none := by
    intro ds
    rw [hcache, firstIn_eq, firstText_eq_none]
    exact fun _ _ => rfl
  have hfree' : ∀ x ∈ s.serving disk name lang, s.memory.get? ⟨x, name⟩ = none := by
    intro x hx
    simpa using hfree x hx
  unfold serving at hd hfree'
  by_cases hoffer : s.offers disk name (s.chain lang).requested
  · rw [if_pos hoffer] at hd hfree'
    have hd' := mem_requested.mp hd
    rw [load_own_directory hname hd' hcache (fun x hx => hfree' x (mem_requested.mpr hx)) hbody]
    have hm : firstIn s.memory name (s.chain lang).requested = none := firstText_eq_none.mpr hfree'
    exact (load_keep_requested disk body hname hd hm (hempty _)).1
  · rw [if_neg hoffer] at hd hfree'
    have hnone := offers_eq_false.mp (by simpa using hoffer)
    have hmissed := hsound.lookup_eq_none.mpr (by simpa using hoffer)
    have hd' := (mem_fallback.mp hd).1
    -- the directories of the default language are requested too or they are its own
    have hfree'' : s.Unregistered name (Language.candidates s.defaultLang) := by
      intro x hx
      by_cases hreq : x ∈ (s.chain lang).requested
      · exact (hnone x hreq).1
      · exact hfree' x (mem_fallback.mpr ⟨hx, hreq⟩)
    rw [load_own_directory hname hd' hcache hfree'' hbody]
    have hm : firstIn s.memory name (s.chain lang).fallback = none := firstText_eq_none.mpr hfree'
    exact (load_keep_fallback body hname hd hmissed hm (hempty _)).1

end Store

/-! ## §6. When history shows -/

/-- **A load ignores history exactly where there is one body to serve.**  After every history of
queries that starts from an empty cache, loading a template gives what the empty cache gives, if and
only if the directories that serve it hold a registration or files of one text only. -/
theorem load_ignores_history_iff (disk : FileTree) (e : Engine) (name lang : String) :
    (∀ history : List Query,
        ((e.forgetful.after disk history).store.load disk name lang).result
          = (e.forgetful.store.load disk name lang).result) ↔
      e.store.Settled disk name lang := by
  have hcold : e.forgetful.store.Settled disk name lang ↔ e.store.Settled disk name lang :=
    Iff.rfl
  have hsound : e.forgetful.store.CacheSound disk := Store.cacheSound_clearCache disk e.store
  constructor
  · intro hsame
    by_contra hsettled
    obtain ⟨d, hd⟩ := Store.exists_two_results (s := e.forgetful.store) rfl (hcold.not.mpr hsettled)
    exact hd (hsame [.load name d])
  · intro hsettled history
    obtain ⟨hshelf, hsound'⟩ := e.forgetful.after_invariant disk history hsound
    exact hshelf.load_result hsound hsound' (hcold.mpr hsettled)

/-- Two directories of English templates, with a greeting each. -/
def greetings : FileTree :=
  .directory [("templates", .directory [
    ("en", .directory [("welcome.xhtml", .file (.text "Hello"))]),
    ("en-US", .directory [("welcome.xhtml", .file (.text "Howdy"))])])]

/-- **History shows.**  After a load for `en`, a load for `en-US` gives the text of the other
directory, although its own has a file and was asked for first. -/
theorem load_shows_history :
    ∃ e, Engine.create { root := "templates" } "2025" = .ok e ∧
      ((e.forgetful.after greetings [.load "welcome" "en"]).store.load greetings "welcome"
        "en-US").result = .ok "Hello" ∧
      (e.forgetful.store.load greetings "welcome" "en-US").result = .ok "Howdy" :=
  ⟨_, rfl, rfl, rfl⟩

end LocalizedMail.Template
