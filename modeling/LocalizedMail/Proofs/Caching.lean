import LocalizedMail.Proofs.Registrations
import Mathlib.Data.List.Induction

/-!
# Where cached bodies come from

The cache is written in one place, by a load that comes to the files, and cleared in two.  Everything
else that is done with an engine, and everything that happens to its files, leaves it as it is.  So
every cached body has a history: a load that read it, and no change since.

  * `load_served_disk_iff`: a load that is served from disk is a load that changes the store;
  * `Operation.cacheStep`: what one operation can do to the cache;
  * `exists_cachedBy`: where an entry comes from, after any run;
  * `cache_history`: all of it for runs that start from a new store.
-/

namespace LocalizedMail.Template

/-! ## §1. Served from disk -/

namespace Store

/-- A search of the files reports a file that is served exactly when there is one. -/
theorem served_mem_firstFile (disk : FileTree) (s : Store) (name : String) (ds : List String) :
    .served .disk ∈ (firstFile disk s name ds).2 ↔ (firstFile disk s name ds).1.isSome := by
  induction ds with
  | nil => exact iff_of_false List.not_mem_nil Bool.false_ne_true
  | cons d ds ih =>
    unfold firstFile
    dsimp only
    split
    next body hread => simp
    next hread => exact ih
    next fault _ hread => simpa using ih

/-- Keeping a body under a free key changes the store. -/
theorem keep_ne {s : Store} {key : Key} (free : s.cache.get? key = none) (body : String) :
    s.keep key body ≠ s := by
  intro h
  have hget := get?_keep free body key
  rw [h, free, if_pos rfl] at hget
  cases hget

/-- A search is served from disk exactly when it changes the store. -/
theorem lookup_served_disk_iff (disk : FileTree) (s : Store) (name : String) (ds : List String) :
    .served .disk ∈ (lookup disk s name ds).events ↔ (lookup disk s name ds).state ≠ s := by
  have hfile := served_mem_firstFile disk s name ds
  rw [fst_firstFile] at hfile
  have hspec := lookup_spec disk s name ds
  generalize lookup disk s name ds = step at hspec ⊢
  cases hspec with
  | registered => simp
  | cached => simp
  | read hm hc hf =>
    obtain ⟨hd, -⟩ := firstText_eq_some hf
    have hfree := firstText_eq_none.mp hc _ hd
    rw [hf] at hfile
    exact iff_of_true (hfile.mpr rfl) (keep_ne hfree _)
  | missed hm hc hf =>
    rw [hf] at hfile
    exact iff_of_false (fun h => by cases hfile.mp h) (fun h => h rfl)

/-- What a load that fell back reports is what its second search reports, as far as files are
served. -/
theorem served_mem_fallbackEvents {disk : FileTree} {s : Store} {name lang : String} :
    .served .disk ∈ fallbackEvents disk s name lang ↔
      .served .disk ∈ (lookup disk s name (s.chain lang).fallback).events := by
  unfold fallbackEvents
  split
  next hempty =>
    rw [List.isEmpty_iff.mp hempty]
    rfl
  next => simp

/-- **A load is served from disk exactly when it changes the store.** -/
theorem load_served_disk_iff (disk : FileTree) (s : Store) (name lang : String) :
    .served .disk ∈ (s.load disk name lang).events ↔ (s.load disk name lang).state ≠ s := by
  have hfirst := lookup_served_disk_iff disk s name (s.chain lang).requested
  have hsecond := lookup_served_disk_iff disk s name (s.chain lang).fallback
  have hspec := load_spec disk s name lang
  generalize s.load disk name lang = step at hspec ⊢
  cases hspec with
  | refused => simp
  | requested =>
    dsimp only
    exact hfirst
  | fellBack _ missed _ =>
    rw [lookup_state_of_none missed] at hfirst
    dsimp only
    rw [List.mem_append, hfirst, served_mem_fallbackEvents, hsecond]
    simp only [ne_eq, not_true_eq_false, false_or]
  | nowhere _ missed missedToo =>
    rw [lookup_state_of_none missed] at hfirst
    rw [lookup_state_of_none missedToo] at hsecond
    dsimp only
    rw [List.mem_append, List.mem_append, hfirst, served_mem_fallbackEvents, hsecond]
    simp only [ne_eq, not_true_eq_false, false_or, List.mem_singleton, reduceCtorEq]

/-- **What a load adds**: nothing, unless it is served from disk, and then the one entry that it was
missing. -/
theorem load_adds (disk : FileTree) (s : Store) (name lang : String) :
    (.served .disk ∉ (s.load disk name lang).events ∧ (s.load disk name lang).state = s) ∨
      .served .disk ∈ (s.load disk name lang).events ∧
        ∃ d body, d ∈ (s.chain lang).all ∧ (s.load disk name lang).result = .ok body ∧
          s.cache.get? ⟨d, name⟩ = none ∧ disk.readText (s.path d name) = .ok body ∧
          (s.load disk name lang).state = { s with cache := s.cache.insert ⟨d, name⟩ body } := by
  have hserved := load_served_disk_iff disk s name lang
  rcases load_state disk s name lang with hstate | ⟨d, body, hd, hresult, hfree, htext, hstate⟩
  · exact Or.inl ⟨fun h => hserved.mp h hstate, hstate⟩
  · refine Or.inr ⟨hserved.mpr ?_, d, body, hd, hresult, hfree, fileText?_eq_some.mp htext, ?_⟩
    · rw [hstate]
      exact keep_ne hfree body
    · rw [hstate, keep_of_free hfree]

end Store

/-! ## §2. One operation -/

/-- The template and the language of an operation that loads. -/
def Query.loads? : Query → Option (String × String)
  | load name lang => some (name, lang)
  | isAvailable name lang => some (name, lang)
  | renderReport name lang _ => some (name, lang)
  | renderText name lang _ => some (name, lang)
  | composeMail name lang _ => some (name, lang)
  | _ => none

/-- The template and the language of an operation that loads. -/
def Operation.loads? : Operation → Option (String × String)
  | query q => q.loads?
  | _ => none

/-- Whether a query drops what is cached under a key. -/
def Query.Clears (s : Store) (key : Key) : Query → Prop
  | clearCache => True
  | clearTemplate name lang => key.name = name ∧ key.directory ∈ (s.chain lang).all
  | _ => False

/-- Whether an operation drops what is cached under a key. -/
def Operation.Clears (s : Store) (key : Key) : Operation → Prop
  | query q => q.Clears s key
  | _ => False

/-- What an operation can do to a cache. -/
inductive CacheStep (site : Site) (op : Operation) : Table Key String → Prop
  /-- Nothing. -/
  | kept : CacheStep site op site.engine.store.cache
  /-- It loads a template, and the text of a file that was read becomes an entry. -/
  | read {name lang d body : String} (loads : op.loads? = some (name, lang))
      (result : (site.engine.store.load site.disk name lang).result = .ok body)
      (candidate : d ∈ (site.engine.store.chain lang).all)
      (absent : site.engine.store.cache.get? ⟨d, name⟩ = none)
      (content : site.disk.readText (site.engine.store.path d name) = .ok body) :
      CacheStep site op (site.engine.store.cache.insert ⟨d, name⟩ body)
  /-- It clears some keys. -/
  | cleared {t : Table Key String}
      (entry : ∀ key, t.get? key = site.engine.store.cache.get? key ∨
        op.Clears site.engine.store key ∧ t.get? key = none) : CacheStep site op t

/-- A load is a step of the cache. -/
theorem CacheStep.of_load {site : Site} {op : Operation} {name lang : String}
    (loads : op.loads? = some (name, lang)) :
    CacheStep site op (site.engine.store.load site.disk name lang).state.cache := by
  rcases Store.load_adds site.disk site.engine.store name lang with
    ⟨-, hstate⟩ | ⟨-, d, body, hd, hresult, hfree, htext, hstate⟩
  · rw [hstate]
    exact .kept
  · rw [hstate]
    exact .read loads hresult hd hfree htext

/-- **What one operation does to the cache.** -/
theorem Operation.cacheStep (site : Site) (op : Operation) :
    CacheStep site op (op.run site).engine.store.cache := by
  cases op with
  | query q =>
    show CacheStep site (.query q) (q.run site.disk site.engine).state.store.cache
    cases q with
    | load name lang => exact .of_load rfl
    | isAvailable name lang => exact .of_load rfl
    | renderReport name lang values =>
      show CacheStep site _ (site.engine.renderReport site.disk name lang values).state.store.cache
      rw [Engine.renderReport_state]
      exact .of_load rfl
    | renderText name lang values =>
      show CacheStep site _ (site.engine.renderText site.disk name lang values).state.store.cache
      rw [Engine.renderText_state]
      exact .of_load rfl
    | composeMail name lang values =>
      show CacheStep site _ (site.engine.composeMail site.disk name lang values).state.store.cache
      rw [Engine.composeMail_state]
      exact .of_load rfl
    | info name lang => exact .kept
    | list lang => exact .kept
    | clearCache => exact .cleared fun key => Or.inr ⟨trivial, rfl⟩
    | clearTemplate name lang =>
      refine .cleared fun key => ?_
      show (site.engine.store.clearTemplate name lang).state.cache.get? key = _ ∨
        _ ∧ (site.engine.store.clearTemplate name lang).state.cache.get? key = none
      rw [Store.clearTemplate_state]
      dsimp only
      rw [Store.get?_foldl_erase]
      split
      next hkey => exact Or.inr ⟨hkey, rfl⟩
      next => exact Or.inl rfl
  | register name body lang =>
    show CacheStep site _ (site.engine.store.register name body lang).state.cache
    unfold Store.register
    split
    · exact .kept
    · exact .kept
  | registerSubject name line lang =>
    show CacheStep site _ (site.engine.registerSubject name line lang).state.store.cache
    unfold Engine.registerSubject
    split
    · exact .kept
    · exact .kept
  | loadSubjects lang path => exact .kept
  | readSubjectFiles =>
    show CacheStep site _ (site.engine.readSubjectFiles site.disk).state.store.cache
    unfold Engine.readSubjectFiles
    split
    · exact .kept
    · exact .kept
    · exact .kept
  | change disk => exact .kept

/-- An entry stays as it is until it is cleared. -/
theorem Operation.cache_entry_stays {site : Site} (op : Operation) {key : Key} {body : String}
    (entry : site.engine.store.cache.get? key = some body) :
    (op.run site).engine.store.cache.get? key = some body ∨
      op.Clears site.engine.store key ∧ (op.run site).engine.store.cache.get? key = none := by
  have hstep := op.cacheStep site
  generalize (op.run site).engine.store.cache = t at hstep ⊢
  cases hstep with
  | kept => exact Or.inl entry
  | @read name lang d text _ _ _ absent _ =>
    left
    have hne : key ≠ ⟨d, name⟩ := by
      rintro rfl
      rw [absent] at entry
      cases entry
    rw [Table.get?_insert, if_neg hne, entry]
  | cleared hentry =>
    rw [← entry]
    exact hentry key

/-! ## §3. Runs -/

/-- No operation changes where the files of a store are. -/
theorem Operation.run_root (site : Site) (op : Operation) :
    (op.run site).engine.store.root = site.engine.store.root := by
  cases op with
  | query q =>
    obtain ⟨t, hqueried, hstate⟩ := q.run_state site.disk site.engine
    show (q.run site.disk site.engine).state.store.root = _
    rw [hstate]
    exact hqueried.sameShelf.root
  | register name body lang =>
    show (site.engine.store.register name body lang).state.root = _
    unfold Store.register
    split
    · rfl
    · rfl
  | registerSubject name line lang =>
    show (site.engine.registerSubject name line lang).state.store.root = _
    unfold Engine.registerSubject
    split
    · rfl
    · rfl
  | loadSubjects lang path => rfl
  | readSubjectFiles =>
    show (site.engine.readSubjectFiles site.disk).state.store.root = _
    unfold Engine.readSubjectFiles
    split
    · rfl
    · rfl
    · rfl
  | change disk => rfl

theorem Site.root_after (site : Site) (operations : List Operation) :
    (site.after operations).engine.store.root = site.engine.store.root := by
  induction operations generalizing site with
  | nil => rfl
  | cons op rest ih => exact (ih (op.run site)).trans (op.run_root site)

theorem Site.path_after (site : Site) (operations : List Operation) (d name : String) :
    (site.after operations).engine.store.path d name = site.engine.store.path d name :=
  Store.path_congr (site.root_after operations) d name

theorem Site.after_concat (site : Site) (operations : List Operation) (op : Operation) :
    site.after (operations ++ [op]) = op.run (site.after operations) :=
  List.foldl_append

/-- How an entry came into the cache in a run that is cut at one operation. -/
structure CachedBy (start : Site) (key : Key) (body : String) (before : List Operation)
    (op : Operation) (later : List Operation) : Prop where
  /-- the operation loads the template for a language that the directory is tried for, and the load
  gives the body -/
  loads : ∃ lang, op.loads? = some (key.name, lang) ∧
    key.directory ∈ ((start.after before).engine.store.chain lang).all ∧
    ((start.after before).engine.store.load (start.after before).disk key.name lang).result
      = .ok body
  /-- nothing is cached under the key when the operation begins -/
  absent : (start.after before).engine.store.cache.get? key = none
  /-- the body is what the file of the template holds at that time -/
  content : (start.after before).disk.readText (start.engine.store.path key.directory key.name)
    = .ok body
  /-- the entry is there when the operation is over, and stays -/
  kept : ∀ part, part <+: later →
    (start.after (before ++ op :: part)).engine.store.cache.get? key = some body

/-- An entry that is still there after one more operation came from where it came from. -/
theorem CachedBy.concat {start : Site} {key : Key} {body : String} {before : List Operation}
    {op : Operation} {later : List Operation} (h : CachedBy start key body before op later)
    {last : Operation}
    (entry : (start.after (before ++ op :: (later ++ [last]))).engine.store.cache.get? key
      = some body) : CachedBy start key body before op (later ++ [last]) where
  loads := h.loads
  absent := h.absent
  content := h.content
  kept := by
    intro part hpart
    rcases List.prefix_concat_iff.mp hpart with rfl | hpart
    · exact entry
    · exact h.kept part hpart

/-- **Every cached body was read by a load of the run and has been there since.** -/
theorem exists_cachedBy {start : Site} (new : start.engine.store.cache = .empty)
    (operations : List Operation) {key : Key} {body : String}
    (entry : (start.after operations).engine.store.cache.get? key = some body) :
    ∃ before op later, operations = before ++ op :: later ∧
      CachedBy start key body before op later := by
  -- the induction is on the run, its last operation last, and one step is a step of the cache
  induction operations using List.reverseRecOn generalizing body with
  | nil =>
    have hempty : start.engine.store.cache.get? key = some body := entry
    rw [new] at hempty
    cases hempty
  | append_singleton operations last ih =>
    have hold : (start.after operations).engine.store.cache.get? key = some body →
        ∃ before op later, operations ++ [last] = before ++ op :: later ∧
          CachedBy start key body before op later := by
      intro hentry
      obtain ⟨before, op, later, rfl, hcached⟩ := ih hentry
      have happend : before ++ op :: later ++ [last] = before ++ op :: (later ++ [last]) := by
        rw [List.append_assoc, List.cons_append]
      rw [happend] at entry
      exact ⟨before, op, later ++ [last], happend, hcached.concat entry⟩
    have hlast := entry
    rw [Site.after_concat] at hlast
    have hstep := last.cacheStep (start.after operations)
    generalize (last.run (start.after operations)).engine.store.cache = t at hstep hlast
    cases hstep with
    | kept => exact hold hlast
    | @read name lang d text loads result candidate absent content =>
      -- either this load made the entry, or the entry was there before it
      by_cases hkey : key = ⟨d, name⟩
      · subst hkey
        rw [Table.get?_insert_self] at hlast
        obtain rfl := Option.some.inj hlast
        rw [start.path_after] at content
        refine ⟨operations, last, [], rfl, ⟨lang, loads, candidate, result⟩, absent, content, ?_⟩
        intro part hpart
        obtain rfl := List.prefix_nil.mp hpart
        exact entry
      · rw [Table.get?_insert, if_neg hkey] at hlast
        exact hold hlast
    | cleared hentry =>
      rcases hentry key with h | ⟨-, h⟩
      · exact hold (h.symm.trans hlast)
      · rw [h] at hlast
        cases hlast

/-- **The history of a cache.**  A store is new, and then anything is done with it and its engine,
and anything happens to its files.

Whatever is cached, is cached under a directory in canonical form and a name that a template may
have; it is what its file held when a load of the run read it, and it has been there since.  It will
be there after one more operation, unless that operation clears it.  A load adds one entry if it is
served from disk, and nothing else; a load that fails leaves the store as it is. -/
theorem cache_history {start : Site} {root defaultLang : String}
    (new : start.engine.store = .create root defaultLang) (operations : List Operation) :
    let now := start.after operations
    let store := now.engine.store
    (∀ key body, store.cache.get? key = some body →
      Language.isCanonical key.directory ∧ isName key.name ∧
      ∃ before op later, operations = before ++ op :: later ∧
        CachedBy start key body before op later) ∧
    (∀ key body, store.cache.get? key = some body → ∀ op : Operation,
      (op.run now).engine.store.cache.get? key = some body ∨
      op.Clears store key ∧ (op.run now).engine.store.cache.get? key = none) ∧
    (∀ name lang, let loaded := store.load now.disk name lang
      (.served .disk ∉ loaded.events ∧ loaded.state = store) ∨
      .served .disk ∈ loaded.events ∧ ∃ d body, loaded.result = .ok body ∧
        store.cache.get? ⟨d, name⟩ = none ∧
        loaded.state = { store with cache := store.cache.insert ⟨d, name⟩ body }) ∧
    (∀ name lang fault, (store.load now.disk name lang).result = .error fault →
      (store.load now.disk name lang).state = store) := by
  intro now store
  have hempty : start.engine.store.cache = .empty := by rw [new]; rfl
  refine ⟨?_, ?_, ?_, ?_⟩
  · intro key body entry
    obtain ⟨before, op, later, hcut, hcached⟩ := exists_cachedBy hempty operations entry
    obtain ⟨lang, -, hcandidate, hresult⟩ := hcached.loads
    exact ⟨Language.isCanonical_of_mem_all hcandidate, Store.isName_of_load hresult,
      before, op, later, hcut, hcached⟩
  · intro key body entry op
    exact op.cache_entry_stays entry
  · intro name lang loaded
    rcases Store.load_adds now.disk store name lang with
      hsame | ⟨hserved, d, body, -, hresult, hfree, -, hstate⟩
    · exact Or.inl hsame
    · exact Or.inr ⟨hserved, d, body, hresult, hfree, hstate⟩
  · intro name lang fault hfault
    exact Store.load_state_of_error hfault

/-- A greeting is read, the files go, and the greeting is served again. -/
def quietDay : List Operation := [
  .query (.load "welcome" "en-US"),
  .change (.directory []),
  .query (.isAvailable "welcome" "en")]

/-- After a quiet day the greeting is cached because its file was read; a registration leaves it
there, and a load that fails changes nothing. -/
theorem cache_history_quietDay :
    let key : Key := ⟨"en-US", "welcome"⟩
    let start : Site := ⟨greetings, plainEngine "en"⟩
    let now := start.after quietDay
    now.engine.store.cache.get? key = some "Howdy" ∧
      (∃ before op later, quietDay = before ++ op :: later ∧
        CachedBy start key "Howdy" before op later) ∧
      ((Operation.register "welcome" "Hi" "").run now).engine.store.cache.get? key
        = some "Howdy" ∧
      (now.engine.store.load now.disk "ghost" "fr").result = .error (.notFound "ghost" "fr") ∧
      (now.engine.store.load now.disk "ghost" "fr").state = now.engine.store := by
  intro key start now
  have new : start.engine.store = .create "templates" "en" := rfl
  have entry : now.engine.store.cache.get? key = some "Howdy" := by decide +kernel
  have ghost : (now.engine.store.load now.disk "ghost" "fr").result
      = .error (.notFound "ghost" "fr") := by decide +kernel
  obtain ⟨horigin, hstays, -, hfails⟩ := cache_history new quietDay
  obtain ⟨-, -, hcached⟩ := horigin _ _ entry
  have hregister := (hstays _ _ entry (.register "welcome" "Hi" "")).resolve_right
    fun hclears => hclears.1
  exact ⟨entry, hcached, hregister, ghost, hfails "ghost" "fr" _ ghost⟩

end LocalizedMail.Template
