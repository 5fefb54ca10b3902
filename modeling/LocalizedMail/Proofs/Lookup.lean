import LocalizedMail.Proofs.Language
import LocalizedMail.Template.Store

/-!
# What a lookup finds

A lookup ends in one of a few ways, and this file says once what each of them does: which tier the
body comes from, what the earlier tiers did not hold, and what the store is afterwards.  Whatever is
proved about loads later starts from these descriptions, never from the definitions.

  * `LookedUp` and `lookup_spec`: the four ways in which a search of one list of directories ends;
  * `Loaded` and `load_spec`: the four ways in which a load ends;
  * `load_state`: a load keeps one readable file or leaves the store alone.
-/

namespace LocalizedMail.Template.Store

/-! ## §1. Searching directories in order -/

/-- The text of the file of a template in a directory, if it can be read. -/
def fileText? (disk : FileTree) (s : Store) (name directory : String) : Option String :=
  (disk.readText (s.path directory name)).toOption

theorem fileText?_eq_some {disk : FileTree} {s : Store} {name d body : String} :
    s.fileText? disk name d = some body ↔ disk.readText (s.path d name) = .ok body := by
  unfold fileText?
  cases disk.readText (s.path d name) with
  | ok text => simp [Except.toOption]
  | error fault => simp [Except.toOption]

/-- The first directory for which there is a text, and the text. -/
def firstText (text? : String → Option String) (directories : List String) :
    Option (String × String) :=
  directories.findSome? fun d => (text? d).map fun body => (d, body)

theorem firstText_eq_none {text? : String → Option String} {ds : List String} :
    firstText text? ds = none ↔ ∀ d ∈ ds, text? d = none := by
  simp [firstText, List.findSome?_eq_none_iff]

theorem firstText_eq_some {text? : String → Option String} {ds : List String} {d body : String}
    (h : firstText text? ds = some (d, body)) : d ∈ ds ∧ text? d = some body := by
  obtain ⟨x, hx, hd⟩ := List.exists_of_findSome?_eq_some h
  obtain ⟨b, hb, heq⟩ := Option.map_eq_some_iff.mp hd
  obtain ⟨rfl, rfl⟩ := Prod.mk.inj heq
  exact ⟨hx, hb⟩

/-- What comes first in the list is found first. -/
theorem firstText_of_head {text? : String → Option String} {ds : List String} {d body : String}
    (hd : ds.head? = some d) (h : text? d = some body) : firstText text? ds = some (d, body) := by
  cases ds with
  | nil => cases hd
  | cons x ds =>
    obtain rfl := Option.some.inj hd
    simp [firstText, h]

theorem firstIn_eq (t : Table Key String) (name : String) (ds : List String) :
    firstIn t name ds = firstText (fun d => t.get? ⟨d, name⟩) ds := rfl

theorem firstText_cons_some {text? : String → Option String} {d body : String}
    (ds : List String) (h : text? d = some body) :
    firstText text? (d :: ds) = some (d, body) := firstText_of_head rfl h

theorem firstText_cons_none {text? : String → Option String} {d : String} (ds : List String)
    (h : text? d = none) : firstText text? (d :: ds) = firstText text? ds := by
  simp only [firstText, List.findSome?_cons, h, Option.map_none]

/-- A directory that alone has a text is the one that is found. -/
theorem firstText_of_single {text? : String → Option String} {ds : List String}
    {d body : String} (hd : d ∈ ds) (h : text? d = some body)
    (hothers : ∀ x ∈ ds, x ≠ d → text? x = none) : firstText text? ds = some (d, body) := by
  cases hfound : firstText text? ds with
  | none => rw [firstText_eq_none.mp hfound d hd] at h; cases h
  | some found =>
    obtain ⟨x, b⟩ := found
    obtain ⟨hx, hb⟩ := firstText_eq_some hfound
    by_cases hxd : x = d
    · subst hxd
      rw [h] at hb
      rw [Option.some.inj hb]
    · rw [hothers x hx hxd] at hb; cases hb

/-- The file that is found is the first readable one, whatever is complained about on the way. -/
theorem fst_firstFile (disk : FileTree) (s : Store) (name : String) (ds : List String) :
    (firstFile disk s name ds).1 = firstText (s.fileText? disk name) ds := by
  have hunread : ∀ {d fault}, disk.readText (s.path d name) = .error fault →
      s.fileText? disk name d = none := by
    intro d fault hread
    unfold fileText?
    rw [hread]
    rfl
  induction ds with
  | nil => rfl
  | cons d ds ih =>
    unfold firstFile
    dsimp only
    split
    next body hread => exact (firstText_cons_some ds (fileText?_eq_some.mpr hread)).symm
    next hread => exact ih.trans (firstText_cons_none ds (hunread hread)).symm
    next fault _ hread => exact ih.trans (firstText_cons_none ds (hunread hread)).symm

/-! ## §2. One list of directories -/

/-- The ways in which a search of a list of directories ends. -/
inductive LookedUp (disk : FileTree) (s : Store) (name : String) (ds : List String) :
    Step (Option String) Store → Prop
  /-- A registered body is served. -/
  | registered {d body : String} (found : firstIn s.memory name ds = some (d, body)) :
      LookedUp disk s name ds ⟨some body, s, [.served .memory]⟩
  /-- Nothing is registered, and a cached body is served. -/
  | cached {d body : String} (unregistered : firstIn s.memory name ds = none)
      (found : firstIn s.cache name ds = some (d, body)) :
      LookedUp disk s name ds ⟨some body, s, [.served .cache]⟩
  /-- Nothing is registered or cached, and a file is read and kept. -/
  | read {d body : String} (unregistered : firstIn s.memory name ds = none)
      (uncached : firstIn s.cache name ds = none)
      (found : firstText (s.fileText? disk name) ds = some (d, body)) :
      LookedUp disk s name ds
        ⟨some body, s.keep ⟨d, name⟩ body, (firstFile disk s name ds).2⟩
  /-- There is nothing in any tier. -/
  | missed (unregistered : firstIn s.memory name ds = none)
      (uncached : firstIn s.cache name ds = none)
      (unreadable : firstText (s.fileText? disk name) ds = none) :
      LookedUp disk s name ds ⟨none, s, (firstFile disk s name ds).2⟩

theorem lookup_spec (disk : FileTree) (s : Store) (name : String) (ds : List String) :
    LookedUp disk s name ds (lookup disk s name ds) := by
  have hfile := fst_firstFile disk s name ds
  unfold lookup
  split
  next d body hm => exact .registered hm
  next hm =>
    split
    next d body hc => exact .cached hm hc
    next hc =>
      split
      next d body events hf =>
        rw [hf] at hfile
        have hread := LookedUp.read hm hc hfile.symm
        rwa [hf] at hread
      next events hf =>
        rw [hf] at hfile
        have hmissed := LookedUp.missed hm hc hfile.symm
        rwa [hf] at hmissed

/-- A search that finds nothing leaves the store alone. -/
theorem lookup_state_of_none {disk : FileTree} {s : Store} {name : String} {ds : List String}
    (h : (lookup disk s name ds).result = none) : (lookup disk s name ds).state = s := by
  have hspec := lookup_spec disk s name ds
  generalize lookup disk s name ds = step at h hspec
  cases hspec with
  | registered => cases h
  | cached => cases h
  | read => cases h
  | missed => rfl

section hits

variable {disk : FileTree} {s : Store} {name body d : String} {ds : List String}

/-- A registered body is found whatever the files are. -/
theorem lookup_of_registered (hm : firstIn s.memory name ds = some (d, body)) :
    lookup disk s name ds = ⟨some body, s, [.served .memory]⟩ := by
  unfold lookup
  rw [hm]

/-- A cached body is found whatever the files are. -/
theorem lookup_of_cached (hm : firstIn s.memory name ds = none)
    (hc : firstIn s.cache name ds = some (d, body)) :
    lookup disk s name ds = ⟨some body, s, [.served .cache]⟩ := by
  unfold lookup
  rw [hm, hc]

end hits

/-- A search that comes to the files keeps the first readable one. -/
theorem lookup_of_read {disk : FileTree} {s : Store} {name : String} {ds : List String}
    {d body : String} (hm : firstIn s.memory name ds = none)
    (hc : firstIn s.cache name ds = none)
    (hf : firstText (s.fileText? disk name) ds = some (d, body)) :
    (lookup disk s name ds).result = some body ∧
      (lookup disk s name ds).state = s.keep ⟨d, name⟩ body := by
  have hspec := lookup_spec disk s name ds
  generalize lookup disk s name ds = step at hspec ⊢
  cases hspec with
  | registered found => rw [hm] at found; cases found
  | cached _ found => rw [hc] at found; cases found
  | read _ _ found =>
    rw [hf] at found
    obtain ⟨rfl, rfl⟩ := Prod.mk.inj (Option.some.inj found)
    exact ⟨rfl, rfl⟩
  | missed _ _ unreadable => rw [hf] at unreadable; cases unreadable

/-- A search finds nothing exactly when no tier holds anything. -/
theorem lookup_eq_none {disk : FileTree} {s : Store} {name : String} {ds : List String} :
    (lookup disk s name ds).result = none ↔
      ∀ d ∈ ds, s.memory.get? ⟨d, name⟩ = none ∧ s.cache.get? ⟨d, name⟩ = none ∧
        s.fileText? disk name d = none := by
  have hspec := lookup_spec disk s name ds
  generalize lookup disk s name ds = step at hspec ⊢
  constructor
  · intro h d hd
    cases hspec with
    | registered => cases h
    | cached => cases h
    | read => cases h
    | missed hm hc hf =>
      rw [firstIn_eq, firstText_eq_none] at hm hc
      exact ⟨hm d hd, hc d hd, firstText_eq_none.mp hf d hd⟩
  · intro h
    cases hspec with
    | registered hm =>
      obtain ⟨hd, hbody⟩ := firstText_eq_some hm
      rw [(h _ hd).1] at hbody; cases hbody
    | cached hm hc =>
      obtain ⟨hd, hbody⟩ := firstText_eq_some hc
      rw [(h _ hd).2.1] at hbody; cases hbody
    | read hm hc hf =>
      obtain ⟨hd, hbody⟩ := firstText_eq_some hf
      rw [(h _ hd).2.2] at hbody; cases hbody
    | missed => rfl

/-! ## §3. A whole load -/

theorem mem_requested {s : Store} {lang d : String} :
    d ∈ (s.chain lang).requested ↔
      d ∈ Language.candidates (Language.orDefault lang s.defaultLang) := by
  simp only [chain, Language.Chain.of]

theorem mem_fallback {s : Store} {lang d : String} :
    d ∈ (s.chain lang).fallback ↔
      d ∈ Language.candidates s.defaultLang ∧ d ∉ (s.chain lang).requested := by
  rw [mem_requested]
  unfold chain
  exact Language.mem_fallback

/-- The default language adds no directory that is requested already. -/
theorem not_requested_of_fallback {s : Store} {lang d : String}
    (h : d ∈ (s.chain lang).fallback) : d ∉ (s.chain lang).requested :=
  (mem_fallback.mp h).2

/-- What a load that gets past the requested directories is reported as. -/
def fallbackEvents (disk : FileTree) (s : Store) (name lang : String) : List Event :=
  if (s.chain lang).fallback.isEmpty then []
  else .fellBack name (Language.orDefault lang s.defaultLang) s.defaultLang ::
    (lookup disk s name (s.chain lang).fallback).events

/-- The ways in which a load ends. -/
inductive Loaded (disk : FileTree) (s : Store) (name lang : String) :
    Step (Except Fault String) Store → Prop
  /-- The name is refused before anything is looked at. -/
  | refused (bad : isName name = false) :
      Loaded disk s name lang ⟨.error (.invalidName name), s, []⟩
  /-- The directories of the requested language have a body. -/
  | requested {body : String} (good : isName name = true)
      (found : (lookup disk s name (s.chain lang).requested).result = some body) :
      Loaded disk s name lang
        ⟨.ok body, (lookup disk s name (s.chain lang).requested).state,
          (lookup disk s name (s.chain lang).requested).events⟩
  /-- Only the directories that the default language adds have a body. -/
  | fellBack {body : String} (good : isName name = true)
      (missed : (lookup disk s name (s.chain lang).requested).result = none)
      (found : (lookup disk s name (s.chain lang).fallback).result = some body) :
      Loaded disk s name lang
        ⟨.ok body, (lookup disk s name (s.chain lang).fallback).state,
          (lookup disk s name (s.chain lang).requested).events ++ fallbackEvents disk s name lang⟩
  /-- No directory has a body. -/
  | nowhere (good : isName name = true)
      (missed : (lookup disk s name (s.chain lang).requested).result = none)
      (missedToo : (lookup disk s name (s.chain lang).fallback).result = none) :
      Loaded disk s name lang
        ⟨.error (.notFound name (Language.orDefault lang s.defaultLang)), s,
          (lookup disk s name (s.chain lang).requested).events ++ fallbackEvents disk s name lang
            ++ [.notFound]⟩

theorem load_spec (disk : FileTree) (s : Store) (name lang : String) :
    Loaded disk s name lang (s.load disk name lang) := by
  unfold load checkName
  by_cases hname : isName name
  · simp only [hname, if_true]
    cases hfirst : (lookup disk s name (s.chain lang).requested).result with
    | some body => exact .requested hname hfirst
    | none =>
      have hstate := lookup_state_of_none hfirst
      simp only [hstate]
      by_cases hempty : (s.chain lang).fallback.isEmpty
      · have hnil : (s.chain lang).fallback = [] := List.isEmpty_iff.mp hempty
        have hevents : fallbackEvents disk s name lang = [] := by
          simp only [fallbackEvents, hempty, if_true]
        have hnowhere := Loaded.nowhere hname hfirst (lookup_eq_none.mpr (by simp [hnil]))
        simp only [hevents, List.append_nil] at hnowhere
        simpa only [hempty, if_true] using hnowhere
      · have hevents : fallbackEvents disk s name lang
            = .fellBack name (Language.orDefault lang s.defaultLang) s.defaultLang ::
              (lookup disk s name (s.chain lang).fallback).events := by
          simp only [fallbackEvents, hempty, Bool.false_eq_true, if_false]
        simp only [hempty, Bool.false_eq_true, if_false]
        cases hsecond : (lookup disk s name (s.chain lang).fallback).result with
        | some body =>
          have hback := Loaded.fellBack hname hfirst hsecond
          rwa [hevents] at hback
        | none =>
          have hnowhere := Loaded.nowhere hname hfirst hsecond
          rw [hevents] at hnowhere
          rwa [lookup_state_of_none hsecond]
  · have hbad : isName name = false := by simpa using hname
    simp only [hbad, Bool.false_eq_true, if_false]
    exact .refused hbad

/-- A load that the requested directories can serve. -/
theorem load_of_requested {disk : FileTree} {s : Store} {name lang body : String}
    (good : isName name = true)
    (found : (lookup disk s name (s.chain lang).requested).result = some body) :
    (s.load disk name lang).result = .ok body ∧
      (s.load disk name lang).state = (lookup disk s name (s.chain lang).requested).state := by
  have hspec := load_spec disk s name lang
  generalize s.load disk name lang = step at hspec ⊢
  cases hspec with
  | refused bad => rw [good] at bad; cases bad
  | requested _ found' =>
    rw [found] at found'
    obtain rfl := Option.some.inj found'
    dsimp only
    exact ⟨rfl, rfl⟩
  | fellBack _ missed => rw [found] at missed; cases missed
  | nowhere _ missed => rw [found] at missed; cases missed

/-- A load that only the directories of the default language can serve. -/
theorem load_of_fellBack {disk : FileTree} {s : Store} {name lang body : String}
    (good : isName name = true)
    (missed : (lookup disk s name (s.chain lang).requested).result = none)
    (found : (lookup disk s name (s.chain lang).fallback).result = some body) :
    (s.load disk name lang).result = .ok body ∧
      (s.load disk name lang).state = (lookup disk s name (s.chain lang).fallback).state := by
  have hspec := load_spec disk s name lang
  generalize s.load disk name lang = step at hspec ⊢
  cases hspec with
  | refused bad => rw [good] at bad; cases bad
  | requested _ found' => rw [missed] at found'; cases found'
  | fellBack _ _ found' =>
    rw [found] at found'
    obtain rfl := Option.some.inj found'
    dsimp only
    exact ⟨rfl, rfl⟩
  | nowhere _ _ missedToo => rw [found] at missedToo; cases missedToo

/-- A load of a template that is nowhere. -/
theorem load_of_nowhere {disk : FileTree} {s : Store} {name lang : String}
    (good : isName name = true)
    (missed : (lookup disk s name (s.chain lang).requested).result = none)
    (missedToo : (lookup disk s name (s.chain lang).fallback).result = none) :
    (s.load disk name lang).result
      = .error (.notFound name (Language.orDefault lang s.defaultLang)) := by
  have hspec := load_spec disk s name lang
  generalize s.load disk name lang = step at hspec ⊢
  cases hspec with
  | refused bad => rw [good] at bad; cases bad
  | requested _ found => rw [missed] at found; cases found
  | fellBack _ _ found => rw [missedToo] at found; cases found
  | nowhere => rfl

/-- A text that names no template is refused before anything is looked at. -/
theorem load_of_refused {disk : FileTree} {s : Store} {name lang : String}
    (bad : isName name = false) :
    s.load disk name lang = ⟨.error (.invalidName name), s, []⟩ := by
  unfold load checkName
  rw [bad]
  rfl

/-- A load that gives a body was asked for a name. -/
theorem isName_of_load {disk : FileTree} {s : Store} {name lang body : String}
    (h : (s.load disk name lang).result = .ok body) : isName name = true := by
  by_contra hbad
  rw [load_of_refused (by simpa using hbad)] at h
  cases h

/-! ## §4. What a load leaves behind -/

section keep

variable (s : Store) (key : Key) (body : String)

@[simp] theorem keep_root : (s.keep key body).root = s.root := by
  unfold keep; split <;> rfl

@[simp] theorem keep_defaultLang : (s.keep key body).defaultLang = s.defaultLang := by
  unfold keep; split <;> rfl

@[simp] theorem keep_memory : (s.keep key body).memory = s.memory := by
  unfold keep; split <;> rfl

@[simp] theorem keep_chain (lang : String) : (s.keep key body).chain lang = s.chain lang := by
  simp only [chain, keep_defaultLang]

@[simp] theorem keep_path (d name : String) : (s.keep key body).path d name = s.path d name := by
  simp only [path, directoryPath, keep_root]

@[simp] theorem keep_fileText? (disk : FileTree) (name d : String) :
    (s.keep key body).fileText? disk name d = s.fileText? disk name d := by
  simp only [fileText?, keep_path]

end keep

/-- Keeping a body under a free key makes one entry and changes nothing else. -/
theorem keep_of_free {s : Store} {key : Key} (free : s.cache.get? key = none) (body : String) :
    s.keep key body = { s with cache := s.cache.insert key body } := by
  have hfree : s.cache.contains key = false := by simp [Table.contains, free]
  unfold keep
  rw [hfree]
  rfl

/-- Keeping a body under a key that holds none. -/
theorem get?_keep {s : Store} {key : Key} (h : s.cache.get? key = none) (body : String)
    (k : Key) :
    (s.keep key body).cache.get? k = if k = key then some body else s.cache.get? k := by
  rw [keep_of_free h, Table.get?_insert]

/-- A body that is kept under one of the directories is the only one that is cached there. -/
theorem firstIn_keep {s : Store} {name : String} {ds : List String} {d : String} (body : String)
    (hd : d ∈ ds) (hc : firstIn s.cache name ds = none) :
    firstIn (s.keep ⟨d, name⟩ body).cache name ds = some (d, body) := by
  have hnone : ∀ x ∈ ds, s.cache.get? ⟨x, name⟩ = none := firstText_eq_none.mp hc
  refine firstText_of_single hd ?_ ?_
  · simp only [get?_keep (hnone d hd), if_true]
  · intro x hx hxd
    simp only [get?_keep (hnone d hd), Key.mk.injEq, hxd, false_and, if_false, hnone x hx]


/-- A body that is kept under another directory is not found under these. -/
theorem firstIn_keep_other {s : Store} {name : String} {ds : List String} {d : String}
    (body : String) (hd : d ∉ ds) (hfree : s.cache.get? ⟨d, name⟩ = none)
    (hc : firstIn s.cache name ds = none) :
    firstIn (s.keep ⟨d, name⟩ body).cache name ds = none := by
  rw [firstIn_eq, firstText_eq_none] at hc ⊢
  intro x hx
  have hne : x ≠ d := by
    rintro rfl
    exact hd hx
  rw [get?_keep hfree]
  simp only [Key.mk.injEq, hne, false_and, if_false, hc x hx]

/-- A search keeps one readable file of an uncached key, or leaves the store alone. -/
theorem lookup_state (disk : FileTree) (s : Store) (name : String) (ds : List String) :
    (lookup disk s name ds).state = s ∨
      ∃ d body, d ∈ ds ∧ (lookup disk s name ds).result = some body ∧
        s.cache.get? ⟨d, name⟩ = none ∧ s.fileText? disk name d = some body ∧
        (lookup disk s name ds).state = s.keep ⟨d, name⟩ body := by
  have hspec := lookup_spec disk s name ds
  generalize lookup disk s name ds = step at hspec ⊢
  cases hspec with
  | registered => exact Or.inl rfl
  | cached => exact Or.inl rfl
  | @read d body hm hc hf =>
    obtain ⟨hd, hbody⟩ := firstText_eq_some hf
    exact Or.inr ⟨d, body, hd, rfl, firstText_eq_none.mp hc d hd, hbody, rfl⟩
  | missed => exact Or.inl rfl

/-- A search leaves the directories of every language as they are. -/
theorem lookup_chain (disk : FileTree) (s : Store) (name : String) (ds : List String)
    (lang : String) : (lookup disk s name ds).state.chain lang = s.chain lang := by
  rcases lookup_state disk s name ds with h | ⟨d, body, -, -, -, -, h⟩
  · rw [h]
  · rw [h, keep_chain]

/-- A search leaves the texts of files as they are. -/
theorem lookup_fileText? (disk disk' : FileTree) (s : Store) (name : String) (ds : List String) :
    (lookup disk s name ds).state.fileText? disk' name = s.fileText? disk' name := by
  funext d
  rcases lookup_state disk s name ds with h | ⟨e, body, -, -, -, -, h⟩
  · rw [h]
  · rw [h, keep_fileText?]

/-- **A load keeps one readable file of an uncached key, or leaves the store alone.** -/
theorem load_state (disk : FileTree) (s : Store) (name lang : String) :
    (s.load disk name lang).state = s ∨
      ∃ d body, d ∈ (s.chain lang).all ∧ (s.load disk name lang).result = .ok body ∧
        s.cache.get? ⟨d, name⟩ = none ∧ s.fileText? disk name d = some body ∧
        (s.load disk name lang).state = s.keep ⟨d, name⟩ body := by
  have hspec := load_spec disk s name lang
  generalize s.load disk name lang = step at hspec ⊢
  cases hspec with
  | refused => exact Or.inl rfl
  | requested _ found =>
    dsimp only
    rcases lookup_state disk s name (s.chain lang).requested with h | ⟨d, body, hd, hr, hrest⟩
    · exact Or.inl h
    · rw [found] at hr
      obtain rfl := Option.some.inj hr
      exact Or.inr ⟨d, _, Language.mem_all.mpr (Or.inl hd), rfl, hrest⟩
  | fellBack _ _ found =>
    dsimp only
    rcases lookup_state disk s name (s.chain lang).fallback with h | ⟨d, body, hd, hr, hrest⟩
    · exact Or.inl h
    · rw [found] at hr
      obtain rfl := Option.some.inj hr
      exact Or.inr ⟨d, _, Language.mem_all.mpr (Or.inr hd), rfl, hrest⟩
  | nowhere => exact Or.inl rfl

/-- A load that gives no body leaves the store as it is. -/
theorem load_state_of_error {disk : FileTree} {s : Store} {name lang : String} {fault : Fault}
    (h : (s.load disk name lang).result = .error fault) : (s.load disk name lang).state = s := by
  rcases load_state disk s name lang with hstate | ⟨d, body, -, hresult, -⟩
  · exact hstate
  · rw [h] at hresult
    cases hresult

/-! ## §5. Loading twice -/

/-- A body that was kept under one of the directories is served from the cache. -/
theorem lookup_keep (disk : FileTree) {s : Store} {name : String} {ds : List String}
    {d : String} (body : String) (hd : d ∈ ds) (hm : firstIn s.memory name ds = none)
    (hc : firstIn s.cache name ds = none) :
    (lookup disk (s.keep ⟨d, name⟩ body) name ds).result = some body ∧
      (lookup disk (s.keep ⟨d, name⟩ body) name ds).state = s.keep ⟨d, name⟩ body := by
  have hmiss : firstIn (s.keep ⟨d, name⟩ body).memory name ds = none := by
    rw [keep_memory]; exact hm
  rw [lookup_of_cached hmiss (firstIn_keep body hd hc)]
  exact ⟨rfl, rfl⟩

/-- A body that was kept under another directory does not turn up. -/
theorem lookup_keep_other {disk : FileTree} {s : Store} {name : String} {ds : List String}
    {d : String} (body : String) (hd : d ∉ ds) (hfree : s.cache.get? ⟨d, name⟩ = none)
    (missed : (lookup disk s name ds).result = none) :
    (lookup disk (s.keep ⟨d, name⟩ body) name ds).result = none := by
  refine lookup_eq_none.mpr fun x hx => ?_
  obtain ⟨hm, hc, hf⟩ := lookup_eq_none.mp missed x hx
  have hxd : x ≠ d := by
    rintro rfl
    exact hd hx
  rw [keep_memory, keep_fileText?, get?_keep hfree]
  refine ⟨hm, ?_, hf⟩
  simp only [Key.mk.injEq, hxd, false_and, if_false, hc]

/-- A load after a body was kept under one of the requested directories. -/
theorem load_keep_requested (disk : FileTree) {s : Store} {name lang d : String} (body : String)
    (good : isName name = true) (hd : d ∈ (s.chain lang).requested)
    (hm : firstIn s.memory name (s.chain lang).requested = none)
    (hc : firstIn s.cache name (s.chain lang).requested = none) :
    ((s.keep ⟨d, name⟩ body).load disk name lang).result = .ok body ∧
      ((s.keep ⟨d, name⟩ body).load disk name lang).state = s.keep ⟨d, name⟩ body := by
  obtain ⟨hr, hs⟩ := lookup_keep disk body hd hm hc
  rw [← keep_chain s ⟨d, name⟩ body lang] at hr hs
  obtain ⟨hr', hs'⟩ := load_of_requested good hr
  exact ⟨hr', hs'.trans hs⟩

/-- A load after a body was kept under a directory that only the default language adds. -/
theorem load_keep_fallback {disk : FileTree} {s : Store} {name lang d : String} (body : String)
    (good : isName name = true) (hd : d ∈ (s.chain lang).fallback)
    (missed : (lookup disk s name (s.chain lang).requested).result = none)
    (hm : firstIn s.memory name (s.chain lang).fallback = none)
    (hc : firstIn s.cache name (s.chain lang).fallback = none) :
    ((s.keep ⟨d, name⟩ body).load disk name lang).result = .ok body ∧
      ((s.keep ⟨d, name⟩ body).load disk name lang).state = s.keep ⟨d, name⟩ body := by
  obtain ⟨hr, hs⟩ := lookup_keep disk body hd hm hc
  -- the kept key belongs to a directory that the requested language does not have
  have hmiss := lookup_keep_other body (not_requested_of_fallback hd)
    (firstText_eq_none.mp hc d hd) missed
  rw [← keep_chain s ⟨d, name⟩ body lang] at hr hs hmiss
  obtain ⟨hr', hs'⟩ := load_of_fellBack good hmiss hr
  exact ⟨hr', hs'.trans hs⟩

/-- **Loading twice changes nothing**: the second load gives the same result and leaves the store
as the first one left it. -/
theorem load_load (disk : FileTree) (s : Store) (name lang : String) :
    ((s.load disk name lang).state.load disk name lang).result
        = (s.load disk name lang).result ∧
      ((s.load disk name lang).state.load disk name lang).state
        = (s.load disk name lang).state := by
  by_cases hself : (s.load disk name lang).state = s
  · rw [hself]
    exact ⟨rfl, hself⟩
  have hspec := load_spec disk s name lang
  generalize s.load disk name lang = step at hspec hself ⊢
  cases hspec with
  | refused => exact absurd rfl hself
  | nowhere => exact absurd rfl hself
  | requested good found =>
    dsimp only at hself ⊢
    have hlook := lookup_spec disk s name (s.chain lang).requested
    generalize lookup disk s name (s.chain lang).requested = first at hlook found hself ⊢
    cases hlook with
    | registered => exact absurd rfl hself
    | cached => exact absurd rfl hself
    | missed => exact absurd rfl hself
    | read hm hc hf =>
      obtain rfl := Option.some.inj found
      obtain ⟨hd, -⟩ := firstText_eq_some hf
      exact load_keep_requested disk _ good hd hm hc
  | fellBack good missed found =>
    dsimp only at hself ⊢
    have hlook := lookup_spec disk s name (s.chain lang).fallback
    generalize lookup disk s name (s.chain lang).fallback = second at hlook found hself ⊢
    cases hlook with
    | registered => exact absurd rfl hself
    | cached => exact absurd rfl hself
    | missed => exact absurd rfl hself
    | read hm hc hf =>
      obtain rfl := Option.some.inj found
      obtain ⟨hd, -⟩ := firstText_eq_some hf
      exact load_keep_fallback _ good hd missed hm hc

end LocalizedMail.Template.Store
