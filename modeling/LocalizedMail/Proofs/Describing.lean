import LocalizedMail.Proofs.Registrations
import Mathlib.Data.List.Find

/-!
# What a description foretells

A store can say where a template is without reading it.  The description comes from a search of its
own: it goes through the same tiers as a load, but it looks for keys and files where the load looks
for bodies, and it stops at a file before anyone knows whether the file can be read.

Where the files of a template are texts, both searches come to the same place, in every state of the
store.  The description then tells which body the next load gives, what it adds to the cache, and
how the template will be described afterwards.

  * `locate_spec`: the two searches of one list of directories, side by side;
  * `info_foretells_load`: a description and the load that comes next.
-/

namespace LocalizedMail

/-- What can be read is a file. -/
theorem FileTree.isFile_of_readText {tree : FileTree} {path text : String}
    (h : tree.readText path = .ok text) : tree.isFile path = true := by
  unfold readText content at h
  unfold isFile
  cases hfind : tree.find path with
  | error fault => rw [hfind] at h; cases h
  | ok node =>
    cases node with
    | file c => rfl
    | directory es => rw [hfind] at h; cases h

namespace Template

namespace Store

/-! ## §1. Files that are texts -/

/-- The files that a template has in directories can all be read. -/
def Legible (disk : FileTree) (s : Store) (name : String) (directories : List String) : Prop :=
  ∀ d ∈ directories, disk.isFile (s.path d name) = true →
    (s.fileText? disk name d).isSome

instance (disk : FileTree) (s : Store) (name : String) (directories : List String) :
    Decidable (s.Legible disk name directories) :=
  inferInstanceAs (Decidable (∀ d ∈ directories, _ → _))

/-- The first text that is found comes from the first directory that has one. -/
theorem map_fst_firstText (text? : String → Option String) (ds : List String) :
    (firstText text? ds).map Prod.fst = ds.find? fun d => (text? d).isSome := by
  induction ds with
  | nil => rfl
  | cons d ds ih =>
    cases h : text? d with
    | some body => rw [firstText_cons_some ds h, List.find?_cons_of_pos (by rw [h]; rfl)]; rfl
    | none =>
      rw [firstText_cons_none ds h, ih, List.find?_cons_of_neg (by rw [h]; exact Bool.false_ne_true)]

section legible

variable {disk : FileTree} {s : Store} {name : String} {ds : List String}

theorem Legible.mono {es : List String} (h : s.Legible disk name es) (hsub : ∀ d ∈ ds, d ∈ es) :
    s.Legible disk name ds := fun d hd => h d (hsub d hd)

/-- Where files are texts, being a file and being readable are one thing. -/
theorem Legible.isFile_eq (h : s.Legible disk name ds) {d : String} (hd : d ∈ ds) :
    disk.isFile (s.path d name) = (s.fileText? disk name d).isSome := by
  refine Bool.eq_iff_iff.mpr ⟨h d hd, fun htext => ?_⟩
  obtain ⟨text, htext⟩ := Option.isSome_iff_exists.mp htext
  exact FileTree.isFile_of_readText (fileText?_eq_some.mp htext)

/-- Where files are texts, the first file is the first that can be read. -/
theorem Legible.find?_isFile (h : s.Legible disk name ds) :
    ds.find? (fun d => disk.isFile (s.path d name))
      = (firstText (s.fileText? disk name) ds).map Prod.fst := by
  rw [map_fst_firstText]
  exact List.find?_congr fun d hd => h.isFile_eq hd

end legible

/-! ## §2. Two searches side by side -/

/-- The ways in which the search for the place of a template and the search for its body end
together: the place, the body and the store afterwards. -/
inductive Described (disk : FileTree) (s : Store) (name : String) (ds : List String) :
    Option Place → Option String → Store → Prop
  /-- A body is registered. -/
  | registered {d body : String} (entry : s.memory.get? ⟨d, name⟩ = some body) :
      Described disk s name ds (some (.registered d)) (some body) s
  /-- A body is cached. -/
  | cached {d body : String} (entry : s.cache.get? ⟨d, name⟩ = some body) :
      Described disk s name ds (some (.onDisk d true (s.path d name))) (some body) s
  /-- Nothing is registered or cached, and there is a file. -/
  | read {d body : String} (candidate : d ∈ ds) (unregistered : firstIn s.memory name ds = none)
      (uncached : firstIn s.cache name ds = none)
      (content : disk.readText (s.path d name) = .ok body) :
      Described disk s name ds (some (.onDisk d false (s.path d name))) (some body)
        (s.keep ⟨d, name⟩ body)
  /-- There is nothing in any tier. -/
  | missed : Described disk s name ds none none s

section locate

variable {disk : FileTree} {s : Store} {name : String} {ds : List String}

/-- Where there is a place there is a body. -/
theorem Described.exists_body {place : Place} {result : Option String} {after : Store}
    (h : Described disk s name ds (some place) result after) : ∃ body, result = some body := by
  cases h with
  | registered => exact ⟨_, rfl⟩
  | cached => exact ⟨_, rfl⟩
  | read => exact ⟨_, rfl⟩

/-- Where there is no place there is no body. -/
theorem Described.result_eq_none {result : Option String} {after : Store}
    (h : Described disk s name ds none result after) : result = none := by
  cases h with
  | missed => rfl

/-- **The two searches of a list of directories come to the same place.** -/
theorem locate_spec (legible : s.Legible disk name ds) :
    Described disk s name ds (s.locate disk name ds) (lookup disk s name ds).result
      (lookup disk s name ds).state := by
  -- the cases are those of the search for a body; in each the other search takes the same turns
  have hspec := lookup_spec disk s name ds
  generalize lookup disk s name ds = step at hspec ⊢
  unfold locate
  cases hspec with
  | registered hm =>
    rw [hm]
    exact .registered (firstText_eq_some hm).2
  | cached hm hc =>
    rw [hm, hc]
    exact .cached (firstText_eq_some hc).2
  | read hm hc hf =>
    obtain ⟨hd, htext⟩ := firstText_eq_some hf
    rw [hm, hc, legible.find?_isFile, hf]
    exact .read hd hm hc (fileText?_eq_some.mp htext)
  | missed hm hc hf =>
    rw [hm, hc, legible.find?_isFile, hf]
    exact .missed

/-- A search for a place finds nothing exactly when no tier holds anything and there is no file. -/
theorem locate_eq_none :
    s.locate disk name ds = none ↔
      firstIn s.memory name ds = none ∧ firstIn s.cache name ds = none ∧
        ∀ d ∈ ds, disk.isFile (s.path d name) = false := by
  unfold locate
  cases firstIn s.memory name ds with
  | some hit => simp
  | none =>
    cases firstIn s.cache name ds with
    | some hit => simp
    | none => simp

/-- A body that was kept under one of the directories is described as cached. -/
theorem locate_keep (disk : FileTree) {d : String} (body : String) (hd : d ∈ ds)
    (hm : firstIn s.memory name ds = none) (hc : firstIn s.cache name ds = none) :
    (s.keep ⟨d, name⟩ body).locate disk name ds = some (.onDisk d true (s.path d name)) := by
  unfold locate
  rw [keep_memory, hm, firstIn_keep body hd hc]
  dsimp only
  rw [keep_path]

/-- A body that was kept under another directory is not described. -/
theorem locate_keep_other {d : String} (body : String) (hd : d ∉ ds)
    (hfree : s.cache.get? ⟨d, name⟩ = none) (missed : s.locate disk name ds = none) :
    (s.keep ⟨d, name⟩ body).locate disk name ds = none := by
  obtain ⟨hm, hc, hfile⟩ := locate_eq_none.mp missed
  refine locate_eq_none.mpr ⟨?_, ?_, ?_⟩
  · rw [keep_memory]
    exact hm
  · exact firstIn_keep_other body hd hfree hc
  · intro x hx
    rw [keep_path]
    exact hfile x hx

end locate

/-! ## §3. A description and the load that comes next -/

/-- What the place that a template is described by says about the load that comes next. -/
def Foretells (disk : FileTree) (s : Store) (name lang : String) (place : Place) : Prop :=
  let loaded := s.load disk name lang
  match place with
  | .registered d =>
    ∃ body, s.memory.get? ⟨d, name⟩ = some body ∧ loaded.result = .ok body ∧ loaded.state = s
  | .onDisk d true _ =>
    ∃ body, s.cache.get? ⟨d, name⟩ = some body ∧ loaded.result = .ok body ∧ loaded.state = s
  | .onDisk d false path =>
    ∃ body, disk.readText path = .ok body ∧ loaded.result = .ok body ∧
      s.cache.get? ⟨d, name⟩ = none ∧
      loaded.state = { s with cache := s.cache.insert ⟨d, name⟩ body } ∧
      loaded.state.info disk name lang = .ok ⟨name, .onDisk d true path⟩
  | .nowhere asked => loaded.result = .error (.notFound name asked) ∧ loaded.state = s

section foretells

variable {disk : FileTree} {s : Store} {name lang : String}

/-- The description of a template, from the places in the two lists of directories. -/
theorem info_eq (disk : FileTree) (s : Store) (lang : String) (good : isName name = true) :
    s.info disk name lang = .ok ⟨name, ((s.locate disk name (s.chain lang).requested).or
      (s.locate disk name (s.chain lang).fallback)).getD
        (.nowhere (Language.orDefault lang s.defaultLang))⟩ := by
  unfold info checkName
  rw [good]
  dsimp only [if_true]
  cases s.locate disk name (s.chain lang).requested with
  | some place => rfl
  | none =>
    cases s.locate disk name (s.chain lang).fallback with
    | some place => rfl
    | none => rfl

/-- A place in one of the two lists foretells the load that this list serves. -/
theorem Described.foretells {ds : List String} {place : Place} {body : String} {after : Store}
    (h : Described disk s name ds (some place) (some body) after)
    (hload : (s.load disk name lang).result = .ok body ∧ (s.load disk name lang).state = after)
    (hinfo : ∀ d body, d ∈ ds → firstIn s.memory name ds = none →
      firstIn s.cache name ds = none →
      (s.keep ⟨d, name⟩ body).info disk name lang
        = .ok ⟨name, .onDisk d true (s.path d name)⟩) :
    s.Foretells disk name lang place := by
  obtain ⟨hresult, hstate⟩ := hload
  cases h with
  | registered entry => exact ⟨body, entry, hresult, hstate⟩
  | cached entry => exact ⟨body, entry, hresult, hstate⟩
  | read hd hm hc content =>
    -- no directory of the list has an entry yet, so the one that is made is the first that is found
    have hfree := firstText_eq_none.mp hc _ hd
    refine ⟨body, content, hresult, hfree, ?_, ?_⟩
    · rw [hstate, keep_of_free hfree]
    · rw [hstate]
      exact hinfo _ body hd hm hc

/-- The description of a template whose body was kept under one of the requested directories. -/
theorem info_keep_requested (disk : FileTree) {d : String} (body : String)
    (good : isName name = true) (hd : d ∈ (s.chain lang).requested)
    (hm : firstIn s.memory name (s.chain lang).requested = none)
    (hc : firstIn s.cache name (s.chain lang).requested = none) :
    (s.keep ⟨d, name⟩ body).info disk name lang = .ok ⟨name, .onDisk d true (s.path d name)⟩ := by
  rw [info_eq _ _ _ good, keep_chain, locate_keep disk body hd hm hc]
  rfl

/-- The description of a template whose body was kept under a directory that only the default
language adds. -/
theorem info_keep_fallback {d : String} (body : String) (good : isName name = true)
    (missed : s.locate disk name (s.chain lang).requested = none)
    (hd : d ∈ (s.chain lang).fallback)
    (hm : firstIn s.memory name (s.chain lang).fallback = none)
    (hc : firstIn s.cache name (s.chain lang).fallback = none) :
    (s.keep ⟨d, name⟩ body).info disk name lang = .ok ⟨name, .onDisk d true (s.path d name)⟩ := by
  -- the kept key belongs to a directory that the requested language does not have
  have hmiss := locate_keep_other body (not_requested_of_fallback hd)
    (firstText_eq_none.mp hc d hd) missed
  rw [info_eq _ _ _ good, keep_chain, hmiss, locate_keep disk body hd hm hc]
  rfl

/-- A description of a template whose files are texts, and the load that comes next. -/
theorem info_foretells (good : isName name = true)
    (legible : s.Legible disk name (s.chain lang).all) :
    ∃ place, s.info disk name lang = .ok ⟨name, place⟩ ∧ s.Foretells disk name lang place := by
  have hfirst := locate_spec (legible.mono fun d hd => Language.mem_all.mpr (Or.inl hd))
  have hsecond := locate_spec (legible.mono fun d hd => Language.mem_all.mpr (Or.inr hd))
  rw [info_eq disk s lang good]
  refine ⟨_, rfl, ?_⟩
  cases hrequested : s.locate disk name (s.chain lang).requested with
  | some place =>
    rw [hrequested] at hfirst
    obtain ⟨body, hbody⟩ := hfirst.exists_body
    rw [hbody] at hfirst
    exact hfirst.foretells (load_of_requested good hbody) fun d body hd hm hc =>
      info_keep_requested disk body good hd hm hc
  | none =>
    -- no place among the requested directories means no body there, so the load falls back too
    rw [hrequested] at hfirst
    have missed := hfirst.result_eq_none
    cases hfallback : s.locate disk name (s.chain lang).fallback with
    | some place =>
      rw [hfallback] at hsecond
      obtain ⟨body, hbody⟩ := hsecond.exists_body
      rw [hbody] at hsecond
      exact hsecond.foretells (load_of_fellBack good missed hbody) fun d body hd hm hc =>
        info_keep_fallback body good hrequested hd hm hc
    | none =>
      rw [hfallback] at hsecond
      have hnowhere := load_of_nowhere good missed hsecond.result_eq_none
      exact ⟨hnowhere, load_state_of_error hnowhere⟩

end foretells

end Store

/-! ## §4. Engines -/

/-- **What a description foretells.**  The files that a template has in the directories of a
language are texts.  A description of it changes nothing, and the place that it names says what the
next load does:

  * a registered body is given, and nothing changes;
  * a cached body is given, and nothing changes;
  * the text of an uncached file is given, its entry and no other comes into the cache, and the
    template is described as before, but as cached;
  * a template that is nowhere is not found, under the name and the language of the description, and
    nothing changes. -/
theorem info_foretells_load {disk : FileTree} (e : Engine) {name lang : String}
    (good : isName name = true)
    (legible : e.store.Legible disk name (e.store.chain lang).all) :
    ((Query.info name lang).run disk e).state = e ∧
      ∃ place, e.store.info disk name lang = .ok ⟨name, place⟩ ∧
        e.store.Foretells disk name lang place :=
  ⟨rfl, Store.info_foretells good legible⟩

/-- The greeting for the United States is described as a file that is not cached; so the next load
reads it, and then it is described as cached. -/
theorem info_foretells_load_greetings :
    let e := plainEngine "en"
    let path := "templates/en-US/welcome.xhtml"
    e.store.info greetings "welcome" "en-US" = .ok ⟨"welcome", .onDisk "en-US" false path⟩ ∧
      (e.store.load greetings "welcome" "en-US").result = .ok "Howdy" ∧
      (e.store.load greetings "welcome" "en-US").state
        = { e.store with cache := e.store.cache.insert ⟨"en-US", "welcome"⟩ "Howdy" } ∧
      (e.store.load greetings "welcome" "en-US").state.info greetings "welcome" "en-US"
        = .ok ⟨"welcome", .onDisk "en-US" true path⟩ := by
  intro e path
  have legible : e.store.Legible greetings "welcome" (e.store.chain "en-US").all := by
    decide +kernel
  have hdescribed : e.store.info greetings "welcome" "en-US"
      = .ok ⟨"welcome", .onDisk "en-US" false path⟩ := by decide +kernel
  have htext : greetings.readText path = .ok "Howdy" := by decide +kernel
  obtain ⟨-, place, hinfo, hforetells⟩ := info_foretells_load e (by decide) legible
  obtain rfl : place = .onDisk "en-US" false path :=
    congrArg Store.Info.place (Except.ok.inj (hinfo.symm.trans hdescribed))
  obtain ⟨body, hbody, hresult, -, hstate, hagain⟩ := hforetells
  obtain rfl := Except.ok.inj (hbody.symm.trans htext)
  exact ⟨hdescribed, hresult, hstate, hagain⟩

end Template

end LocalizedMail
