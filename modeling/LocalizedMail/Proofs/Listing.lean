import LocalizedMail.Proofs.Availability
import LocalizedMail.Proofs.Confinement

/-!
# What is listed and what is described

A listing goes through directories and cuts the names of files; a description starts from the name
of a template and builds the paths of files.  Both know what is registered, and only the description
knows what is cached.

The two meet in one place.  A file name made of a template name and the extension is cut where it
was put together, and a file at the path of a template is an entry of the directory above it.  So a
listing holds exactly the names that are registered, or have a file, in a directory of the requested
language; those are described under such a directory, and a description can add to them only what it
takes from the cache.

Main results:
  * `mem_list`: the names in a listing, by registrations and files;
  * `namesGood_after`: whatever is done with a store, what is registered in it has a good name;
  * `list_iff_described`: the listing of a language against the descriptions for it.
-/

namespace LocalizedMail.Template

namespace Store

/-! ## §1. Names in order -/

theorem mem_sorted {name : String} {xs : List String} : name ∈ sorted xs ↔ name ∈ xs := by
  unfold sorted
  rw [List.mem_mergeSort, mem_distinct]

/-- **Sorted names ascend strictly**, whatever repetitions there were. -/
theorem pairwise_lt_sorted (xs : List String) : (sorted xs).Pairwise (· < ·) := by
  have hnodup : (sorted xs).Nodup :=
    (List.mergeSort_perm _ _).nodup_iff.mpr (nodup_distinct xs)
  refine (pairwise_le_sorted xs).imp₂ ?_ hnodup
  intro a b hle hne
  -- the order of texts is total, so what is neither above nor equal is below
  apply String.not_le.mp
  intro hge
  exact hne (String.le_antisymm hle hge)

/-- Names have one strictly ascending order. -/
theorem sorted_eq_of_pairwise {xs ys : List String} (h : SameNames xs ys)
    (ordered : ys.Pairwise (· < ·)) : sorted xs = ys := by
  have hnodup : ∀ {zs : List String}, zs.Pairwise (· < ·) → zs.Nodup := by
    intro zs hzs
    refine hzs.imp ?_
    intro a b hlt heq
    subst heq
    exact String.lt_irrefl a hlt
  have hperm : (sorted xs).Perm ys := by
    apply (List.perm_ext_iff_of_nodup (hnodup (pairwise_lt_sorted xs)) (hnodup ordered)).mpr
    intro n
    rw [mem_sorted]
    exact h n
  refine hperm.eq_of_pairwise ?_ (pairwise_lt_sorted xs) ordered
  intro a b _ _ hab hba
  exact absurd (String.lt_trans hab hba) (String.lt_irrefl a)

/-! ## §2. The names in a listing -/

/-- A body of a template is registered under one of the directories. -/
def IsRegistered (s : Store) (name : String) (directories : List String) : Prop :=
  ∃ d ∈ directories, (s.memory.get? ⟨d, name⟩).isSome

section listing

variable {disk : FileTree} {s : Store} {name lang : String} {ds names : List String}

/-- **The names on disk are those that have a file** in one of the directories. -/
theorem mem_namesOnDisk (hds : ∀ d ∈ ds, Language.isCanonical d = true)
    (listed : namesOnDisk disk s ds = .ok names) :
    name ∈ names ↔ isName name = true ∧ s.HasFile disk name ds := by
  induction ds generalizing names with
  | nil =>
    obtain rfl := Except.ok.inj listed
    simp [HasFile]
  | cons d ds ih =>
    have hd := hds d List.mem_cons_self
    have hrest : ∀ x ∈ ds, Language.isCanonical x = true :=
      fun x hx => hds x (List.mem_cons_of_mem d hx)
    have hsplit : s.HasFile disk name (d :: ds) ↔
        disk.isFile (s.path d name) = true ∨ s.HasFile disk name ds := by
      simp [HasFile]
    unfold namesOnDisk at listed
    cases hentries : disk.entries (s.directoryPath d) with
    | ok entries =>
      rw [hentries] at listed
      cases hnames : namesOnDisk disk s ds with
      | error fault =>
        rw [hnames] at listed
        cases listed
      | ok found =>
        rw [hnames] at listed
        obtain rfl := Except.ok.inj listed
        rw [List.mem_append, mem_templates hd hentries, ih hrest hnames, hsplit, ← and_or_left]
    | error fault =>
      rw [hentries] at listed
      cases fault with
      | notFound =>
        -- a file of the template would make the directory one that can be listed
        have hnone : isName name = true → ¬ disk.isFile (s.path d name) = true := by
          intro good hfile
          obtain ⟨entries, -, hfound, -⟩ := FileTree.exists_entry_of_isFile
            (s.isOpen_directoryPath hd) (isPart_of_isName good) hfile
          rw [hentries] at hfound
          cases hfound
        rw [ih hrest listed, hsplit]
        constructor
        · intro h
          exact ⟨h.1, Or.inr h.2⟩
        · intro h
          exact ⟨h.1, h.2.resolve_left (hnone h.1)⟩
      | _ => cases listed

theorem mem_namesInMemory : name ∈ s.namesInMemory ds ↔ s.IsRegistered name ds := by
  unfold namesInMemory IsRegistered
  simp only [List.mem_map, List.mem_filter, List.contains_iff_mem]
  constructor
  · rintro ⟨⟨d, n⟩, ⟨hkey, hd⟩, rfl⟩
    exact ⟨d, hd, Table.get?_isSome_iff.mpr hkey⟩
  · rintro ⟨d, hd, hbody⟩
    exact ⟨⟨d, name⟩, ⟨Table.get?_isSome_iff.mp hbody, hd⟩, rfl⟩

/-- **The names in a listing** are those that are registered, or have a file, in a directory of the
requested language. -/
theorem mem_list (listed : s.list disk lang = .ok names) :
    name ∈ names ↔
      (isName name = true ∧ s.HasFile disk name (s.chain lang).requested) ∨
        s.IsRegistered name (s.chain lang).requested := by
  unfold list at listed
  dsimp only at listed
  cases hnames : namesOnDisk disk s (s.chain lang).requested with
  | error fault =>
    rw [hnames] at listed
    cases listed
  | ok found =>
    rw [hnames] at listed
    obtain rfl := Except.ok.inj listed
    rw [mem_sorted, List.mem_append, mem_namesInMemory,
      mem_namesOnDisk (fun d hd => isCanonical_of_mem_requested hd) hnames]

end listing

/-! ## §3. Names of registrations -/

/-- What is registered has a good name. -/
def NamesGood (s : Store) : Prop := ∀ k ∈ s.memory.keys, isName k.name = true

theorem IsRegistered.isName {s : Store} (h : s.NamesGood) {name : String} {ds : List String}
    (registered : s.IsRegistered name ds) : isName name = true := by
  obtain ⟨d, -, hbody⟩ := registered
  exact h ⟨d, name⟩ (Table.get?_isSome_iff.mp hbody)

end Store

/-- An operation files bodies of good names only. -/
theorem Operation.isName_of_mem_bodies {op : Operation} {f : Filing} (h : f ∈ op.bodies) :
    isName f.name = true := by
  cases op with
  | register name body lang =>
    replace h : f ∈ if isName name then [(⟨name, body, lang⟩ : Filing)] else [] := h
    split at h
    next good =>
      obtain rfl := List.mem_singleton.mp h
      exact good
    next => cases h
  | _ => cases h

/-- The keys of a table into which texts are filed are old ones and those of the filings. -/
theorem mem_keys_fileAll {defaultLang : String} {t : Table Key String} {fs : List Filing} {k : Key}
    (h : k ∈ (fileAll defaultLang t fs).keys) :
    k ∈ t.keys ∨ ∃ f ∈ fs, f.key defaultLang = k := by
  induction fs generalizing t with
  | nil => exact Or.inl h
  | cons f fs ih =>
    rcases ih h with hkeys | ⟨g, hg, hkey⟩
    · rw [Table.keys_insert] at hkeys
      split at hkeys
      · exact Or.inl hkeys
      · rcases List.mem_append.mp hkeys with hold | hnew
        · exact Or.inl hold
        · exact Or.inr ⟨f, List.mem_cons_self, (List.mem_singleton.mp hnew).symm⟩
    · exact Or.inr ⟨g, List.mem_cons_of_mem f hg, hkey⟩

/-- **Whatever is done with a new store, what is registered in it has a good name.** -/
theorem Site.namesGood_after {start : Site} {root defaultLang : String}
    (new : start.engine.store = .create root defaultLang) (history : List Operation) :
    (start.after history).engine.store.NamesGood := by
  have hmemory := (start.refiled_after history).memory
  rw [new] at hmemory
  intro k hk
  rw [hmemory] at hk
  rcases mem_keys_fileAll hk with hold | ⟨f, hf, rfl⟩
  · cases hold
  · obtain ⟨op, -, hbodies⟩ := List.mem_flatMap.mp hf
    exact op.isName_of_mem_bodies hbodies

namespace Store

/-! ## §4. Descriptions under the requested language -/

/-- A description finds the template in a directory of the requested language. -/
def DescribedUnder (disk : FileTree) (s : Store) (name lang : String) : Prop :=
  ∃ i, s.info disk name lang = .ok i ∧ i.exists = true ∧
    i.lang ∈ Language.candidates (Language.orDefault lang s.defaultLang)

section described

variable {disk : FileTree} {s : Store} {name lang : String} {ds : List String}

/-- A place that is found is in one of the directories. -/
theorem lang_of_locate {place : Place} (h : s.locate disk name ds = some place) :
    Info.lang ⟨name, place⟩ ∈ ds := by
  unfold locate at h
  cases hm : firstIn s.memory name ds with
  | some hit =>
    rw [hm] at h
    obtain rfl := Option.some.inj h
    exact (firstText_eq_some hm).1
  | none =>
    rw [hm] at h
    cases hc : firstIn s.cache name ds with
    | some hit =>
      rw [hc] at h
      obtain rfl := Option.some.inj h
      exact (firstText_eq_some hc).1
    | none =>
      rw [hc] at h
      obtain ⟨d, hd, rfl⟩ := Option.map_eq_some_iff.mp h
      exact List.mem_of_find?_eq_some hd

/-- **A description names a directory of the requested language exactly where the search of these
directories finds a place**; the default language cannot add one of them. -/
theorem describedUnder_iff_locate (good : isName name = true) :
    s.DescribedUnder disk name lang ↔
      (s.locate disk name (s.chain lang).requested).isSome := by
  have hrequested : (s.chain lang).requested
      = Language.candidates (Language.orDefault lang s.defaultLang) :=
    Language.Chain.requested_of _ _
  unfold DescribedUnder
  rw [info_eq disk s lang good, ← hrequested]
  cases hfirst : s.locate disk name (s.chain lang).requested with
  | some place =>
    refine iff_of_true ⟨_, rfl, ?_⟩ rfl
    exact ⟨exists_of_locate hfirst, lang_of_locate hfirst⟩
  | none =>
    refine iff_of_false ?_ Bool.false_ne_true
    rintro ⟨i, hinfo, hexists, hlang⟩
    obtain rfl := Except.ok.inj hinfo
    cases hsecond : s.locate disk name (s.chain lang).fallback with
    | some place =>
      rw [hsecond] at hlang
      exact not_requested_of_fallback (lang_of_locate hsecond) hlang
    | none =>
      rw [hsecond] at hexists
      cases hexists

/-- A template that is registered or has a file in a directory of the requested language is
described under it. -/
theorem describedUnder_of_listed (good : isName name = true)
    (h : s.HasFile disk name (s.chain lang).requested ∨
      s.IsRegistered name (s.chain lang).requested) :
    s.DescribedUnder disk name lang := by
  rw [describedUnder_iff_locate good, locate_isSome_iff]
  rcases h with hfile | ⟨d, hd, hbody⟩
  · exact Or.inr hfile
  · exact Or.inl ⟨d, hd, Or.inl hbody⟩

/-- Without cached bodies, what is described under the requested language is registered or has a
file there. -/
theorem listed_of_describedUnder (good : isName name = true) (uncached : s.cache = .empty)
    (h : s.DescribedUnder disk name lang) :
    s.HasFile disk name (s.chain lang).requested ∨
      s.IsRegistered name (s.chain lang).requested := by
  rw [describedUnder_iff_locate good, locate_isSome_iff] at h
  rcases h with ⟨d, hd, hbody | hbody | htext⟩ | hfile
  · exact Or.inr ⟨d, hd, hbody⟩
  · rw [uncached] at hbody
    cases hbody
  · obtain ⟨text, htext⟩ := Option.isSome_iff_exists.mp htext
    exact Or.inl ⟨d, hd, FileTree.isFile_of_readText (fileText?_eq_some.mp htext)⟩
  · exact Or.inl hfile

end described

theorem cache_eq_empty {s : Store} (h : s.cachedCount = 0) : s.cache = .empty :=
  Table.ext (List.eq_nil_of_length_eq_zero h)

end Store

/-! ## §5. Side by side -/

/-- **A listing and the descriptions agree.**  Take a new store, whatever is done with it and
whatever becomes of its files, and a language whose directories can be listed then:

  * the names in the listing ascend strictly;
  * each of them is a good name, and it is described as existing in a directory of the requested
    language;
  * with an empty cache, every good name that is so described is in the listing. -/
theorem list_iff_described {start : Site} {root defaultLang : String}
    (new : start.engine.store = .create root defaultLang) (history : List Operation)
    (lang : String) {names : List String}
    (listed : (start.after history).engine.store.list (start.after history).disk lang
      = .ok names) :
    let disk := (start.after history).disk
    let s := (start.after history).engine.store
    names.Pairwise (· < ·) ∧
      (∀ name ∈ names, isName name = true ∧ s.DescribedUnder disk name lang) ∧
      (s.cachedCount = 0 → ∀ name, isName name = true → s.DescribedUnder disk name lang →
        name ∈ names) := by
  intro disk s
  have hgood : s.NamesGood := Site.namesGood_after new history
  refine ⟨?_, ?_, ?_⟩
  · -- the listing is sorted as its last step
    unfold Store.list at listed
    dsimp only at listed
    split at listed
    next found hfound =>
      obtain rfl := Except.ok.inj listed
      exact Store.pairwise_lt_sorted _
    next => cases listed
  · intro name hname
    rcases (Store.mem_list listed).mp hname with ⟨good, hfile⟩ | registered
    · exact ⟨good, Store.describedUnder_of_listed good (Or.inl hfile)⟩
    · have good := registered.isName hgood
      exact ⟨good, Store.describedUnder_of_listed good (Or.inr registered)⟩
  · intro hcount name good described
    have hlisted := Store.listed_of_describedUnder good (Store.cache_eq_empty hcount) described
    apply (Store.mem_list listed).mpr
    rcases hlisted with hfile | registered
    · exact Or.inl ⟨good, hfile⟩
    · exact Or.inr registered

/-- Files that look like templates, and some that are: a name with a dot, one greeting in two
directories, a name that is all extension, a directory, and a greeting in German. -/
def shelf : FileTree :=
  .directory [("templates", .directory [
    ("de", .directory [("hallo.xhtml", .file (.text "Hallo"))]),
    ("en", .directory [
      (".xhtml", .file (.text "?")),
      ("notes.txt", .file (.text "to do")),
      ("old.xhtml", .directory []),
      ("v1.2.xhtml", .file (.text "News")),
      ("welcome.xhtml", .file (.text "Hello"))]),
    ("en-US", .directory [("welcome.xhtml", .file (.text "Howdy"))])])]

/-- Asked for English, the shelf offers what is registered under English and the two templates that
are files there.  The German greeting is described, but under the default language, and so it is not
offered. -/
theorem list_iff_described_shelf :
    let history : List Operation :=
      [.register "goodbye" "Bye" "en", .register "danke" "Danke" "de"]
    let s := (Site.after ⟨shelf, plainEngine "de"⟩ history).engine.store
    s.list shelf "en_US" = .ok ["goodbye", "v1.2", "welcome"] ∧
      (∀ name ∈ ["goodbye", "v1.2", "welcome"], s.DescribedUnder shelf name "en_US") ∧
      (s.info shelf "hallo" "en_US").map (·.exists) = .ok true ∧
      ¬ s.DescribedUnder shelf "hallo" "en_US" := by
  have hsorted : Store.sorted ["welcome", "v1.2", "welcome", "goodbye"]
      = ["goodbye", "v1.2", "welcome"] := by
    apply Store.sorted_eq_of_pairwise
    · intro name
      simp [or_comm, or_left_comm]
    · decide +kernel
  intro history s
  have hdisk : Store.namesOnDisk shelf s (s.chain "en_US").requested
      = .ok ["welcome", "v1.2", "welcome"] := by decide +kernel
  have hmemory : s.namesInMemory (s.chain "en_US").requested = ["goodbye"] := by decide +kernel
  have listed : s.list shelf "en_US" = .ok ["goodbye", "v1.2", "welcome"] := by
    unfold Store.list
    dsimp only
    rw [hdisk, hmemory]
    exact congrArg Except.ok hsorted
  have new : (Site.mk shelf (plainEngine "de")).engine.store = .create "templates" "de" := rfl
  obtain ⟨-, hdescribed, hlisted⟩ := list_iff_described new history "en_US" listed
  refine ⟨listed, fun name hname => (hdescribed name hname).2, by decide +kernel, ?_⟩
  intro described
  exact absurd (hlisted rfl "hallo" (by decide) described) (by decide)

end LocalizedMail.Template
