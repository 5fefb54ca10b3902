import LocalizedMail.Proofs.Filing
import LocalizedMail.Proofs.History

/-!
# What becomes of a registration

Registered bodies and subject lines are tables, and this file says what every operation does to
them: it files a list of texts, most often none, and changes nothing else.  A whole run then files
the concatenation of those lists, so that the fate of one registration is a matter of the filings
that come after it, whatever is loaded, cleared or changed on disk in between.

Main results:
  * `Operation.refiled` and `Site.refiled_after`: what an operation and a run file;
  * `registration_stays`: a registration is served, under every spelling of its language, until the
    same name is registered under the same language again;
  * `register_malformed`: a text that is neither blank nor a tag registers under the default
    language exactly when the default language is spelled in canonical form; otherwise what is
    registered under it is never found.
-/

namespace LocalizedMail.Template

/-! ## §1. Filings -/

/-- A text that is filed for a name and a language. -/
structure Filing where
  name : String
  text : String
  lang : String
  deriving DecidableEq, Repr

/-- What a text is filed under. -/
def Filing.key (defaultLang : String) (f : Filing) : Key :=
  ⟨Language.filedUnder f.lang defaultLang, f.name⟩

/-- A table into which texts are filed one after the other. -/
def fileAll (defaultLang : String) (t : Table Key String) (filings : List Filing) :
    Table Key String :=
  filings.foldl (fun t f => t.insert (f.key defaultLang) f.text) t

theorem fileAll_append (defaultLang : String) (t : Table Key String) (fs gs : List Filing) :
    fileAll defaultLang t (fs ++ gs) = fileAll defaultLang (fileAll defaultLang t fs) gs :=
  List.foldl_append

/-- A key that no filing has keeps its text. -/
theorem get?_fileAll_of_forall_ne {defaultLang : String} {k : Key} {fs : List Filing}
    (h : ∀ f ∈ fs, f.key defaultLang ≠ k) (t : Table Key String) :
    (fileAll defaultLang t fs).get? k = t.get? k := by
  induction fs generalizing t with
  | nil => rfl
  | cons f fs ih =>
    have hrest := ih (fun g hg => h g (List.mem_cons_of_mem f hg))
      (t.insert (f.key defaultLang) f.text)
    have hne : k ≠ f.key defaultLang := fun heq => h f List.mem_cons_self heq.symm
    rw [Table.get?_insert, if_neg hne] at hrest
    exact hrest

/-- **Filings of other names and of other languages leave an entry as it is.** -/
theorem get?_fileAll_of_others {defaultLang name : String} {t : Language.Tag} {fs : List Filing}
    (hdefault : Language.isTag defaultLang) (ht : t.Canonical)
    (others : ∀ f ∈ fs, f.name = name → Language.languageOf f.lang defaultLang ≠ some t)
    (table : Table Key String) :
    (fileAll defaultLang table fs).get? ⟨t.directory, name⟩ = table.get? ⟨t.directory, name⟩ := by
  refine get?_fileAll_of_forall_ne (fun f hf hkey => ?_) table
  obtain ⟨hdir, hname⟩ := Key.mk.inj hkey
  exact others f hf hname (Language.languageOf_of_filedUnder ht hdefault hdir)

/-! ## §2. What documents of subject lines file -/

/-- The entries of a document that is taken over. -/
def accepted? (disk : FileTree) (path : String) : Option (Table String String) :=
  match Subjects.readDocument disk path with
  | .ok entries => if (Subjects.badName? entries.entries).isNone then some entries else none
  | .error _ => none

/-- The filings of the entries of a document. -/
def filingsOf (lang : String) (entries : Table String String) : List Filing :=
  entries.entries.map fun e => ⟨e.1, e.2, lang⟩

/-- The filings of the document at a path: none, unless it is taken over. -/
def documentFilings (disk : FileTree) (lang path : String) : List Filing :=
  (accepted? disk path).elim [] (filingsOf lang)

/-- The filings of the documents in listed directories, up to the first that is not taken over. -/
def listedFilings (disk : FileTree) (root : String) : List String → List Filing
  | [] => []
  | directory :: rest =>
    let path := FileTree.join (FileTree.join root directory) subjectsFile
    if disk.isFile path then
      match accepted? disk path with
      | some entries => filingsOf directory entries ++ listedFilings disk root rest
      | none => []
    else listedFilings disk root rest

namespace Subjects

/-- Subject lines to which texts are added one after the other. -/
def fileAll (s : Subjects) (filings : List Filing) : Subjects :=
  { s with lines := Template.fileAll s.defaultLang s.lines filings }

theorem fileAll_append (s : Subjects) (fs gs : List Filing) :
    s.fileAll (fs ++ gs) = (s.fileAll fs).fileAll gs := by
  unfold fileAll
  rw [Template.fileAll_append]

/-- Files all subject lines of a document under one language. -/
def putAll (s : Subjects) (lang : String) (entries : List (String × String)) : Subjects :=
  entries.foldl (fun s e => s.put e.1 e.2 lang) s

theorem putAll_eq (s : Subjects) (lang : String) (entries : List (String × String)) :
    s.putAll lang entries = s.fileAll (entries.map fun e => ⟨e.1, e.2, lang⟩) := by
  induction entries generalizing s with
  | nil => rfl
  | cons e entries ih => exact ih (s.put e.1 e.2 lang)

/-- **No line is refused whose name is good**, so lines with good names are all filed. -/
theorem registerEach_of_names {entries : List (String × String)}
    (good : ∀ e ∈ entries, isName e.1 = true) (s : Subjects) (lang : String) :
    s.registerEach lang entries = ⟨.ok (), s.putAll lang entries, []⟩ := by
  induction entries generalizing s with
  | nil => rfl
  | cons e entries ih =>
    obtain ⟨name, line⟩ := e
    have hname : isName name = true := good (name, line) List.mem_cons_self
    unfold registerEach register checkName
    simp only [hname, if_true]
    exact ih (fun e he => good e (List.mem_cons_of_mem _ he)) (s.put name line lang)

/-- The names of entries are good when none of them is found to be bad. -/
theorem badName?_eq_none {entries : List (String × String)} :
    badName? entries = none ↔ ∀ e ∈ entries, isName e.1 = true := by
  simp [badName?]

/-- **The second pass over a document does not fail**: once all names have been looked at, a document
is taken over as a whole. -/
theorem loadDocument_eq_putAll (disk : FileTree) (s : Subjects) (lang path : String)
    (pass : Pass) :
    s.loadDocument disk lang path pass
      = match readDocument disk path with
        | .error fault => ⟨.error fault, s, []⟩
        | .ok entries =>
          match badName? (pass.order entries.entries) with
          | some name => ⟨.error (.invalidName name), s, []⟩
          | none =>
            ⟨.ok entries.size, s.putAll lang (pass.order entries.entries),
              [.subjectsRead lang path entries.size]⟩ := by
  unfold loadDocument
  cases readDocument disk path with
  | error fault => rfl
  | ok entries =>
    dsimp only
    cases hbad : badName? (pass.order entries.entries) with
    | some name => rfl
    | none =>
      dsimp only
      rw [registerEach_of_names (badName?_eq_none.mp hbad)]

/-- Loading a document files its entries if the document is taken over, and nothing if it is not;
the result says which. -/
theorem loadDocument_eq (disk : FileTree) (s : Subjects) (lang path : String) :
    (s.loadDocument disk lang path).state = s.fileAll (documentFilings disk lang path) ∧
      (s.loadDocument disk lang path).result.toOption = (accepted? disk path).map Table.size := by
  rw [loadDocument_eq_putAll]
  unfold documentFilings accepted? Pass.asWritten
  cases readDocument disk path with
  | error fault => exact ⟨rfl, rfl⟩
  | ok entries =>
    dsimp only [id]
    cases badName? entries.entries with
    | some name => exact ⟨rfl, rfl⟩
    | none => exact ⟨s.putAll_eq lang entries.entries, rfl⟩

end Subjects

/-- Reading the documents of listed directories files what the documents say. -/
theorem Engine.readSubjectsOf_state (disk : FileTree) (root : String) (s : Subjects) (total : Nat)
    (directories : List String) :
    (Engine.readSubjectsOf disk root (fun _ => .asWritten) s total directories).state
      = s.fileAll (listedFilings disk root directories) := by
  induction directories generalizing s total with
  | nil => rfl
  | cons directory rest ih =>
    unfold Engine.readSubjectsOf listedFilings
    dsimp only
    generalize FileTree.join (FileTree.join root directory) subjectsFile = path
    by_cases hfile : disk.isFile path
    · simp only [hfile, if_true]
      obtain ⟨hstate, hresult⟩ := s.loadDocument_eq disk directory path
      unfold documentFilings at hstate
      -- whether the reading goes on is up to the result, which says what was taken over
      cases haccepted : accepted? disk path with
      | none =>
        rw [haccepted] at hstate hresult
        cases hload : (s.loadDocument disk directory path).result with
        | ok n => rw [hload] at hresult; cases hresult
        | error fault => exact hstate
      | some entries =>
        rw [haccepted] at hstate hresult
        cases hload : (s.loadDocument disk directory path).result with
        | error fault => rw [hload] at hresult; cases hresult
        | ok n =>
          dsimp only
          rw [ih, hstate, Subjects.fileAll_append]
          rfl
    · simp only [hfile, Bool.false_eq_true, if_false]
      exact ih s total

/-! ## §3. Operations and what they file -/

/-- An engine and the files that it reads. -/
structure Site where
  disk : FileTree
  engine : Engine

/-- Something that is done with an engine, or that happens to its files. -/
inductive Operation where
  /-- something is loaded, rendered, described, listed or cleared -/
  | query (q : Query)
  | register (name body lang : String)
  | registerSubject (name line lang : String)
  | loadSubjects (lang path : String)
  | readSubjectFiles
  /-- files are written, removed or made unreadable -/
  | change (disk : FileTree)

namespace Operation

/-- What an operation does to a site. -/
def run (site : Site) : Operation → Site
  | query q => { site with engine := (q.run site.disk site.engine).state }
  | register name body lang =>
    { site with engine := (site.engine.withStore (site.engine.store.register name body lang)).state }
  | registerSubject name line lang =>
    { site with engine := (site.engine.registerSubject name line lang).state }
  | loadSubjects lang path =>
    { site with
      engine := (site.engine.withSubjects
        (site.engine.subjects.loadDocument site.disk lang path)).state }
  | readSubjectFiles => { site with engine := (site.engine.readSubjectFiles site.disk).state }
  | change disk => { site with disk := disk }

/-- The bodies that an operation files. -/
def bodies : Operation → List Filing
  | register name body lang => if isName name then [⟨name, body, lang⟩] else []
  | _ => []

/-- The subject lines that an operation files; those of documents depend on the files. -/
def lines (site : Site) : Operation → List Filing
  | registerSubject name line lang => if isName name then [⟨name, line, lang⟩] else []
  | loadSubjects lang path => documentFilings site.disk lang path
  | readSubjectFiles =>
    match site.disk.entries site.engine.store.root with
    | .ok entries =>
      listedFilings site.disk site.engine.store.root (entries.map Prod.fst)
    | .error _ => []
  | _ => []

end Operation

namespace Site

/-- The site after some operations, oldest first. -/
def after (site : Site) (operations : List Operation) : Site :=
  operations.foldl Operation.run site

/-- The subject lines that a run of operations files. -/
def lines (site : Site) : List Operation → List Filing
  | [] => []
  | op :: rest => op.lines site ++ (op.run site).lines rest

end Site

/-- The second engine has the registrations of the first, and filings on top of them. -/
structure Refiled (e f : Engine) (bodies lines : List Filing) : Prop where
  defaultLang : f.store.defaultLang = e.store.defaultLang
  memory : f.store.memory = fileAll e.store.defaultLang e.store.memory bodies
  subjects : f.subjects = e.subjects.fileAll lines

theorem Refiled.trans {e f g : Engine} {bodies bodies' lines lines' : List Filing}
    (h : Refiled e f bodies lines) (h' : Refiled f g bodies' lines') :
    Refiled e g (bodies ++ bodies') (lines ++ lines') where
  defaultLang := h'.defaultLang.trans h.defaultLang
  memory := by rw [h'.memory, h.defaultLang, h.memory, fileAll_append]
  subjects := by rw [h'.subjects, h.subjects, Subjects.fileAll_append]

/-- **What an operation does to the registrations**: it files its bodies and its lines. -/
theorem Operation.refiled (site : Site) (op : Operation) :
    Refiled site.engine (op.run site).engine op.bodies (op.lines site) := by
  cases op with
  | query q =>
    obtain ⟨t, hqueried, hstate⟩ := q.run_state site.disk site.engine
    have hshelf := hqueried.sameShelf
    simp only [run, hstate]
    exact ⟨hshelf.defaultLang, hshelf.memory, rfl⟩
  | register name body lang =>
    show Refiled site.engine
      (site.engine.withStore (site.engine.store.register name body lang)).state
      (if isName name then [⟨name, body, lang⟩] else []) []
    unfold Store.register checkName
    by_cases hname : isName name
    · simp only [hname, if_true]
      exact ⟨rfl, rfl, rfl⟩
    · simp only [hname, Bool.false_eq_true, if_false]
      exact ⟨rfl, rfl, rfl⟩
  | registerSubject name line lang =>
    show Refiled site.engine (site.engine.registerSubject name line lang).state []
      (if isName name then [⟨name, line, lang⟩] else [])
    unfold Engine.registerSubject Subjects.register checkName
    by_cases hname : isName name
    · simp only [hname, if_true]
      exact ⟨rfl, rfl, rfl⟩
    · simp only [hname, Bool.false_eq_true, if_false]
      exact ⟨rfl, rfl, rfl⟩
  | loadSubjects lang path =>
    exact ⟨rfl, rfl, (site.engine.subjects.loadDocument_eq site.disk lang path).1⟩
  | readSubjectFiles =>
    simp only [run, bodies, lines, Engine.readSubjectFiles]
    split
    next hentries => exact ⟨rfl, rfl, by rw [hentries]; rfl⟩
    next hentries => exact ⟨rfl, rfl, by rw [hentries]; rfl⟩
    next entries hentries =>
      refine ⟨rfl, rfl, ?_⟩
      rw [hentries]
      exact Engine.readSubjectsOf_state ..
  | change disk => exact ⟨rfl, rfl, rfl⟩

/-- **What a run does to the registrations.** -/
theorem Site.refiled_after (site : Site) (operations : List Operation) :
    Refiled site.engine (site.after operations).engine (operations.flatMap Operation.bodies)
      (site.lines operations) := by
  induction operations generalizing site with
  | nil => exact ⟨rfl, rfl, rfl⟩
  | cons op rest ih => exact (op.refiled site).trans (ih (op.run site))

/-! ## §4. The default language of an engine -/

/-- Bodies and subject lines of an engine have one default language, and it is a tag. -/
structure Engine.FallsBackTo (e : Engine) (defaultLang : String) : Prop where
  tag : Language.isTag defaultLang
  store : e.store.defaultLang = defaultLang
  subjects : e.subjects.defaultLang = defaultLang

/-- An engine that was created has the default language of its configuration. -/
theorem Engine.fallsBackTo_of_create {config : Settings.Templates} {year : String} {e : Engine}
    (created : Engine.create config year = .ok e) : e.FallsBackTo config.defaultLang := by
  unfold Engine.create at created
  split at created
  next => cases created
  next hnone =>
    obtain rfl := Except.ok.inj created
    refine ⟨?_, rfl, rfl⟩
    cases htag : Language.isTag config.defaultLang with
    | true => rfl
    | false =>
      rw [configFault?, htag] at hnone
      cases hnone

/-- No operation changes the default language. -/
theorem Engine.FallsBackTo.after {site : Site} {defaultLang : String}
    (h : site.engine.FallsBackTo defaultLang) (operations : List Operation) :
    (site.after operations).engine.FallsBackTo defaultLang where
  tag := h.tag
  store := (site.refiled_after operations).defaultLang.trans h.store
  subjects := by
    rw [(site.refiled_after operations).subjects]
    exact h.subjects

/-- Whatever happens to an engine, it has the default language of its configuration. -/
theorem Site.fallsBackTo_of_create {config : Settings.Templates} {year : String} {e : Engine}
    (created : Engine.create config year = .ok e) (disk : FileTree) (operations : List Operation) :
    (Site.after ⟨disk, e⟩ operations).engine.FallsBackTo config.defaultLang :=
  Engine.FallsBackTo.after (Engine.fallsBackTo_of_create created) operations

/-! ## §5. Registrations stay -/

section stay

variable {site : Site} {defaultLang name text lang : String} {t : Language.Tag}

/-- A registered body is served after every run that files no other for its name and language. -/
theorem Site.load_after_of_entry (hdefault : site.engine.FallsBackTo defaultLang)
    (ht : t.Canonical) (good : isName name = true)
    (entry : site.engine.store.memory.get? ⟨t.directory, name⟩ = some text)
    (later : List Operation)
    (others : ∀ f ∈ later.flatMap Operation.bodies, f.name = name →
      Language.languageOf f.lang defaultLang ≠ some t)
    (hlang : Language.languageOf lang defaultLang = some t) :
    let now := site.after later
    (now.engine.store.load now.disk name lang).result = .ok text ∧
      (now.engine.store.load now.disk name lang).state = now.engine.store := by
  intro now
  have hrefiled := site.refiled_after later
  refine Store.load_of_entry now.disk (t := t) good ?_ ?_
  · rw [(hdefault.after later).store]
    exact hlang
  · rw [hrefiled.memory, hdefault.store, get?_fileAll_of_others hdefault.tag ht others, entry]

/-- A registered line is resolved after every run that files no other for its name and
language. -/
theorem Site.resolve_after_of_entry (hdefault : site.engine.FallsBackTo defaultLang)
    (ht : t.Canonical) (entry : site.engine.subjects.lines.get? ⟨t.directory, name⟩ = some text)
    (later : List Operation)
    (others : ∀ f ∈ site.lines later, f.name = name →
      Language.languageOf f.lang defaultLang ≠ some t)
    (hlang : Language.languageOf lang defaultLang = some t) :
    (site.after later).engine.subjects.resolve name lang = text := by
  have hrefiled := site.refiled_after later
  refine Subjects.resolve_of_entry (t := t) ?_ ?_
  · rw [(hdefault.after later).subjects]
    exact hlang
  · rw [hrefiled.subjects]
    show (fileAll site.engine.subjects.defaultLang site.engine.subjects.lines _).get? _ = _
    rw [hdefault.subjects, get?_fileAll_of_others hdefault.tag ht others, entry]

/-- Registering a body makes an entry where the body is filed. -/
theorem Store.get?_register (s : Store) (text lang : String) (good : isName name = true) :
    (s.register name text lang).state.memory.get? ⟨Language.filedUnder lang s.defaultLang, name⟩
      = some text := by
  unfold Store.register checkName
  simp only [good, if_true]
  exact Table.get?_insert_self ..

/-- Registering a line makes an entry where the line is filed. -/
theorem Engine.get?_registerSubject (e : Engine) (text lang : String)
    (good : isName name = true) :
    (e.registerSubject name text lang).state.subjects.lines.get?
        ⟨Language.filedUnder lang e.subjects.defaultLang, name⟩ = some text := by
  unfold Engine.registerSubject Subjects.register Subjects.put checkName
  simp only [good, if_true]
  exact Table.get?_insert_self ..

/-- Only a text that names a template is registered. -/
theorem Store.isName_of_register {s : Store}
    (h : (s.register name text lang).result = .ok ()) : isName name = true := by
  by_contra hbad
  unfold Store.register checkName at h
  simp [hbad] at h

/-- Only a text that names a template has its line registered. -/
theorem Engine.isName_of_registerSubject {e : Engine}
    (h : (e.registerSubject name text lang).result = .ok ()) : isName name = true := by
  by_contra hbad
  unfold Engine.registerSubject Subjects.register checkName at h
  simp [hbad] at h

end stay

/-- **Registrations are never shadowed and never expire.**  After a registration under a blank text
or a tag, and after whatever is done or happens to files then, except that the same name is
registered under the same language: the text is what every spelling of the language gives, and a
load for it leaves the store, its cache included, as it is. -/
theorem registration_stays {config : Settings.Templates} {year : String} {e : Engine}
    (created : Engine.create config year = .ok e) (disk : FileTree)
    (earlier later : List Operation) (name text : String) {lang : String}
    (hlang : Language.WellFormed lang) :
    let site := Site.after ⟨disk, e⟩ earlier
    ((site.engine.store.register name text lang).result = .ok () →
      (∀ f ∈ later.flatMap Operation.bodies, f.name = name →
        ¬ Language.SameLanguage config.defaultLang f.lang lang) →
      ∀ spelling, Language.SameLanguage config.defaultLang spelling lang →
        let now := site.after (.register name text lang :: later)
        (now.engine.store.load now.disk name spelling).result = .ok text ∧
          (now.engine.store.load now.disk name spelling).state = now.engine.store) ∧
    ((site.engine.registerSubject name text lang).result = .ok () →
      (∀ f ∈ ((Operation.registerSubject name text lang).run site).lines later, f.name = name →
        ¬ Language.SameLanguage config.defaultLang f.lang lang) →
      ∀ spelling, Language.SameLanguage config.defaultLang spelling lang →
        (site.after (.registerSubject name text lang :: later)).engine.subjects.resolve
          name spelling = text) := by
  intro site
  have hsite := Site.fallsBackTo_of_create created disk earlier
  obtain ⟨t, ht, htag⟩ := Language.exists_languageOf hsite.tag lang
  have hfiled := Language.filedUnder_of_wellFormed hlang htag
  unfold Language.SameLanguage
  rw [htag]
  -- both halves: the entry is made now, and no filing that comes later has its key
  constructor
  · intro registered others spelling hspelling
    have good := Store.isName_of_register registered
    have hentry := site.engine.store.get?_register text lang good
    rw [hsite.store, hfiled] at hentry
    exact Site.load_after_of_entry (hsite.after [.register name text lang]) ht good hentry later
      others hspelling
  · intro registered others spelling hspelling
    have good := Engine.isName_of_registerSubject registered
    have hentry := site.engine.get?_registerSubject text lang good
    rw [hsite.subjects, hfiled] at hentry
    exact Site.resolve_after_of_entry (hsite.after [.registerSubject name text lang]) ht hentry
      later others hspelling

/-- An engine over `templates` with a default language and no choice besides. -/
def plainEngine (defaultLang : String) : Engine where
  store := .create "templates" defaultLang
  subjects := .create defaultLang
  defaults := (builtinDefaults "2025").merge .empty
  strict := false

theorem create_plainEngine {defaultLang : String} (h : Language.isTag defaultLang) :
    Engine.create { root := "templates", defaultLang } "2025" = .ok (plainEngine defaultLang) := by
  unfold Engine.create configFault?
  rw [h]
  rfl

/-- What may come after a registration: other registrations, and files that come and go. -/
def busyDay : List Operation := [
  .query .clearCache,
  .register "welcome" "Hi there" "en-US",
  .register "goodbye" "Bye" "en",
  .registerSubject "welcome" "Hi!" "en_us",
  .query (.load "welcome" "en-US"),
  .query (.clearTemplate "welcome" "en"),
  .readSubjectFiles,
  .change (.directory [])]

/-- A greeting that is registered over the files of two directories outlives a busy day. -/
theorem registration_stays_welcome :
    let site := Site.after ⟨greetings, plainEngine "EN"⟩ [.query (.load "welcome" "en-US")]
    let now := site.after (.register "welcome" "Good day" "" :: busyDay)
    (now.engine.store.load now.disk "welcome" " En ").result = .ok "Good day" ∧
      (now.engine.store.load now.disk "welcome" " En ").state = now.engine.store ∧
      (site.after (.registerSubject "welcome" "Good day!" "" :: busyDay)).engine.subjects.resolve
        "welcome" "eN" = "Good day!" := by
  have created := create_plainEngine (show Language.isTag "EN" by decide)
  have hblank : Language.WellFormed "" := by decide
  obtain ⟨hbody, -⟩ := registration_stays created greetings
    [.query (.load "welcome" "en-US")] busyDay "welcome" "Good day" hblank
  obtain ⟨-, hline⟩ := registration_stays created greetings
    [.query (.load "welcome" "en-US")] busyDay "welcome" "Good day!" hblank
  obtain ⟨hresult, hstate⟩ := hbody rfl (by decide +kernel) " En " (by decide +kernel)
  exact ⟨hresult, hstate, hline rfl (by decide +kernel) "eN" (by decide +kernel)⟩

/-! ## §6. Registrations under a text that is no language -/

section malformed

variable {name text lang : String}

/-- Two texts that are filed alike register alike. -/
theorem Store.register_congr {s : Store} {lang' : String}
    (h : Language.filedUnder lang s.defaultLang = Language.filedUnder lang' s.defaultLang) :
    s.register name text lang = s.register name text lang' := by
  unfold Store.register
  rw [h]

/-- Two texts that are filed alike register subject lines alike. -/
theorem Engine.registerSubject_congr {e : Engine} {lang' : String}
    (h : Language.filedUnder lang e.subjects.defaultLang
      = Language.filedUnder lang' e.subjects.defaultLang) :
    e.registerSubject name text lang = e.registerSubject name text lang' := by
  unfold Engine.registerSubject Subjects.register Subjects.put
  rw [h]

/-- A body that is filed under a directory not in canonical form is never found. -/
theorem Store.load_register_unreachable (disk : FileTree) {s : Store}
    (h : Language.isCanonical (Language.filedUnder lang s.defaultLang) = false)
    (other spelling : String) :
    ((s.register name text lang).state.load disk other spelling).result
      = (s.load disk other spelling).result := by
  unfold Store.register checkName
  generalize Language.filedUnder lang s.defaultLang = d at h ⊢
  by_cases good : isName name
  · simp only [good, if_true]
    exact s.load_insert_unreachable disk text other spelling h
  · simp only [good, Bool.false_eq_true, if_false]

/-- A line that is filed under a directory not in canonical form is never found. -/
theorem Engine.resolve_registerSubject_unreachable {e : Engine}
    (h : Language.isCanonical (Language.filedUnder lang e.subjects.defaultLang) = false)
    (other spelling : String) :
    (e.registerSubject name text lang).state.subjects.resolve other spelling
      = e.subjects.resolve other spelling := by
  unfold Engine.registerSubject Subjects.register Subjects.put checkName
  generalize Language.filedUnder lang e.subjects.defaultLang = d at h ⊢
  by_cases good : isName name
  · simp only [good, if_true]
    exact e.subjects.resolve_insert_unreachable text other spelling h
  · simp only [good, Bool.false_eq_true, if_false]

end malformed

/-- **What becomes of a registration under a text that is neither blank nor a tag.**  Where the
default language is spelled in canonical form, it is a registration under the default language and
is found as such.  Where it is spelled in another way, no load and no subject line ever shows it. -/
theorem register_malformed {config : Settings.Templates} {year : String} {e : Engine}
    (created : Engine.create config year = .ok e) (disk : FileTree) (history : List Operation)
    {lang : String} (malformed : ¬ Language.WellFormed lang) :
    let site := Site.after ⟨disk, e⟩ history
    (Language.isCanonical config.defaultLang = true → ∀ name text, isName name = true →
      site.engine.store.register name text lang = site.engine.store.register name text "" ∧
      site.engine.registerSubject name text lang = site.engine.registerSubject name text "" ∧
      ((site.engine.store.register name text lang).state.load site.disk name lang).result
        = .ok text ∧
      (site.engine.registerSubject name text lang).state.subjects.resolve name lang = text) ∧
    (Language.isCanonical config.defaultLang = false → ∀ name text other spelling,
      ((site.engine.store.register name text lang).state.load site.disk other spelling).result
        = (site.engine.store.load site.disk other spelling).result ∧
      (site.engine.registerSubject name text lang).state.subjects.resolve other spelling
        = site.engine.subjects.resolve other spelling) := by
  intro site
  have hsite := Site.fallsBackTo_of_create created disk history
  have hfiled := Language.filedUnder_of_malformed malformed config.defaultLang
  constructor
  · intro canonical name text good
    obtain ⟨t, ht, hdir⟩ := Language.exists_directory_of_isCanonical canonical
    have htag := Language.languageOf_of_malformed malformed config.defaultLang
    rw [ht] at htag
    -- the canonical form of the default language is its spelling, so both ways to file agree
    have hblank : Language.filedUnder "" config.defaultLang = config.defaultLang := by
      have hempty : Text.isAllBlank "" = true := rfl
      have hmeant := Language.languageOf_of_isAllBlank hempty config.defaultLang
      rw [Language.filedUnder_of_wellFormed (Or.inl hempty) (hmeant.trans ht), hdir]
    have hbody := site.engine.store.get?_register text lang good
    have hline := site.engine.get?_registerSubject text lang good
    rw [hsite.store, hfiled, ← hdir] at hbody
    rw [hsite.subjects, hfiled, ← hdir] at hline
    refine ⟨?_, ?_, ?_, ?_⟩
    · exact Store.register_congr (by rw [hsite.store, hfiled, hblank])
    · exact Engine.registerSubject_congr (by rw [hsite.subjects, hfiled, hblank])
    · exact (Site.load_after_of_entry (hsite.after [.register name text lang])
        (Language.Tag.canonical_of_spelled? ht) good hbody [] (by simp) htag).1
    · exact Site.resolve_after_of_entry (hsite.after [.registerSubject name text lang])
        (Language.Tag.canonical_of_spelled? ht) hline [] (by simp [Site.lines]) htag
  · intro foreign name text other spelling
    -- the directory is the spelling of the default language, which no lookup tries
    constructor
    · exact Store.load_register_unreachable site.disk (by rw [hsite.store, hfiled, foreign]) other
        spelling
    · exact Engine.resolve_registerSubject_unreachable
        (by rw [hsite.subjects, hfiled, foreign]) other spelling

/-- An engine that spells its default language `en` takes two question marks for it; one that spells
it `EN` goes on serving a file. -/
theorem register_malformed_question_marks :
    (((plainEngine "en").store.register "welcome" "Hi" "??").state.load greetings "welcome"
        "??").result = .ok "Hi" ∧
      (((plainEngine "EN").store.register "welcome" "Hi" "??").state.load greetings "welcome"
        "??").result = .ok "Hello" := by
  have hmalformed : ¬ Language.WellFormed "??" := by decide
  constructor
  · have created := create_plainEngine (show Language.isTag "en" by decide)
    obtain ⟨canonical, -⟩ := register_malformed created greetings [] hmalformed
    obtain ⟨-, -, hload, -⟩ := canonical (by decide +kernel) "welcome" "Hi" (by decide)
    exact hload
  · have created := create_plainEngine (show Language.isTag "EN" by decide)
    obtain ⟨-, foreign⟩ := register_malformed created greetings [] hmalformed
    obtain ⟨hload, -⟩ := foreign (by decide +kernel) "welcome" "Hi" "welcome" "??"
    have hfile : ((plainEngine "EN").store.load greetings "welcome" "??").result
        = .ok "Hello" := rfl
    exact hload.trans hfile

/-- **A registration is lost.**  An engine is accepted with `EN` as its default language, and what
is registered under two question marks goes to no directory of English. -/
theorem register_malformed_lost :
    Engine.create { root := "templates", defaultLang := "EN" } "2025" = .ok (plainEngine "EN") ∧
      ¬ Language.WellFormed "??" ∧
      (((plainEngine "EN").store.register "welcome" "Hi" "??").state.load (.directory []) "welcome"
        "??").result = .error (.notFound "welcome" "??") ∧
      (((plainEngine "EN").store.register "welcome" "Hi" "").state.load (.directory []) "welcome"
        "??").result = .ok "Hi" ∧
      ((plainEngine "EN").registerSubject "welcome" "Hi!" "??").state.subjects.resolve "welcome"
        "??" = "Welcome" ∧
      ((plainEngine "EN").registerSubject "welcome" "Hi!" "").state.subjects.resolve "welcome"
        "??" = "Hi!" := by
  refine ⟨create_plainEngine (by decide), by decide, ?_, ?_, ?_, ?_⟩
  · rfl
  · rfl
  · decide +kernel
  · decide +kernel

end LocalizedMail.Template
