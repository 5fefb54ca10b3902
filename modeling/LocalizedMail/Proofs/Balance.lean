import LocalizedMail.Proofs.Accounts
import LocalizedMail.Proofs.Bulk
import LocalizedMail.Proofs.Caching
import LocalizedMail.Proofs.Strictness

/-!
# The meters of lookups and substitutions

The counters of a process are moved deep inside the lookups of any number of engines, while the
caches of those engines grow and are cleared elsewhere.  What the counters mean is said here in
terms of what was *done*: which templates were loaded, which cached entries were cleared, which
texts had values put in.  None of that is read off the counters or off the events.

  * `Work`: what was done; `Metered`: events whose counters agree with it, and with the cache;
  * `Store.metered_load`: one load, whether it is served, falls back, fails or is refused;
  * `Query.metered`, `Operation.metered`, `Call.metered`: whatever is done with one engine;
  * `House.metered_after`: a run over all engines, by induction on the run;
  * `meters_balance`: the four laws for engines that start out new.
-/

namespace LocalizedMail

/-! ## §1. Work and what it is metered as -/

/-- Whether an event is counted as a lookup or as a substitution. -/
def Event.isMetered : Event → Bool
  | .served _ => true
  | .notFound => true
  | .rendered _ => true
  | _ => false

/-- Only metered events move counters that are not about mails. -/
theorem Counter.increase_of_not_isMetered {c : Counter} {e : Event} (hc : c.ofMails = false)
    (he : e.isMetered = false) : c.increase e = 0 := by
  unfold Counter.increase
  split
  -- the counters of mails are excluded, and so are the events that move the others
  case h_1 | h_2 | h_3 | h_4 | h_5 => cases hc
  case h_6 | h_7 | h_8 | h_9 => cases he
  case h_10 => rfl

/-- Events that are neither lookups nor substitutions. -/
def Unmetered (es : List Event) : Prop := ∀ e ∈ es, e.isMetered = false

namespace Unmetered

theorem nil : Unmetered [] := by
  intro e he
  cases he

theorem cons {e : Event} {es : List Event} (he : e.isMetered = false) (h : Unmetered es) :
    Unmetered (e :: es) :=
  List.forall_mem_cons.mpr ⟨he, h⟩

theorem append {es fs : List Event} (h : Unmetered es) (h' : Unmetered fs) :
    Unmetered (es ++ fs) :=
  List.forall_mem_append.mpr ⟨h, h'⟩

theorem count_eq_zero {es : List Event} (h : Unmetered es) {c : Counter}
    (hc : c.ofMails = false) : c.count es = 0 := by
  induction es with
  | nil => rfl
  | cons e es ih =>
    obtain ⟨he, hes⟩ := List.forall_mem_cons.mp h
    rw [Counter.count_cons, Counter.increase_of_not_isMetered hc he, ih hes]

end Unmetered

namespace Template

open Placeholder (Rendered Variables)

/-- What was done with engines, oldest first. -/
structure Work where
  /-- the templates and languages that a store was asked to load -/
  loads : List (String × String) := []
  /-- the keys of the cached entries that were cleared -/
  removed : List Key := []
  /-- the texts that had values put in, whatever became of them -/
  substituted : List Rendered := []

namespace Work

/-- One work after the other. -/
def andThen (w w' : Work) : Work :=
  ⟨w.loads ++ w'.loads, w.removed ++ w'.removed, w.substituted ++ w'.substituted⟩

/-- The number of loads of what may name a template. -/
def named (w : Work) : Nat := w.loads.countP fun load => isName load.1

/-- The number of values that were missing, over all substitutions. -/
def missing (w : Work) : Nat := (w.substituted.flatMap Rendered.missing).length

@[simp] theorem empty_andThen (w : Work) : Work.andThen {} w = w := rfl

@[simp] theorem andThen_empty (w : Work) : w.andThen {} = w := by
  simp only [andThen, List.append_nil]

/-- A load is counted if it is a load of a name. -/
theorem named_single (name lang : String) :
    Work.named { loads := [(name, lang)] } = (isName name).toNat := by
  unfold named
  rw [List.countP_singleton]
  cases isName name <;> rfl

theorem andThen_assoc (w w' w'' : Work) :
    (w.andThen w').andThen w'' = w.andThen (w'.andThen w'') := by
  simp only [andThen, List.append_assoc]

theorem named_andThen (w w' : Work) : (w.andThen w').named = w.named + w'.named :=
  List.countP_append

theorem missing_andThen (w w' : Work) : (w.andThen w').missing = w.missing + w'.missing := by
  simp only [missing, andThen, List.flatMap_append, List.length_append]

end Work

/-- The number of lookups by events: those that were served, and those that found nothing. -/
def lookups (es : List Event) : Nat :=
  (Counter.loads .memory).count es + (Counter.loads .cache).count es
    + (Counter.loads .disk).count es + Counter.notFound.count es

/-- Events that agree with what was done while the number of cached entries changed. -/
structure Metered (before after : Nat) (es : List Event) (w : Work) : Prop where
  looked : lookups es = w.named
  /-- What was read from disk is cached, or has been cleared since. -/
  cached : (Counter.loads .disk).count es + before = after + w.removed.length
  missing : Counter.missingValues.count es = w.missing
  rendered : Counter.renderings.count es = w.substituted.length

namespace Metered

variable {a b c : Nat} {es fs : List Event} {w w' : Work}

/-- **Meters add up.** -/
theorem append (h : Metered a b es w) (h' : Metered b c fs w') :
    Metered a c (es ++ fs) (w.andThen w') where
  looked := by
    have hfirst := h.looked
    have hsecond := h'.looked
    unfold lookups at hfirst hsecond ⊢
    simp only [Counter.count_append, Work.named_andThen]
    omega
  cached := by
    have hfirst := h.cached
    have hsecond := h'.cached
    simp only [Counter.count_append, Work.andThen, List.length_append]
    omega
  missing := by rw [Counter.count_append, h.missing, h'.missing, Work.missing_andThen]
  rendered := by
    rw [Counter.count_append, h.rendered, h'.rendered]
    exact List.length_append.symm

/-- Nothing else than the counters that are not about mails matters. -/
theorem congr (h : Metered a b es w)
    (same : ∀ c : Counter, c.ofMails = false → c.count fs = c.count es) : Metered a b fs w where
  looked := by
    rw [← h.looked]
    unfold lookups
    rw [same (.loads .memory) rfl, same (.loads .cache) rfl, same (.loads .disk) rfl,
      same .notFound rfl]
  cached := by rw [same _ rfl, h.cached]
  missing := by rw [same _ rfl, h.missing]
  rendered := by rw [same _ rfl, h.rendered]

/-- Doing nothing. -/
theorem nothing (n : Nat) : Metered n n [] {} := ⟨rfl, Nat.zero_add n, rfl, rfl⟩

theorem of_unmetered (h : Unmetered es) (n : Nat) : Metered n n es {} :=
  (nothing n).congr fun _ hc => h.count_eq_zero hc

theorem followed (h : Metered a b es w) (h' : Unmetered fs) : Metered a b (es ++ fs) w := by
  have hall := h.append (of_unmetered h' b)
  rwa [Work.andThen_empty] at hall

theorem preceded (h : Metered b c fs w) (h' : Metered a b es {}) : Metered a c (es ++ fs) w := by
  have hall := h'.append h
  rwa [Work.empty_andThen] at hall

/-- Entries that are cleared. -/
theorem cleared {removed : List Key} (h : Unmetered es) (hentries : a = b + removed.length) :
    Metered a b es { removed := removed } := by
  have hnone : ∀ c : Counter, c.ofMails = false → c.count es = c.count [] :=
    fun _ hc => h.count_eq_zero hc
  have hquiet : Metered a b [] { removed := removed } :=
    ⟨rfl, (Nat.zero_add a).trans hentries, rfl, rfl⟩
  exact hquiet.congr hnone

/-- A load of a name that a tier serves; only one that is served from disk adds an entry. -/
theorem served (tier : Tier) {name : String} (good : isName name = true) (lang : String)
    (hentry : (if tier = .disk then 1 else 0) + a = b) :
    Metered a b [.served tier] { loads := [(name, lang)] } where
  looked := by
    rw [Work.named_single, good]
    cases tier <;> rfl
  cached := by
    cases tier <;> exact hentry
  missing := by cases tier <;> rfl
  rendered := by cases tier <;> rfl

end Metered

/-! ## §2. Loads -/

namespace Store

/-- A new entry is one more. -/
theorem cachedCount_insert {s : Store} {key : Key} (free : s.cache.get? key = none)
    (body : String) : (s.cache.insert key body).size = s.cachedCount + 1 := by
  have habsent : key ∉ s.cache.keys := by
    intro hmem
    obtain ⟨entry, hentry, rfl⟩ := List.mem_map.mp hmem
    have hget : s.cache.get? entry.1 = some entry.2 := lookup_of_mem s.cache.nodup hentry
    rw [free] at hget
    cases hget
  unfold Table.size
  rw [Table.entries_insert_of_not_mem habsent, List.length_append]
  rfl

/-- A search of the files is metered as one read, if it finds a file. -/
theorem count_firstFile {c : Counter} (hc : c.ofMails = false) (disk : FileTree) (s : Store)
    (name : String) (ds : List String) :
    c.count (firstFile disk s name ds).2
      = (firstFile disk s name ds).1.elim 0 fun _ => c.increase (.served .disk) := by
  induction ds with
  | nil => rfl
  | cons d ds ih =>
    unfold firstFile
    dsimp only
    split
    next body hread =>
      have hreport : c.increase (.bodyRead name d (s.path d name)) = 0 :=
        Counter.increase_of_not_isMetered hc rfl
      rw [Counter.count_cons, Counter.count_cons, hreport]
      rfl
    next hread => exact ih
    next fault _ hread =>
      have hcomplaint : c.increase (.unreadable name (s.path d name) fault) = 0 :=
        Counter.increase_of_not_isMetered hc rfl
      rw [Counter.count_cons, hcomplaint, Nat.zero_add]
      exact ih

section lookup

variable {disk : FileTree} {s : Store} {name : String} {ds : List String}

/-- A search that finds a body is metered as one lookup. -/
theorem metered_lookup_of_some {body : String}
    (found : (lookup disk s name ds).result = some body) (good : isName name = true)
    (lang : String) :
    Metered s.cachedCount (lookup disk s name ds).state.cachedCount
      (lookup disk s name ds).events { loads := [(name, lang)] } := by
  have hspec := lookup_spec disk s name ds
  generalize lookup disk s name ds = step at hspec found ⊢
  cases hspec with
  | registered => exact .served .memory good lang (Nat.zero_add _)
  | cached => exact .served .cache good lang (Nat.zero_add _)
  | @read d text _ hc hf =>
    obtain ⟨hd, -⟩ := firstText_eq_some hf
    have hfree := firstText_eq_none.mp hc d hd
    refine (Metered.served .disk good lang ?_).congr fun c hc => ?_
    · rw [keep_of_free hfree, Nat.add_comm]
      exact (cachedCount_insert hfree text).symm
    · rw [count_firstFile hc, fst_firstFile, hf]
      rfl
  | missed => cases found

/-- A search that finds nothing is not metered. -/
theorem metered_lookup_of_none (missed : (lookup disk s name ds).result = none) :
    Metered s.cachedCount s.cachedCount (lookup disk s name ds).events {} := by
  have hspec := lookup_spec disk s name ds
  generalize lookup disk s name ds = step at hspec missed ⊢
  cases hspec with
  | registered => cases missed
  | cached => cases missed
  | read => cases missed
  | missed _ _ hf =>
    refine (Metered.nothing _).congr fun c hc => ?_
    rw [count_firstFile hc, fst_firstFile, hf]
    rfl

end lookup

/-- Falling back is metered as the search that follows it. -/
theorem count_fallbackEvents {c : Counter} (hc : c.ofMails = false) (disk : FileTree) (s : Store)
    (name lang : String) :
    c.count (fallbackEvents disk s name lang)
      = c.count (lookup disk s name (s.chain lang).fallback).events := by
  unfold fallbackEvents
  split
  next hempty =>
    rw [List.isEmpty_iff.mp hempty]
    rfl
  next =>
    rw [Counter.count_cons, Counter.increase_of_not_isMetered hc rfl, Nat.zero_add]

/-- **One load is metered as one lookup, if it is a load of a name**, whether it is served from one
of the tiers for the requested language, falls back, or comes to nothing. -/
theorem metered_load (disk : FileTree) (s : Store) (name lang : String) :
    Metered s.cachedCount (s.load disk name lang).state.cachedCount
      (s.load disk name lang).events { loads := [(name, lang)] } := by
  have hback : ∀ c : Counter, c.ofMails = false → c.count (fallbackEvents disk s name lang)
      = c.count (lookup disk s name (s.chain lang).fallback).events :=
    fun c hc => count_fallbackEvents hc disk s name lang
  -- a search that misses is not metered, so each way to end is metered by its last search
  have hspec := load_spec disk s name lang
  generalize s.load disk name lang = step at hspec ⊢
  cases hspec with
  | refused bad =>
    refine ⟨?_, Nat.zero_add _, rfl, rfl⟩
    rw [Work.named_single, bad]
    rfl
  | requested good found =>
    dsimp only
    exact metered_lookup_of_some found good lang
  | fellBack good missed found =>
    dsimp only
    have hsecond := (metered_lookup_of_some found good lang).congr hback
    exact hsecond.preceded (metered_lookup_of_none missed)
  | nowhere good missed missedToo =>
    have hsecond := (metered_lookup_of_none missedToo).congr hback
    have hsearched := hsecond.preceded (metered_lookup_of_none missed)
    have hlast : Metered s.cachedCount s.cachedCount [.notFound] { loads := [(name, lang)] } := by
      refine ⟨?_, Nat.zero_add _, rfl, rfl⟩
      rw [Work.named_single, good]
      rfl
    exact hlast.preceded hsearched

end Store

/-! ## §3. Clearing -/

/-- Whether a query drops what is cached under a key can be decided. -/
instance (s : Store) (key : Key) (q : Query) : Decidable (q.Clears s key) :=
  match q with
  | .clearCache => isTrue trivial
  | .clearTemplate name lang =>
    inferInstanceAs (Decidable (key.name = name ∧ key.directory ∈ (s.chain lang).all))
  | .load .. | .isAvailable .. | .renderReport .. | .renderText .. | .composeMail .. | .info ..
  | .list .. => isFalse id

/-- The keys of the cached entries that a query drops. -/
def Query.removed (s : Store) (q : Query) : List Key :=
  s.cache.keys.filter fun key => q.Clears s key

/-- Erasing keys one after the other leaves the entries of the other keys. -/
theorem entries_foldl_erase (name : String) (ds : List String) (t : Table Key String) :
    (ds.foldl (fun t d => t.erase ⟨d, name⟩) t).entries
      = t.entries.filter fun e => ¬ (e.1.name = name ∧ e.1.directory ∈ ds) := by
  induction ds generalizing t with
  | nil => simp
  | cons d ds ih =>
    rw [List.foldl_cons, ih]
    show List.filter _ (t.entries.filter _) = _
    rw [List.filter_filter]
    refine List.filter_congr fun e _ => ?_
    obtain ⟨⟨kd, kn⟩, body⟩ := e
    simp only [List.mem_cons, Key.mk.injEq, ne_eq]
    grind

/-- What is dropped of one template and what is left are what was cached. -/
theorem Store.cachedCount_clearTemplate (s : Store) (name lang : String) :
    s.cachedCount = (s.clearTemplate name lang).state.cachedCount
      + (Query.removed s (.clearTemplate name lang)).length := by
  have hleft : (s.clearTemplate name lang).state.cachedCount
      = (s.cache.entries.filter fun e =>
          ¬ (e.1.name = name ∧ e.1.directory ∈ (s.chain lang).all)).length := by
    rw [clearTemplate_state]
    exact congrArg List.length (entries_foldl_erase ..)
  have hremoved : (Query.removed s (.clearTemplate name lang)).length
      = (s.cache.entries.filter fun e =>
          e.1.name = name ∧ e.1.directory ∈ (s.chain lang).all).length := by
    unfold Query.removed Table.keys
    rw [List.filter_map, List.length_map]
    rfl
  rw [hleft, hremoved, Nat.add_comm]
  simp only [decide_not]
  exact List.length_eq_length_filter_add _

/-! ## §4. Queries -/

namespace Engine

/-- What is made of a body, once it is loaded. -/
def withBody (disk : FileTree) (e : Engine) (name lang : String) (f : String → List Rendered) :
    List Rendered :=
  match (e.store.load disk name lang).result with
  | .ok body => f body
  | .error _ => []

/-- The texts of a mail with the values put in: the body, and the subject line unless a strict
engine already refuses the body. -/
def fillInMail (e : Engine) (name lang : String) (values : Variables) (body : String) :
    List Rendered :=
  let html := e.fillIn body values
  if e.strict && !html.missing.isEmpty then [html]
  else [html, e.fillInSubject name lang values]

end Engine

namespace Query

/-- The texts in which a query puts values. -/
def substituted (disk : FileTree) (e : Engine) : Query → List Rendered
  | renderReport name lang values => e.withBody disk name lang fun body => [e.fillIn body values]
  | renderText name lang values => e.withBody disk name lang fun body => [e.fillIn body values]
  | composeMail name lang values => e.withBody disk name lang (e.fillInMail name lang values)
  | _ => []

/-- What a query does: the load that it makes, the entries that it clears, and its substitutions. -/
def work (disk : FileTree) (e : Engine) (q : Query) : Work where
  loads := q.loads?.toList
  removed := q.removed e.store
  substituted := q.substituted disk e

end Query

namespace Engine

variable (disk : FileTree) (e : Engine)

/-- One substitution, whether or not a strict engine refuses what comes of it. -/
theorem metered_substitute (text : String) (values : Variables) (n : Nat) :
    Metered n n (e.substitute text values).2 { substituted := [e.fillIn text values] } where
  looked := rfl
  cached := Nat.zero_add n
  missing := (congrArg List.length (List.append_nil (e.fillIn text values).missing)).symm
  rendered := rfl

/-- What comes of a substitution. -/
theorem substitute_fst (text : String) (values : Variables) :
    (e.substitute text values).1 =
      if e.strict && !(e.fillIn text values).missing.isEmpty
      then .error (.missingValues (e.fillIn text values).missing)
      else .ok (e.fillIn text values) := rfl

theorem unmetered_incompleteEvents (name lang : String) (missing : List String) :
    Unmetered (incompleteEvents name lang missing) := by
  unfold incompleteEvents
  split
  · exact Unmetered.nil
  · exact Unmetered.nil.cons rfl

section render

variable (name lang : String) (values : Variables)

theorem metered_renderReport :
    Metered e.store.cachedCount (e.renderReport disk name lang values).state.store.cachedCount
      (e.renderReport disk name lang values).events
      { loads := [(name, lang)]
        substituted := e.withBody disk name lang fun body => [e.fillIn body values] } := by
  have hload := e.store.metered_load disk name lang
  unfold withBody renderReport
  dsimp only
  cases (e.store.load disk name lang).result with
  | error fault => exact hload
  | ok body => exact hload.append (e.metered_substitute body values _)

theorem metered_renderText :
    Metered e.store.cachedCount (e.renderText disk name lang values).state.store.cachedCount
      (e.renderText disk name lang values).events
      { loads := [(name, lang)]
        substituted := e.withBody disk name lang fun body => [e.fillIn body values] } := by
  have hreport := e.metered_renderReport disk name lang values
  unfold renderText
  dsimp only
  cases (e.renderReport disk name lang values).result with
  | error fault => exact hreport
  | ok r => exact hreport.followed (unmetered_incompleteEvents name lang r.missing)

/-- A mail that a strict engine refuses for its body never comes to its subject line. -/
theorem metered_composeMail :
    Metered e.store.cachedCount (e.composeMail disk name lang values).state.store.cachedCount
      (e.composeMail disk name lang values).events
      { loads := [(name, lang)]
        substituted := e.withBody disk name lang (e.fillInMail name lang values) } := by
  have hload := e.store.metered_load disk name lang
  unfold composeMail renderReport withBody
  dsimp only
  generalize e.store.load disk name lang = loaded at hload ⊢
  cases loaded.result with
  | error fault => exact hload
  | ok body =>
    -- a text is counted as soon as it is filled in, and only then is it seen what is missing
    have hbody := hload.append (e.metered_substitute body values _)
    have hline := hbody.append
      (e.metered_substitute (e.subjects.resolve name lang) values loaded.state.cachedCount)
    unfold fillInMail
    dsimp only
    rw [substitute_fst]
    by_cases hrefused : (e.strict && !(e.fillIn body values).missing.isEmpty) = true
    · rw [if_pos hrefused, if_pos hrefused]
      exact hbody
    · rw [if_neg hrefused, if_neg hrefused]
      dsimp only
      split
      · exact hline
      · exact hline.followed (unmetered_incompleteEvents name lang _)

end render

end Engine

namespace Query

/-- What a query does that clears nothing. -/
theorem work_of_keeps {disk : FileTree} {e : Engine} {q : Query}
    (h : ∀ key, ¬ q.Clears e.store key) :
    q.work disk e = { loads := q.loads?.toList, substituted := q.substituted disk e } := by
  have hkept : q.removed e.store = [] := by
    unfold removed
    rw [List.filter_eq_nil_iff]
    intro key _ hclears
    exact h key (of_decide_eq_true hclears)
  unfold work
  rw [hkept]

/-- **Every query is metered**: descriptions and lists not at all, clearing as what it clears. -/
theorem metered (disk : FileTree) (e : Engine) (q : Query) :
    Metered e.store.cachedCount (q.run disk e).state.store.cachedCount (q.run disk e).events
      (q.work disk e) := by
  cases q with
  | load name lang =>
    rw [work_of_keeps fun _ => id]
    exact e.store.metered_load disk name lang
  | isAvailable name lang =>
    rw [work_of_keeps fun _ => id]
    exact e.store.metered_load disk name lang
  | renderReport name lang values =>
    rw [work_of_keeps fun _ => id]
    exact e.metered_renderReport disk name lang values
  | renderText name lang values =>
    rw [work_of_keeps fun _ => id]
    exact e.metered_renderText disk name lang values
  | composeMail name lang values =>
    rw [work_of_keeps fun _ => id]
    exact e.metered_composeMail disk name lang values
  | info name lang =>
    rw [work_of_keeps fun _ => id]
    exact Metered.nothing _
  | list lang =>
    rw [work_of_keeps fun _ => id]
    exact Metered.nothing _
  | clearCache =>
    have hall : (removed e.store .clearCache).length = e.store.cachedCount := by
      have hkeys : removed e.store .clearCache = e.store.cache.keys :=
        List.filter_eq_self.mpr fun _ _ => decide_eq_true trivial
      rw [hkeys]
      exact List.length_map _
    refine Metered.cleared (Unmetered.nil.cons rfl) ?_
    rw [hall]
    exact (Nat.zero_add _).symm
  | clearTemplate name lang =>
    exact Metered.cleared (Unmetered.nil.cons rfl) (e.store.cachedCount_clearTemplate name lang)

end Query

/-! ## §5. Operations -/

namespace Operation

/-- What an operation reports. -/
def events (site : Site) : Operation → List Event
  | query q => (q.run site.disk site.engine).events
  | register name body lang => (site.engine.store.register name body lang).events
  | registerSubject name line lang => (site.engine.registerSubject name line lang).events
  | loadSubjects lang path => (site.engine.subjects.loadDocument site.disk lang path).events
  | readSubjectFiles => (site.engine.readSubjectFiles site.disk).events
  | change _ => []

/-- What an operation does, as far as it is metered. -/
def work (site : Site) : Operation → Work
  | query q => q.work site.disk site.engine
  | _ => {}

end Operation

theorem Subjects.unmetered_loadDocument (disk : FileTree) (s : Subjects) (lang path : String)
    (pass : Pass) : Unmetered (s.loadDocument disk lang path pass).events := by
  rw [loadDocument_eq_putAll]
  split
  · exact Unmetered.nil
  · split
    · exact Unmetered.nil
    · exact Unmetered.nil.cons rfl

theorem Engine.unmetered_readSubjectsOf (disk : FileTree) (root : String)
    (passes : String → Subjects.Pass) (s : Subjects) (total : Nat) (directories : List String) :
    Unmetered (readSubjectsOf disk root passes s total directories).events := by
  induction directories generalizing s total with
  | nil => exact Unmetered.nil
  | cons directory rest ih =>
    unfold readSubjectsOf
    dsimp only
    split
    · have hone := s.unmetered_loadDocument disk directory
        (FileTree.join (FileTree.join root directory) subjectsFile) (passes directory)
      split
      · exact hone
      · exact hone.append (ih _ _)
    · exact ih s total

theorem Engine.unmetered_readSubjectFiles (disk : FileTree) (e : Engine)
    (passes : String → Subjects.Pass) : Unmetered (e.readSubjectFiles disk passes).events := by
  unfold readSubjectFiles
  split
  · exact Unmetered.nil
  · exact Unmetered.nil
  · exact unmetered_readSubjectsOf disk _ _ _ _ _

/-- **Every operation is metered**, and it is only the queries that move the counters. -/
theorem Operation.metered (site : Site) (op : Operation) :
    Metered site.engine.store.cachedCount (op.run site).engine.store.cachedCount (op.events site)
      (op.work site) := by
  cases op with
  | query q => exact q.metered site.disk site.engine
  | register name body lang =>
    unfold events work run Store.register
    dsimp only
    split
    · exact Metered.nothing _
    · exact .of_unmetered (Unmetered.nil.cons rfl) _
  | registerSubject name line lang =>
    unfold events work run Engine.registerSubject
    dsimp only
    split
    · exact Metered.nothing _
    · exact Metered.nothing _
  | loadSubjects lang path =>
    exact .of_unmetered (site.engine.subjects.unmetered_loadDocument site.disk lang path _) _
  | readSubjectFiles =>
    have hsame : (site.engine.readSubjectFiles site.disk).state.store = site.engine.store := by
      unfold Engine.readSubjectFiles
      split <;> rfl
    unfold run
    dsimp only
    rw [hsame]
    exact .of_unmetered (site.engine.unmetered_readSubjectFiles site.disk _) _
  | change disk => exact Metered.nothing _

/-- A new engine has nothing in its cache. -/
theorem Engine.cachedCount_of_create {config : Settings.Templates} {year : String} {e : Engine}
    (created : Engine.create config year = .ok e) : e.store.cachedCount = 0 := by
  unfold Engine.create at created
  split at created
  · cases created
  · obtain rfl := Except.ok.inj created
    rfl

/-- What a list of queries does, one after the other. -/
def Engine.work (disk : FileTree) (e : Engine) : List Query → Work
  | [] => {}
  | q :: rest => (q.work disk e).andThen ((q.run disk e).state.work disk rest)

end Template

namespace Mail

open Template (Work Metered Query)

variable {σ : Type}

/-! ## §6. Calls of mailers -/

/-- The query that composing a mail makes. -/
def Request.query (r : Request) : Query := .composeMail r.template r.lang r.values

namespace Call

/-- The mails of a call. -/
def mails : Call → List Request
  | send r => [r]
  | sendWithRetry r _ => [r]
  | sendBulk b recipients => recipients.map b.mailFor

/-- What a call does with the engine of its mailer: it composes its mails, up to the first that does
not compose. -/
def work (disk : FileTree) (m : Mailer σ) (c : Call) : Work :=
  m.engine.work disk ((c.mails.take (c.compositions disk m).length).map Request.query)

end Call

namespace Mailer

variable (disk : FileTree) (transport : Transport σ) (m : Mailer σ)

/-- What composing a mail does to the engine. -/
theorem engine_compose (r : Request) :
    (m.compose disk r).state.engine = (r.query.run disk m.engine).state := by
  unfold compose
  dsimp only
  split <;> rfl

theorem compose_metered (r : Request) :
    Metered m.engine.store.cachedCount (m.compose disk r).state.engine.store.cachedCount
      (m.compose disk r).events (r.query.work disk m.engine) := by
  have hquery := r.query.metered disk m.engine
  rw [engine_compose]
  unfold compose
  dsimp only
  split
  · exact hquery.followed (Unmetered.nil.cons rfl)
  · exact hquery

/-- The mails of a bulk send are metered up to the first that does not compose. -/
theorem composeAll_metered (rs : List Request) :
    Metered m.engine.store.cachedCount (m.composeAll disk rs).state.engine.store.cachedCount
      (m.composeAll disk rs).events
      (m.engine.work disk ((rs.take (m.compositions disk rs).length).map Request.query)) := by
  induction rs generalizing m with
  | nil => exact Metered.nothing _
  | cons r rest ih =>
    have hone := m.compose_metered disk r
    unfold compositions
    dsimp only
    cases hresult : (m.compose disk r).result with
    | error fault =>
      rw [composeAll_of_error hresult]
      show Metered _ _ _ ((r.query.work disk m.engine).andThen {})
      rw [Template.Work.andThen_empty]
      exact hone
    | ok letter =>
      -- the first mail is one of those that are composed, so one more of the list is taken
      have hboth := hone.append (ih (m.compose disk r).state)
      rw [engine_compose disk m r] at hboth
      rw [composeAll_of_ok hresult]
      exact hboth

/-- Attempts are not metered. -/
theorem unmetered_attempts (letter : Letter) (left attempt : Nat) (backoff : Backoff) (link : σ) :
    Unmetered (attempts transport letter left attempt backoff link).events := by
  have hclosing : ∀ attempt answer, Unmetered (.attempted letter :: closing attempt answer) := by
    intro attempt answer
    cases answer with
    | ok receipt => exact (Unmetered.nil.cons rfl).cons rfl
    | error fault => exact ((Unmetered.nil.cons rfl).cons rfl).cons rfl
  induction left generalizing attempt backoff link with
  | zero =>
    rw [attempts_last rfl (Or.inr rfl)]
    exact hclosing _ _
  | succ left ih =>
    rcases h : transport.deliver letter link with ⟨answer, link'⟩
    cases ht : isTransient answer with
    | false =>
      rw [attempts_last h (Or.inl ht)]
      exact hclosing _ _
    | true =>
      cases answer with
      | ok receipt => cases ht
      | error fault =>
        rw [attempts_again h ht]
        have hrest := ih (attempt + 1) backoff.next.2 link'
        exact (((hrest.cons rfl).cons rfl).cons rfl).cons rfl

theorem unmetered_deliverAll (maxAttempts delayMs : Nat) (first : Bool) (letters : List Letter) :
    Unmetered (m.deliverAll transport maxAttempts delayMs first letters).events ∧
      (m.deliverAll transport maxAttempts delayMs first letters).state.engine = m.engine := by
  induction letters generalizing m first with
  | nil => exact ⟨Unmetered.nil, rfl⟩
  | cons letter rest ih =>
    obtain ⟨hothers, hengine⟩ := ih (m.deliver transport letter maxAttempts).state false
    have hone : Unmetered (m.deliver transport letter maxAttempts).events :=
      unmetered_attempts transport letter _ _ _ _
    have hpause : Unmetered (if first || delayMs = 0 then [] else [Event.paused delayMs]) := by
      split
      · exact Unmetered.nil
      · exact Unmetered.nil.cons rfl
    exact ⟨(hpause.append hone).append hothers, hengine⟩

end Mailer

/-- **Every call is metered as the mails that it composes**, whatever becomes of them. -/
theorem Call.metered (disk : FileTree) (transport : Transport σ) (m : Mailer σ) (c : Call) :
    Metered m.engine.store.cachedCount (c.run disk transport m).state.engine.store.cachedCount
      (c.run disk transport m).events (c.work disk m) := by
  have hsingle : ∀ r : Request, m.engine.work disk [r.query] = r.query.work disk m.engine :=
    fun r => Work.andThen_empty _
  cases c with
  | send r =>
    have hone := m.compose_metered disk r
    rw [← hsingle] at hone
    unfold run Mailer.send
    dsimp only [Step.map]
    cases (m.compose disk r).result with
    | error fault => exact hone
    | ok letter =>
      dsimp only
      rcases transport.deliver letter (m.compose disk r).state.link with ⟨answer, link⟩
      cases answer with
      | ok receipt => exact hone.followed ((Unmetered.nil.cons rfl).cons rfl)
      | error fault => exact hone.followed ((Unmetered.nil.cons rfl).cons rfl)
  | sendWithRetry r maxAttempts =>
    have hone := m.compose_metered disk r
    rw [← hsingle] at hone
    unfold run Mailer.sendWithRetry
    dsimp only [Step.map]
    cases (m.compose disk r).result with
    | error fault => exact hone
    | ok letter => exact hone.followed (Mailer.unmetered_attempts transport letter _ _ _ _)
  | sendBulk b recipients =>
    have hall := m.composeAll_metered disk (recipients.map b.mailFor)
    unfold run Mailer.sendBulk
    dsimp only [Step.map]
    cases (m.composeAll disk (recipients.map b.mailFor)).result with
    | error fault => exact hall
    | ok letters =>
      -- all loads are over when the first letter is delivered
      obtain ⟨hdelivered, hengine⟩ := Mailer.unmetered_deliverAll transport
        (m.composeAll disk (recipients.map b.mailFor)).state
        (b.maxAttempts.getD m.retry.maxAttempts) (b.delayMs.getD m.retry.bulkDelayMs) true letters
      dsimp only
      rw [hengine]
      exact (hall.followed hdelivered).followed (Unmetered.nil.cons rfl)

/-! ## §7. All engines -/

/-- The engines of a process over one tree of files, and everything that was reported. -/
structure House (ι : Type) where
  disk : FileTree
  engines : ι → Template.Engine
  events : List Event := []

/-- Something that is done with one of the engines, or that happens to the files. -/
inductive Deed (ι σ : Type) where
  | operated (i : ι) (op : Template.Operation)
  /-- values are put into a text that is no template -/
  | substituted (i : ι) (text : String) (values : Placeholder.Variables)
  /-- a mailer that has the engine completes a call -/
  | called (i : ι) (transport : Transport σ) (m : Mailer σ) (c : Call)

namespace House

variable {ι : Type}

/-- What a deed does, as far as it is metered. -/
def work (h : House ι) : Deed ι σ → Work
  | .operated i op => op.work ⟨h.disk, h.engines i⟩
  | .substituted i text values => { substituted := [(h.engines i).fillIn text values] }
  | .called i _ m c => c.work h.disk (m.withEngine (h.engines i))

variable [DecidableEq ι]

/-- The house after a deed. -/
def step (h : House ι) : Deed ι σ → House ι
  | .operated i op =>
    let site := op.run ⟨h.disk, h.engines i⟩
    { disk := site.disk
      engines := Function.update h.engines i site.engine
      events := h.events ++ op.events ⟨h.disk, h.engines i⟩ }
  | .substituted i text values =>
    { h with events := h.events ++ ((h.engines i).substitute text values).2 }
  | .called i transport m c =>
    let step := c.run h.disk transport (m.withEngine (h.engines i))
    { h with
      engines := Function.update h.engines i step.state.engine
      events := h.events ++ step.events }

/-- The house after a run of deeds, oldest first. -/
def after (h : House ι) (run : List (Deed ι σ)) : House ι := run.foldl step h

/-- What a run of deeds does. -/
def allWork (h : House ι) : List (Deed ι σ) → Work
  | [] => {}
  | x :: rest => (h.work x).andThen ((h.step x).allWork rest)

variable [Fintype ι]

/-- The number of cached entries of all engines. -/
def cachedCount (h : House ι) : Nat := ∑ i, (h.engines i).store.cachedCount

/-- One engine goes on, metered, and the others stay as they are. -/
theorem metered_update {engines : ι → Template.Engine} {i : ι} {e : Template.Engine}
    {es : List Event} {w : Work}
    (h : Metered (engines i).store.cachedCount e.store.cachedCount es w) :
    Metered (∑ j, (engines j).store.cachedCount)
      (∑ j, (Function.update engines i e j).store.cachedCount) es w where
  looked := h.looked
  cached := by
    have hsum := sum_update (fun e : Template.Engine => e.store.cachedCount) engines i e
    have hone := h.cached
    omega
  missing := h.missing
  rendered := h.rendered

/-- **Step lemma**: a house that is metered stays metered, whatever is done. -/
theorem metered_step {h : House ι} {n : Nat} {w : Work} (hw : Metered n h.cachedCount h.events w)
    (x : Deed ι σ) :
    Metered n (h.step x).cachedCount (h.step x).events (w.andThen (h.work x)) := by
  cases x with
  | operated i op => exact hw.append (metered_update (op.metered ⟨h.disk, h.engines i⟩))
  | substituted i text values =>
    exact hw.append ((h.engines i).metered_substitute text values h.cachedCount)
  | called i transport m c =>
    exact hw.append (metered_update (c.metered h.disk transport (m.withEngine (h.engines i))))

/-- **Run lemma**: a house that is metered is metered after every run. -/
theorem metered_after {h : House ι} {n : Nat} {w : Work} (hw : Metered n h.cachedCount h.events w)
    (run : List (Deed ι σ)) :
    Metered n (h.after run).cachedCount (h.after run).events (w.andThen (h.allWork run)) := by
  induction run generalizing h w with
  | nil =>
    rw [allWork, Work.andThen_empty]
    exact hw
  | cons x rest ih =>
    have hrest := ih (metered_step hw x)
    rw [Work.andThen_assoc] at hrest
    exact hrest

end House

/-! ## §8. After every run -/

/-- **The meters balance.**  Engines are created, and then anything is done with them and by the
mailers that share them, in one sequence, while files come and go.  Of what was counted since:

  * the bodies that were served, from each tier, and the lookups that found nothing are the loads of
    what may name a template;
  * what was read from disk is what is cached now, in all engines, and what was cleared;
  * the missing values are those of all substitutions, and the renderings are their number, those
    that a strict engine refused included. -/
theorem meters_balance {ι σ : Type} [Fintype ι] [DecidableEq ι]
    {configs : ι → Settings.Templates} {years : ι → String} {engines : ι → Template.Engine}
    (created : ∀ i, Template.Engine.create (configs i) (years i) = .ok (engines i))
    (disk : FileTree) (run : List (Deed ι σ)) :
    let start : House ι := ⟨disk, engines, []⟩
    let now := start.after run
    let work := start.allWork run
    ((Counter.loads .memory).count now.events + (Counter.loads .cache).count now.events
        + (Counter.loads .disk).count now.events + Counter.notFound.count now.events
      = work.loads.countP fun load => Template.isName load.1) ∧
    (Counter.loads .disk).count now.events
      = ∑ i, (now.engines i).store.cachedCount + work.removed.length ∧
    Counter.missingValues.count now.events
      = (work.substituted.flatMap Placeholder.Rendered.missing).length ∧
    Counter.renderings.count now.events = work.substituted.length := by
  intro start now work
  -- nothing is cached at first, so the entries that there are were all read from disk
  have hnone : start.cachedCount = 0 :=
    Finset.sum_eq_zero fun i _ => Template.Engine.cachedCount_of_create (created i)
  have hstart : Metered 0 start.cachedCount start.events {} := by
    rw [hnone]
    exact .nothing 0
  obtain ⟨hlooked, hcached, hmissing, hrendered⟩ := House.metered_after hstart run
  exact ⟨hlooked, hcached, hmissing, hrendered⟩

/-- A lenient engine and a strict one. -/
def branches (strict : Bool) : Template.Engine := (Template.plainEngine "en").withStrict strict

/-- A greeting is read, asked for again and described; a bill lacks values in both engines, which
ends a bulk send of the strict one; a ghost is not found, and a path to one is refused; the strict
engine sends the greeting, drops it, and refuses a text. -/
def meteredDay : List (Deed Bool (List (Option DeliveryFault))) := [
  .operated false (.query (.load "welcome" "en-US")),
  .operated false (.query (.isAvailable "welcome" "en_us")),
  .operated false (.query (.info "welcome" "en")),
  .operated false (.register "bill" "\x7b\x7bAMOUNT\x7d\x7d" "en"),
  .operated false (.query (.renderText "bill" "en" .empty)),
  .operated true (.register "bill" "\x7b\x7bAMOUNT\x7d\x7d \x7b\x7bDATE\x7d\x7d" "en"),
  .called true script greeter (.sendBulk { newsletter with template := "bill" } subscribers),
  .operated true (.query (.load "ghost" "fr")),
  .operated true (.query (.load "../ghost" "fr")),
  .called true script greeter (.sendWithRetry { template := "welcome" } 2),
  .operated true (.query (.clearTemplate "welcome" "en-GB")),
  .substituted true "\x7b\x7bNAME\x7d\x7d" .empty]

/-- The meters of a day with two engines: six loads of names, one entry cleared, and four values
missing in five substitutions. -/
theorem meters_balance_meteredDay :
    (∀ strict, Template.Engine.create { strict } "2025" = .ok (branches strict)) ∧
    let now := House.after ⟨Template.greetings, branches, []⟩ meteredDay
    (Counter.loads .memory).count now.events + (Counter.loads .cache).count now.events
        + (Counter.loads .disk).count now.events + Counter.notFound.count now.events = 6 ∧
    (Counter.loads .disk).count now.events = ∑ i, (now.engines i).store.cachedCount + 1 ∧
    Counter.missingValues.count now.events = 4 ∧
    Counter.renderings.count now.events = 5 := by
  have created : ∀ strict, Template.Engine.create { strict } "2025" = .ok (branches strict) := by
    intro strict
    unfold Template.Engine.create Template.configFault?
    rw [show Language.isTag "en" = true by decide]
    rfl
  refine ⟨created, ?_⟩
  intro now
  obtain ⟨hlooked, hcached, hmissing, hrendered⟩ :=
    meters_balance created Template.greetings meteredDay
  have hloads : ((House.allWork ⟨Template.greetings, branches, []⟩ meteredDay).loads.countP
      fun load => Template.isName load.1) = 6 := by decide +kernel
  have hremoved : (House.allWork ⟨Template.greetings, branches, []⟩ meteredDay).removed
      = [⟨"en", "welcome"⟩] := by decide +kernel
  have hsubstituted : (House.allWork ⟨Template.greetings, branches, []⟩ meteredDay).substituted
      = [⟨"", ["AMOUNT"]⟩, ⟨" ", ["AMOUNT", "DATE"]⟩, ⟨"Hello", []⟩, ⟨"Welcome", []⟩,
        ⟨"", ["NAME"]⟩] := by decide +kernel
  rw [hremoved] at hcached
  rw [hsubstituted] at hmissing hrendered
  exact ⟨hlooked.trans hloads, hcached, hmissing, hrendered⟩

end Mail

end LocalizedMail
