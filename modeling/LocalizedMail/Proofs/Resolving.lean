import LocalizedMail.Proofs.Registrations
import Mathlib.Data.List.Induction

/-!
# Subject lines and bodies of one list of registrations

A store and the subject lines of an engine are filled and searched by different code: the store
searches the requested directories tier by tier and then those of the default language, the subject
lines are searched along the whole chain at once.  This file compares the two where the comparison
makes sense, that is, over one list of registrations and without template files.

Both are determined by the list.  The text under a key is the one that was filed there last, a
registration whose name is refused does not count, and what is found is the text under the first
directory of the chain that has one.

Main results:
  * `get?_fileAll`: a table of filings holds the last text of each key;
  * `Store.registerAll_eq` and `Subjects.registerAll_eq`: what a list of registrations files;
  * `resolve_follows_load`: a subject line is the body of the same registrations, and the name in
    words where there is no body.
-/

namespace LocalizedMail.Template

/-! ## §1. The last text under a key -/

/-- The text that was filed last under a key. -/
def latest? (defaultLang : String) (filings : List Filing) (k : Key) : Option String :=
  (filings.reverse.find? fun f => f.key defaultLang = k).map Filing.text

theorem latest?_concat (defaultLang : String) (fs : List Filing) (f : Filing) (k : Key) :
    latest? defaultLang (fs ++ [f]) k
      = if f.key defaultLang = k then some f.text else latest? defaultLang fs k := by
  unfold latest?
  rw [List.reverse_concat, List.find?_cons]
  by_cases hk : f.key defaultLang = k
  · simp only [hk, decide_true, if_true, Option.map_some]
  · simp only [hk, decide_false, if_false]

/-- **A table into which texts are filed holds the last text of each key.** -/
theorem get?_fileAll (defaultLang : String) (t : Table Key String) (fs : List Filing) (k : Key) :
    (fileAll defaultLang t fs).get? k = (latest? defaultLang fs k).or (t.get? k) := by
  induction fs using List.reverseRecOn with
  | nil => rfl
  | append_singleton fs f ih =>
    rw [fileAll_append, latest?_concat]
    show ((fileAll defaultLang t fs).insert (f.key defaultLang) f.text).get? k = _
    rw [Table.get?_insert, ih]
    by_cases hk : f.key defaultLang = k
    · rw [if_pos hk.symm, if_pos hk, Option.some_or]
    · rw [if_neg (Ne.symm hk), if_neg hk]

/-! ## §2. Lists of registrations -/

/-- The filings whose names are good, which are the ones that registering them takes over. -/
def named (filings : List Filing) : List Filing := filings.filter fun f => isName f.name

/-- A store in which texts are registered one after the other, some of which may be refused. -/
def Store.registerAll (s : Store) (filings : List Filing) : Store :=
  filings.foldl (fun s f => (s.register f.name f.text f.lang).state) s

/-- Subject lines among which texts are registered one after the other, some of which may be
refused. -/
def Subjects.registerAll (s : Subjects) (filings : List Filing) : Subjects :=
  filings.foldl (fun s f => (s.register f.name f.text f.lang).toOption.getD s) s

/-- Registering a list of texts files those that have good names. -/
theorem Store.registerAll_eq (s : Store) (filings : List Filing) :
    s.registerAll filings
      = { s with memory := fileAll s.defaultLang s.memory (named filings) } := by
  induction filings generalizing s with
  | nil => rfl
  | cons f filings ih =>
    show (s.register f.name f.text f.lang).state.registerAll filings = _
    rw [ih]
    unfold Store.register checkName named
    by_cases hname : isName f.name
    · simp only [hname, if_true, List.filter_cons_of_pos]
      rfl
    · simp only [hname, Bool.false_eq_true, if_false, not_false_eq_true, List.filter_cons_of_neg]

/-- Registering a list of subject lines files those that have good names. -/
theorem Subjects.registerAll_eq (s : Subjects) (filings : List Filing) :
    s.registerAll filings = s.fileAll (named filings) := by
  induction filings generalizing s with
  | nil => rfl
  | cons f filings ih =>
    show ((s.register f.name f.text f.lang).toOption.getD s).registerAll filings = _
    rw [ih]
    unfold Subjects.register checkName named
    by_cases hname : isName f.name
    · simp only [hname, if_true, List.filter_cons_of_pos]
      rfl
    · simp only [hname, Bool.false_eq_true, if_false, not_false_eq_true, List.filter_cons_of_neg]
      rfl

/-! ## §3. Stores without files -/

namespace Store

/-- No template has a readable file in any directory that a lookup may try. -/
def WithoutFiles (disk : FileTree) (s : Store) : Prop :=
  ∀ name directory, isName name → Language.isCanonical directory →
    s.fileText? disk name directory = none

theorem snd_firstText (text? : String → Option String) (ds : List String) :
    (firstText text? ds).map Prod.snd = ds.findSome? text? := by
  induction ds with
  | nil => rfl
  | cons d ds ih =>
    cases htext : text? d with
    | none => rw [firstText_cons_none ds htext, ih, List.findSome?_cons, htext]
    | some body => rw [firstText_cons_some ds htext, List.findSome?_cons, htext, Option.map_some]

/-- Without cached bodies and without files, a search is a search of what is registered. -/
theorem lookup_result_of_memory {disk : FileTree} {s : Store} {name : String} {ds : List String}
    (uncached : s.cache = .empty) (nofiles : ∀ d ∈ ds, s.fileText? disk name d = none) :
    (lookup disk s name ds).result = ds.findSome? fun d => s.memory.get? ⟨d, name⟩ := by
  have hcache : firstIn s.cache name ds = none := by
    rw [firstIn_eq, firstText_eq_none, uncached]
    exact fun d _ => Table.get?_empty _
  rw [lookup_result_eq, hcache, firstText_eq_none.mpr nofiles, Option.or_none, Option.or_none,
    firstIn_eq, snd_firstText]

/-- Without cached bodies and without files, a load is one search along the whole chain of what is
registered. -/
theorem load_result_of_memory {disk : FileTree} {s : Store} {name : String} (lang : String)
    (good : isName name = true) (uncached : s.cache = .empty) (nofiles : s.WithoutFiles disk) :
    (s.load disk name lang).result
      = ((s.chain lang).all.findSome? fun d => s.memory.get? ⟨d, name⟩).elim
          (.error (.notFound name (Language.orDefault lang s.defaultLang))) .ok := by
  have hchain : ∀ d ∈ (s.chain lang).all, s.fileText? disk name d = none :=
    fun d hd => nofiles name d good (Language.isCanonical_of_mem_all hd)
  unfold Language.Chain.all at hchain ⊢
  rw [List.forall_mem_append] at hchain
  rw [load_result_eq disk s lang good, lookup_result_of_memory uncached hchain.1,
    lookup_result_of_memory uncached hchain.2, List.findSome?_append]
  cases Option.or _ _ with
  | none => rfl
  | some body => rfl

end Store

/-! ## §4. The comparison -/

/-- The last text of a name under the first directory of a chain that has one. -/
def firstFiled (defaultLang : String) (filings : List Filing) (name lang : String) :
    Option String :=
  (Language.Chain.of (Language.orDefault lang defaultLang) defaultLang).all.findSome? fun d =>
    latest? defaultLang (named filings) ⟨d, name⟩

/-- A search of a table that was filled from nothing is a search of the filings. -/
theorem findSome?_fileAll_empty (defaultLang : String) (filings : List Filing)
    (name lang : String) :
    ((Language.Chain.of (Language.orDefault lang defaultLang) defaultLang).all.findSome? fun d =>
        (fileAll defaultLang .empty (named filings)).get? ⟨d, name⟩)
      = firstFiled defaultLang filings name lang := by
  unfold firstFiled
  simp only [get?_fileAll, Table.get?_empty, Option.or_none]

section compared

variable (root defaultLang : String) (filings : List Filing) {name : String} (lang : String)

/-- What a load gives after registrations in a new store. -/
theorem Store.load_registerAll {disk : FileTree} (good : isName name = true)
    (nofiles : (Store.create root defaultLang).WithoutFiles disk) :
    (((Store.create root defaultLang).registerAll filings).load disk name lang).result
      = (firstFiled defaultLang filings name lang).elim
          (.error (.notFound name (Language.orDefault lang defaultLang))) .ok := by
  rw [Store.registerAll_eq, ← findSome?_fileAll_empty]
  exact Store.load_result_of_memory lang good rfl nofiles

/-- What the subject line is after registrations among new subject lines. -/
theorem Subjects.resolve_registerAll :
    ((Subjects.create defaultLang).registerAll filings).resolve name lang
      = (firstFiled defaultLang filings name lang).getD (humanize name) := by
  rw [Subjects.registerAll_eq, ← findSome?_fileAll_empty]
  unfold Subjects.resolve Subjects.fileAll Subjects.create
  dsimp only
  split
  next line hfound => rw [hfound, Option.getD_some]
  next hfound => rw [hfound, Option.getD_none]

end compared

/-- **A subject line is found where the body of the same registrations is found.**  Of a list of
registrations made in a new store without template files and in new subject lines, for every text
that names a template and every text that asks for a language:

  * if a load gives a body, that is the subject line;
  * if a load finds nothing, the subject line is the name in words;
  * one of the two is the case, and which one, and with which text, is up to the last registrations
    under the directories of the chain: the first of them that has one decides. -/
theorem resolve_follows_load (disk : FileTree) (root defaultLang : String)
    (filings : List Filing) {name : String} (lang : String) (good : isName name = true)
    (nofiles : (Store.create root defaultLang).WithoutFiles disk) :
    let loaded :=
      (((Store.create root defaultLang).registerAll filings).load disk name lang).result
    let line := ((Subjects.create defaultLang).registerAll filings).resolve name lang
    let found := firstFiled defaultLang filings name lang
    (∀ body, loaded = .ok body → line = body) ∧
    (∀ lang', loaded = .error (.notFound name lang') → line = humanize name) ∧
    (∀ body, loaded = .ok body ↔ found = some body) ∧
    (∀ fault, loaded = .error fault ↔
      found = none ∧ fault = .notFound name (Language.orDefault lang defaultLang)) := by
  intro loaded line found
  have hloaded : loaded = found.elim
      (.error (.notFound name (Language.orDefault lang defaultLang))) .ok :=
    Store.load_registerAll root defaultLang filings lang good nofiles
  have hline : line = found.getD (humanize name) :=
    Subjects.resolve_registerAll defaultLang filings lang
  rw [hloaded, hline]
  cases found with
  | none =>
    refine ⟨nofun, fun _ _ => rfl, fun _ => iff_of_false nofun nofun, fun fault => ?_⟩
    rw [eq_self_iff_true, true_and, Option.elim_none, Except.error.injEq, eq_comm]
  | some text =>
    refine ⟨fun body h => Except.ok.inj h, nofun, fun body => ?_, fun _ => iff_of_false nofun nofun⟩
    rw [Option.elim_some, Except.ok.injEq, Option.some.injEq]

/-- Nothing in the empty tree can be read. -/
theorem readText_empty (path : String) : ∃ fault, FileTree.empty.readText path = .error fault := by
  have hwalk : ∀ parts, FileTree.walk [] .empty parts = .ok .empty ∨
      ∃ fault, FileTree.walk [] .empty parts = .error fault := by
    intro parts
    induction parts with
    | nil => exact Or.inl rfl
    | cons part rest ih =>
      unfold FileTree.empty FileTree.walk
      dsimp only
      split
      · exact ih
      · refine Or.inr ?_
        split
        · exact ⟨_, rfl⟩
        · split
          · exact ⟨_, rfl⟩
          · exact ⟨_, rfl⟩
  have hfind : FileTree.empty.find path = .ok .empty ∨
      ∃ fault, FileTree.empty.find path = .error fault := by
    unfold FileTree.find
    split
    · exact Or.inr ⟨_, rfl⟩
    · split
      · exact Or.inr ⟨_, rfl⟩
      · split
        · exact Or.inr ⟨_, rfl⟩
        · exact hwalk _
  unfold FileTree.readText FileTree.content
  rcases hfind with h | ⟨fault, h⟩
  · rw [h]
    exact ⟨_, rfl⟩
  · rw [h]
    exact ⟨_, rfl⟩

theorem Store.withoutFiles_empty (s : Store) : s.WithoutFiles .empty := by
  intro name directory _ _
  obtain ⟨fault, h⟩ := readText_empty (s.path directory name)
  unfold Store.fileText?
  rw [h]
  rfl

/-- Registrations under several spellings, one of them of a name that is refused. -/
def newsletters : List Filing := [
  ⟨"news", "News", "en"⟩,
  ⟨"news", "Nouvelles", " FR "⟩,
  ⟨"../news", "Secret", "fr"⟩,
  ⟨"news", "Nouvelles du jour", "fr_fr"⟩,
  ⟨"news", "Des nouvelles", "fr"⟩]

/-- A request for Canadian French comes to the last registration under French, and a name that
nobody registered is put in words. -/
theorem resolve_follows_load_newsletters :
    (((Store.create "templates" "EN").registerAll newsletters).load .empty "news" "fr-ca").result
        = .ok "Des nouvelles" ∧
      ((Subjects.create "EN").registerAll newsletters).resolve "news" "fr-ca" = "Des nouvelles" ∧
      (((Store.create "templates" "EN").registerAll newsletters).load .empty "weekly-news"
        "??").result = .error (.notFound "weekly-news" "??") ∧
      ((Subjects.create "EN").registerAll newsletters).resolve "weekly-news" "??"
        = "Weekly News" := by
  have nofiles := (Store.create "templates" "EN").withoutFiles_empty
  obtain ⟨hbody, -, hfound, -⟩ := resolve_follows_load .empty "templates" "EN" newsletters "fr-ca"
    (show isName "news" = true by decide) nofiles
  obtain ⟨-, hwords, -, hnone⟩ := resolve_follows_load .empty "templates" "EN" newsletters "??"
    (show isName "weekly-news" = true by decide) nofiles
  have hnews := (hfound "Des nouvelles").mpr (by decide +kernel)
  have hnowhere := (hnone (.notFound "weekly-news" "??")).mpr ⟨by decide +kernel, rfl⟩
  exact ⟨hnews, hbody _ hnews, hnowhere, (hwords _ hnowhere).trans (by decide +kernel)⟩

end LocalizedMail.Template
