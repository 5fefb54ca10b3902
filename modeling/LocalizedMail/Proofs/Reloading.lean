import LocalizedMail.Proofs.Registrations

/-!
# Loading again after files changed

A body that was read from a file is kept, so the next load need not look at the file again.  This
file says what that is worth when files are written, rewritten or removed between two loads of the
same template for the same language.

One list of directories gives again what it gave before, whatever became of the files.  A load,
however, goes through two lists, and it reads the files of the requested language before it looks
into the cache for the default language.  So a load repeats itself unless the default language
served it and the requested language has got a file since.

  * `lookup_again`: one list of directories repeats itself;
  * `load_again`: the exact result of a second load;
  * `load_again_sees_new_file`: a second load that gives something else.
-/

namespace LocalizedMail.Template

namespace Store

/-! ## §1. What a list of directories holds -/

/-- Some tier has a body of a template under one of the directories. -/
def Holds (disk : FileTree) (s : Store) (name : String) (directories : List String) : Prop :=
  ∃ d ∈ directories, (s.memory.get? ⟨d, name⟩).isSome ∨ (s.cache.get? ⟨d, name⟩).isSome ∨
    (s.fileText? disk name d).isSome

instance (disk : FileTree) (s : Store) (name : String) (directories : List String) :
    Decidable (s.Holds disk name directories) :=
  inferInstanceAs (Decidable (∃ d ∈ directories, _ ∨ _ ∨ _))

/-- The text of the first readable file among the directories that are requested. -/
def requestedText? (disk : FileTree) (s : Store) (name lang : String) : Option String :=
  (firstText (s.fileText? disk name) (s.chain lang).requested).map Prod.snd

/-- Directories hold nothing exactly when a search of them finds nothing. -/
theorem not_holds_iff {disk : FileTree} {s : Store} {name : String} {ds : List String} :
    ¬ s.Holds disk name ds ↔ (lookup disk s name ds).result = none := by
  rw [lookup_eq_none]
  unfold Holds
  constructor
  · intro hnone d hd
    refine ⟨?_, ?_, ?_⟩
    · by_contra hm
      exact hnone ⟨d, hd, Or.inl (Option.isSome_iff_ne_none.mpr hm)⟩
    · by_contra hc
      exact hnone ⟨d, hd, Or.inr (Or.inl (Option.isSome_iff_ne_none.mpr hc))⟩
    · by_contra hf
      exact hnone ⟨d, hd, Or.inr (Or.inr (Option.isSome_iff_ne_none.mpr hf))⟩
  · rintro hnone ⟨d, hd, hsome⟩
    obtain ⟨hm, hc, hf⟩ := hnone d hd
    rw [hm, hc, hf] at hsome
    simp at hsome

/-! ## §2. One list of directories -/

section again

variable {disk : FileTree} {s : Store} {name body : String} {ds : List String}

/-- **A list of directories gives again what it gave before**, whatever became of the files. -/
theorem lookup_again (disk' : FileTree) (found : (lookup disk s name ds).result = some body) :
    (lookup disk' (lookup disk s name ds).state name ds).result = some body := by
  have hspec := lookup_spec disk s name ds
  generalize lookup disk s name ds = step at hspec found ⊢
  cases hspec with
  | registered hm =>
    obtain rfl := Option.some.inj found
    show (lookup disk' s name ds).result = _
    rw [lookup_of_registered hm]
  | cached hm hc =>
    obtain rfl := Option.some.inj found
    show (lookup disk' s name ds).result = _
    rw [lookup_of_cached hm hc]
  | read hm hc hf =>
    -- the file may be gone or changed, but its text was kept
    obtain rfl := Option.some.inj found
    obtain ⟨hd, -⟩ := firstText_eq_some hf
    exact (lookup_keep disk' _ hd hm hc).1
  | missed => cases found

/-- What is registered and cached under directories that are not searched stays as it is. -/
theorem lookup_tiers_of_disjoint (disk : FileTree) {rs : List String} (hdisjoint : ∀ d ∈ ds, d ∉ rs)
    (hm : firstIn s.memory name rs = none) (hc : firstIn s.cache name rs = none) :
    firstIn (lookup disk s name ds).state.memory name rs = none ∧
      firstIn (lookup disk s name ds).state.cache name rs = none := by
  rcases lookup_state disk s name ds with h | ⟨d, text, hd, -, hfree, -, h⟩
  · rw [h]
    exact ⟨hm, hc⟩
  · rw [h, keep_memory]
    exact ⟨hm, firstIn_keep_other text (hdisjoint d hd) hfree hc⟩

end again

/-! ## §3. A whole load -/

/-- **A load that the requested language served repeats itself**, whatever became of the files. -/
theorem load_again_of_requested {disk : FileTree} (disk' : FileTree) {s : Store}
    {name lang body : String} (good : isName name = true)
    (found : (lookup disk s name (s.chain lang).requested).result = some body) :
    ((s.load disk name lang).state.load disk' name lang).result = .ok body := by
  rw [(load_of_requested good found).2]
  apply (load_of_requested good _).1
  rw [lookup_chain]
  exact lookup_again disk' found

/-- A load that the default language served gives the text of the requested language's first file,
or repeats itself if there is none. -/
theorem load_again_of_fellBack {disk : FileTree} (disk' : FileTree) {s : Store}
    {name lang body : String} (good : isName name = true)
    (missed : (lookup disk s name (s.chain lang).requested).result = none)
    (found : (lookup disk s name (s.chain lang).fallback).result = some body) :
    ((s.load disk name lang).state.load disk' name lang).result
      = .ok ((s.requestedText? disk' name lang).getD body) := by
  rw [(load_of_fellBack good missed found).2]
  have hmissed := lookup_eq_none.mp missed
  -- the first load kept nothing under the requested directories
  obtain ⟨hm, hc⟩ := lookup_tiers_of_disjoint disk
    (fun d (hd : d ∈ (s.chain lang).fallback) => not_requested_of_fallback hd)
    (firstText_eq_none.mpr fun d hd => (hmissed d hd).1)
    (firstText_eq_none.mpr fun d hd => (hmissed d hd).2.1)
  have hagain := lookup_again disk' found
  have hchain := lookup_chain disk s name (s.chain lang).fallback lang
  have htext := lookup_fileText? disk disk' s name (s.chain lang).fallback
  generalize (lookup disk s name (s.chain lang).fallback).state = t at hm hc hagain hchain htext ⊢
  rw [← hchain] at hm hc hagain
  have hfirst : firstText (t.fileText? disk' name) (t.chain lang).requested
      = firstText (s.fileText? disk' name) (s.chain lang).requested := by
    rw [hchain, htext]
  unfold requestedText?
  rw [← hfirst]
  cases hf : firstText (t.fileText? disk' name) (t.chain lang).requested with
  | some hit =>
    obtain ⟨d, text⟩ := hit
    exact (load_of_requested good (lookup_of_read hm hc hf).1).1
  | none =>
    have hnone : (lookup disk' t name (t.chain lang).requested).result = none := by
      rw [lookup_result_eq, hm, hc, hf]
      rfl
    exact (load_of_fellBack good hnone hagain).1

/-- **What a second load gives.**  A template was loaded, and then files were written, rewritten or
removed in any way.  If the requested language had the template, the second load gives the same
body.  If only the default language had it, the second load gives the same body too, unless the
requested language has a readable file by now: then it gives the text of the first such file. -/
theorem load_again (disk disk' : FileTree) (s : Store) (name lang : String) {body : String}
    (loaded : (s.load disk name lang).result = .ok body) :
    (s.Holds disk name (s.chain lang).requested →
      ((s.load disk name lang).state.load disk' name lang).result = .ok body) ∧
    (¬ s.Holds disk name (s.chain lang).requested →
      ((s.load disk name lang).state.load disk' name lang).result
        = .ok ((s.requestedText? disk' name lang).getD body)) := by
  rw [not_holds_iff]
  have good := isName_of_load loaded
  rw [load_result_eq disk s lang good] at loaded
  constructor
  · intro holds
    obtain ⟨text, hfirst⟩ := Option.ne_none_iff_exists'.mp (not_holds_iff.not.mp (not_not.mpr holds))
    rw [hfirst] at loaded
    obtain rfl := Except.ok.inj loaded
    exact load_again_of_requested disk' good hfirst
  · intro missed
    rw [missed, Option.none_or] at loaded
    cases hsecond : (lookup disk s name (s.chain lang).fallback).result with
    | none => rw [hsecond] at loaded; cases loaded
    | some text =>
      rw [hsecond] at loaded
      obtain rfl := Except.ok.inj loaded
      exact load_again_of_fellBack disk' good missed hsecond

end Store

/-! ## §4. A language that gets a file -/

/-- A directory of French templates, with a greeting, and no other directory. -/
def salutations : FileTree :=
  .directory [("templates", .directory [
    ("fr", .directory [("welcome.xhtml", .file (.text "Bonjour"))])])]

/-- A French greeting comes in the place of an English one.  The English one goes on being served to
those who asked for English, and to those who asked for French as long as there is no French one. -/
theorem load_again_salutations :
    let s := (plainEngine "en").store
    ((s.load greetings "welcome" "en-US").state.load salutations "welcome" "en-US").result
        = .ok "Howdy" ∧
      ((s.load greetings "welcome" "fr").state.load salutations "welcome" "fr").result
        = .ok "Bonjour" ∧
      ((s.load greetings "welcome" "fr").state.load (.directory []) "welcome" "fr").result
        = .ok "Hello" := by
  intro s
  have american : (s.load greetings "welcome" "en-US").result = .ok "Howdy" := by decide +kernel
  have french : (s.load greetings "welcome" "fr").result = .ok "Hello" := by decide +kernel
  have hamerican : s.Holds greetings "welcome" (s.chain "en-US").requested := by decide +kernel
  have hfrench : ¬ s.Holds greetings "welcome" (s.chain "fr").requested := by decide +kernel
  have hnew : s.requestedText? salutations "welcome" "fr" = some "Bonjour" := by decide +kernel
  have hgone : s.requestedText? (.directory []) "welcome" "fr" = none := by decide +kernel
  obtain ⟨hstays, -⟩ := Store.load_again greetings salutations s "welcome" "en-US" american
  obtain ⟨-, hchanges⟩ := Store.load_again greetings salutations s "welcome" "fr" french
  obtain ⟨-, hkept⟩ := Store.load_again greetings (.directory []) s "welcome" "fr" french
  refine ⟨hstays hamerican, ?_, ?_⟩
  · rw [hchanges hfrench, hnew]
    rfl
  · rw [hkept hfrench, hgone]
    rfl

/-- **A second load sees a new file.**  The first load for French is served by the default language;
then French gets a file, and the next load gives the text of that file. -/
theorem load_again_sees_new_file :
    ∃ e, Engine.create { root := "templates" } "2025" = .ok e ∧
      (e.store.load greetings "welcome" "fr").result = .ok "Hello" ∧
      ((e.store.load greetings "welcome" "fr").state.load salutations "welcome" "fr").result
        = .ok "Bonjour" :=
  ⟨_, rfl, by decide +kernel, by decide +kernel⟩

end LocalizedMail.Template
