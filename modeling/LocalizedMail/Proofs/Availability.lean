import LocalizedMail.Proofs.Describing
import LocalizedMail.Proofs.Reloading

/-!
# Being available and being described

There are two ways to ask a store whether it has a template.  A check loads the template and says
whether that went well; a description looks for it without reading any file.  So a check knows more:
a file that is no text counts as a template for the description, and as nothing for the check.

That is all the difference there is.  It shows only where a template has files in the directories of
a language, all of them illegible, and no body in memory or in the cache.

  * `isAvailable_iff_holds`: a template is available where some tier holds a body of it;
  * `exists_info`: it is described as existing where some tier holds a body, or where it has a file;
  * `isAvailable_iff_described`: the two side by side, in every state of the store.
-/

namespace LocalizedMail.Template

namespace Store

/-! ## §1. What the two ways to ask look for -/

/-- A template has a file in one of the directories, whatever is in the file. -/
def HasFile (disk : FileTree) (s : Store) (name : String) (directories : List String) : Prop :=
  ∃ d ∈ directories, disk.isFile (s.path d name) = true

instance (disk : FileTree) (s : Store) (name : String) (directories : List String) :
    Decidable (s.HasFile disk name directories) :=
  inferInstanceAs (Decidable (∃ d ∈ directories, _))

/-- A template has files in the directories, none of them can be read, and no body of it is
registered or cached there. -/
structure Illegible (disk : FileTree) (s : Store) (name : String) (directories : List String) :
    Prop where
  hasFile : s.HasFile disk name directories
  unheld : ¬ s.Holds disk name directories

section lists

variable {disk : FileTree} {s : Store} {name : String} {c : Language.Chain}

theorem holds_all :
    s.Holds disk name c.all ↔ s.Holds disk name c.requested ∨ s.Holds disk name c.fallback := by
  unfold Holds
  constructor
  · rintro ⟨d, hd, hbody⟩
    rcases Language.mem_all.mp hd with hd | hd
    · exact Or.inl ⟨d, hd, hbody⟩
    · exact Or.inr ⟨d, hd, hbody⟩
  · rintro (⟨d, hd, hbody⟩ | ⟨d, hd, hbody⟩)
    · exact ⟨d, Language.mem_all.mpr (Or.inl hd), hbody⟩
    · exact ⟨d, Language.mem_all.mpr (Or.inr hd), hbody⟩

theorem hasFile_all :
    s.HasFile disk name c.all ↔
      s.HasFile disk name c.requested ∨ s.HasFile disk name c.fallback := by
  unfold HasFile
  constructor
  · rintro ⟨d, hd, hfile⟩
    rcases Language.mem_all.mp hd with hd | hd
    · exact Or.inl ⟨d, hd, hfile⟩
    · exact Or.inr ⟨d, hd, hfile⟩
  · rintro (⟨d, hd, hfile⟩ | ⟨d, hd, hfile⟩)
    · exact ⟨d, Language.mem_all.mpr (Or.inl hd), hfile⟩
    · exact ⟨d, Language.mem_all.mpr (Or.inr hd), hfile⟩

end lists

/-! ## §2. Checking -/

/-- **A template is available exactly where some tier holds a body of it.** -/
theorem isAvailable_iff_holds {disk : FileTree} {s : Store} {name lang : String}
    (good : isName name = true) :
    (s.isAvailable disk name lang).result = true ↔ s.Holds disk name (s.chain lang).all := by
  rw [holds_all]
  show (s.load disk name lang).result.toBool = true ↔ _
  have hspec := load_spec disk s name lang
  generalize s.load disk name lang = step at hspec ⊢
  cases hspec with
  | refused bad => rw [good] at bad; cases bad
  | requested _ found =>
    have hheld : s.Holds disk name (s.chain lang).requested := by
      by_contra hnone
      rw [not_holds_iff.mp hnone] at found
      cases found
    exact iff_of_true rfl (Or.inl hheld)
  | fellBack _ _ found =>
    have hheld : s.Holds disk name (s.chain lang).fallback := by
      by_contra hnone
      rw [not_holds_iff.mp hnone] at found
      cases found
    exact iff_of_true rfl (Or.inr hheld)
  | nowhere _ missed missedToo =>
    refine iff_of_false Bool.false_ne_true ?_
    rintro (hheld | hheld)
    · exact not_holds_iff.mpr missed hheld
    · exact not_holds_iff.mpr missedToo hheld

/-! ## §3. Describing -/

section describe

variable {disk : FileTree} {s : Store} {name lang : String} {ds : List String}

/-- The search for a place misses exactly what is neither held nor a file. -/
theorem locate_eq_none_iff :
    s.locate disk name ds = none ↔ ¬ s.Holds disk name ds ∧ ¬ s.HasFile disk name ds := by
  rw [locate_eq_none, not_holds_iff, lookup_eq_none, firstIn_eq, firstIn_eq, firstText_eq_none,
    firstText_eq_none]
  constructor
  · rintro ⟨hm, hc, hfile⟩
    have hnofile : ¬ s.HasFile disk name ds := by
      rintro ⟨d, hd, hread⟩
      rw [hfile d hd] at hread
      cases hread
    refine ⟨fun d hd => ⟨hm d hd, hc d hd, ?_⟩, hnofile⟩
    -- what could be read would be a file
    cases htext : s.fileText? disk name d with
    | none => rfl
    | some text =>
      exact absurd ⟨d, hd, FileTree.isFile_of_readText (fileText?_eq_some.mp htext)⟩ hnofile
  · rintro ⟨hnone, hnofile⟩
    refine ⟨fun d hd => (hnone d hd).1, fun d hd => (hnone d hd).2.1, fun d hd => ?_⟩
    by_contra hfile
    exact hnofile ⟨d, hd, by simpa using hfile⟩

theorem locate_isSome_iff :
    (s.locate disk name ds).isSome ↔ s.Holds disk name ds ∨ s.HasFile disk name ds := by
  rw [Option.isSome_iff_ne_none, ne_eq, locate_eq_none_iff, not_and_or, not_not, not_not]

/-- A template that is found somewhere is described as existing. -/
theorem exists_of_locate {place : Place} (h : s.locate disk name ds = some place) :
    Info.exists ⟨name, place⟩ = true := by
  unfold locate at h
  cases hm : firstIn s.memory name ds with
  | some hit =>
    rw [hm] at h
    obtain rfl := Option.some.inj h
    rfl
  | none =>
    rw [hm] at h
    cases hc : firstIn s.cache name ds with
    | some hit =>
      rw [hc] at h
      obtain rfl := Option.some.inj h
      rfl
    | none =>
      rw [hc] at h
      obtain ⟨d, -, rfl⟩ := Option.map_eq_some_iff.mp h
      rfl

/-- **A template is described as existing exactly where it is held or has a file.** -/
theorem exists_info (disk : FileTree) (s : Store) (lang : String) (good : isName name = true) :
    ∃ i, s.info disk name lang = .ok i ∧
      (i.exists = true ↔
        s.Holds disk name (s.chain lang).all ∨ s.HasFile disk name (s.chain lang).all) := by
  refine ⟨_, info_eq disk s lang good, ?_⟩
  have hlists : s.Holds disk name (s.chain lang).all ∨ s.HasFile disk name (s.chain lang).all ↔
      (s.locate disk name (s.chain lang).requested).isSome ∨
        (s.locate disk name (s.chain lang).fallback).isSome := by
    rw [locate_isSome_iff, locate_isSome_iff, holds_all, hasFile_all]
    exact or_or_or_comm
  rw [hlists]
  cases hrequested : s.locate disk name (s.chain lang).requested with
  | some place => exact iff_of_true (exists_of_locate hrequested) (Or.inl rfl)
  | none =>
    cases hfallback : s.locate disk name (s.chain lang).fallback with
    | some place => exact iff_of_true (exists_of_locate hfallback) (Or.inr rfl)
    | none => exact iff_of_false Bool.false_ne_true (by simp)

end describe

end Store

/-! ## §4. Side by side -/

/-- **A check and a description agree unless all there is are files that cannot be read.**  In every
state of a store and over all files, a template that is available is described as existing; and one
that is described as existing is available, unless no tier holds a body of it in the directories of
the language and its files there are all illegible.  Such files are described, because a description
reads nothing, and they are not available. -/
theorem isAvailable_iff_described (disk : FileTree) (s : Store) (name lang : String)
    (good : isName name = true) :
    ∃ i, s.info disk name lang = .ok i ∧
      ((s.isAvailable disk name lang).result = true ↔
        i.exists = true ∧ ¬ s.Illegible disk name (s.chain lang).all) ∧
      (s.Illegible disk name (s.chain lang).all → i.exists = true) := by
  obtain ⟨i, hinfo, hexists⟩ := Store.exists_info disk s lang good
  refine ⟨i, hinfo, ?_, fun h => hexists.mpr (Or.inr h.hasFile)⟩
  rw [Store.isAvailable_iff_holds good, hexists]
  constructor
  · intro held
    exact ⟨Or.inl held, fun h => h.unheld held⟩
  · rintro ⟨held | hasFile, hlegible⟩
    · exact held
    · by_contra unheld
      exact hlegible ⟨hasFile, unheld⟩

/-- A greeting that is no text, and an English one that can be read. -/
def scrambled : FileTree :=
  .directory [("templates", .directory [
    ("en", .directory [("welcome.xhtml", .file (.text "Hello"))]),
    ("fr", .directory [
      ("farewell.xhtml", .file (.bytes ⟨#[0xFF]⟩)),
      ("welcome.xhtml", .file (.bytes ⟨#[0xFF]⟩))])])]

/-- Asked for in French, the greeting is served in English; the farewell is a file that nobody can
read. -/
theorem isAvailable_iff_described_scrambled :
    let s := (plainEngine "en").store
    isName "welcome" = true ∧ isName "farewell" = true ∧
      (∃ i, s.info scrambled "welcome" "fr" = .ok i ∧ i.exists = true ∧
        (s.isAvailable scrambled "welcome" "fr").result = true) ∧
      ∃ i, s.info scrambled "farewell" "fr" = .ok i ∧ i.exists = true ∧
        (s.isAvailable scrambled "farewell" "fr").result = false := by
  intro s
  have hwelcome : (s.isAvailable scrambled "welcome" "fr").result = true := by decide +kernel
  have hfarewell : s.Illegible scrambled "farewell" (s.chain "fr").all :=
    ⟨by decide +kernel, by decide +kernel⟩
  obtain ⟨i, hinfo, hagree, -⟩ :=
    isAvailable_iff_described scrambled s "welcome" "fr" (by decide)
  obtain ⟨j, hinfo', hagree', hdescribed⟩ :=
    isAvailable_iff_described scrambled s "farewell" "fr" (by decide)
  refine ⟨by decide, by decide, ⟨i, hinfo, (hagree.mp hwelcome).1, hwelcome⟩,
    j, hinfo', hdescribed hfarewell, ?_⟩
  rw [Bool.eq_false_iff, ne_eq, hagree']
  exact fun h => h.2 hfarewell

/-- **What exists need not be available.**  A file that is no text is described, and a check does
not count it. -/
theorem described_but_unavailable :
    ∃ e, Engine.create { root := "templates" } "2025" = .ok e ∧
      (e.store.info scrambled "farewell" "fr").map (·.exists) = .ok true ∧
      (e.store.isAvailable scrambled "farewell" "fr").result = false :=
  ⟨_, rfl, by decide +kernel, by decide +kernel⟩

end LocalizedMail.Template
