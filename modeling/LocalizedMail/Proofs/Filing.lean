import LocalizedMail.Proofs.Lookup
import LocalizedMail.Template.Engine

/-!
# Where a text is filed and where it is looked for

A registration chooses one directory, a lookup goes through a list of them, and the two choose
separately.  They meet because both begin at the same place: whatever the spelling, the first
directory that a lookup tries is the canonical form of the language that the spelling means, and
that is also where a registration is filed.

There is one exception.  A text that is neither blank nor a tag is filed under the default language
*as it is spelled*, and a default language may be spelled in another way than its canonical form.
No lookup tries such a directory.

Main results:
  * `filedUnder_of_wellFormed`: a blank text and a tag are filed under the language they mean;
  * `languageOf_of_filedUnder`: what is filed under a canonical directory means its language;
  * `Store.load_of_entry` and `Subjects.resolve_of_entry`: what is filed under the language of a
    text is found first;
  * `Store.load_insert_unreachable`: what is filed under any other text is never found.
-/

namespace LocalizedMail.Language

/-! ## §1. The language of a text -/

/-- The tag that a text spells, its outer blanks apart. -/
def spelled? (lang : String) : Option Tag := Tag.parse? (Text.trim lang)

/-- The language of a text: the one it spells, or else the default. -/
def languageOf (lang defaultLang : String) : Option Tag :=
  (spelled? lang).or (spelled? defaultLang)

/-- Two texts of one language. -/
def SameLanguage (defaultLang a b : String) : Prop :=
  languageOf a defaultLang = languageOf b defaultLang

instance (defaultLang a b : String) : Decidable (SameLanguage defaultLang a b) :=
  inferInstanceAs (Decidable (_ = _))

/-- A text that says something about its language: it is blank, or it spells a tag. -/
def WellFormed (lang : String) : Prop := Text.isAllBlank lang ∨ isTag (Text.trim lang)

instance (lang : String) : Decidable (WellFormed lang) := inferInstanceAs (Decidable (_ ∨ _))

/-- Whether a text is a tag in canonical form. -/
def isCanonical (lang : String) : Bool := (Tag.parse? lang).any fun t => t.directory == lang

theorem isTag_trim (lang : String) : isTag (Text.trim lang) = (spelled? lang).isSome := rfl

theorem not_wellFormed_iff {lang : String} :
    ¬ WellFormed lang ↔ Text.isAllBlank lang = false ∧ spelled? lang = none := by
  unfold WellFormed
  rw [isTag_trim, not_or, Bool.not_eq_true, Bool.not_eq_true, Option.isSome_eq_false_iff,
    Option.isNone_iff_eq_none]

theorem isJoint_not_blank {c : Char} (h : isJoint c) : Text.isBlank c = false := by
  simp only [isJoint, Bool.or_eq_true, beq_iff_eq] at h
  rcases h with rfl | rfl
  · rfl
  · rfl

theorem isBase_not_blank {cs : List Char} (h : isBase cs) : ∀ c ∈ cs, Text.isBlank c = false := by
  simp only [isBase, Bool.and_eq_true, List.all_eq_true] at h
  intro c hc
  exact Text.isBlank_of_isAlphanum (Text.isAlphanum_of_isAlpha (h.2 c hc))

theorem isRegion_not_blank {cs : List Char} (h : isRegion cs) :
    ∀ c ∈ cs, Text.isBlank c = false := by
  simp only [isRegion, Bool.and_eq_true, List.all_eq_true] at h
  intro c hc
  exact Text.isBlank_of_isAlphanum (h.2 c hc)

/-- What is written as a tag has no blanks in it. -/
theorem Written.not_blank {cs base : List Char} {region : Option (List Char)}
    (h : Written cs base region) : ∀ c ∈ cs, Text.isBlank c = false := by
  intro c hc
  cases h with
  | bare hbase => exact isBase_not_blank hbase c hc
  | regional hbase hjoined hregion =>
    -- a character stands before the joint, is the joint, or stands after it
    rw [List.mem_append, List.mem_cons] at hc
    rcases hc with hc | rfl | hc
    · exact isBase_not_blank hbase c hc
    · exact isJoint_not_blank hjoined
    · exact isRegion_not_blank hregion c hc

/-- A tag has no blanks in it. -/
theorem not_blank_of_isTag {s : String} (h : isTag s) :
    ∀ c ∈ s.toList, Text.isBlank c = false := by
  obtain ⟨t, ht⟩ := Option.isSome_iff_exists.mp h
  obtain ⟨base, region, hwritten, -⟩ := exists_written_of_parseChars? ht
  exact hwritten.not_blank

/-- A tag spells itself. -/
theorem spelled?_of_isTag {s : String} (h : isTag s) : spelled? s = Tag.parse? s := by
  unfold spelled?
  rw [Text.trim_eq_self (not_blank_of_isTag h)]

/-- A blank text spells nothing. -/
theorem spelled?_of_isAllBlank {s : String} (h : Text.isAllBlank s) : spelled? s = none := by
  have hskip : s.toList.dropWhile Text.isBlank = [] :=
    List.dropWhile_eq_nil_iff.mpr (List.all_eq_true.mp h)
  have htrim : Text.trim s = "" := by
    unfold Text.trim Text.trimChars
    rw [hskip]
    rfl
  unfold spelled?
  rw [htrim]
  rfl

theorem not_isAllBlank_of_spelled? {s : String} {t : Tag} (h : spelled? s = some t) :
    Text.isAllBlank s = false := by
  by_contra hblank
  rw [spelled?_of_isAllBlank (by simpa using hblank)] at h
  cases h

/-- A canonical tag is known by its directory. -/
theorem Tag.Canonical.directory_injective {t u : Tag} (ht : t.Canonical) (hu : u.Canonical)
    (h : t.directory = u.directory) : t = u := by
  have hparse : some t = some u := by
    rw [← ht.parse?_directory, h, hu.parse?_directory]
  exact Option.some.inj hparse

theorem Tag.canonical_of_spelled? {s : String} {t : Tag} (h : spelled? s = some t) :
    t.Canonical := Tag.canonical_of_parse? h

/-- The directory of a canonical tag spells the tag. -/
theorem Tag.Canonical.spelled?_directory {t : Tag} (h : t.Canonical) :
    spelled? t.directory = some t := by
  unfold spelled?
  rw [Text.trim_eq_self h.not_blank, h.parse?_directory]

/-- Every text has a language, if the default language is a tag. -/
theorem exists_languageOf {defaultLang : String} (h : isTag defaultLang) (lang : String) :
    ∃ t : Tag, t.Canonical ∧ languageOf lang defaultLang = some t := by
  unfold languageOf
  cases hlang : spelled? lang with
  | some t => exact ⟨t, Tag.canonical_of_spelled? hlang, Option.some_or⟩
  | none =>
    obtain ⟨t, ht⟩ := Option.isSome_iff_exists.mp h
    rw [← spelled?_of_isTag h] at ht
    exact ⟨t, Tag.canonical_of_spelled? ht, by rw [Option.none_or, ht]⟩

/-- A text in canonical form is the directory of the tag that it spells. -/
theorem exists_directory_of_isCanonical {s : String} (h : isCanonical s) :
    ∃ t : Tag, spelled? s = some t ∧ t.directory = s := by
  simp only [isCanonical, Option.any_eq_true, beq_iff_eq] at h
  obtain ⟨t, ht, hdir⟩ := h
  refine ⟨t, ?_, hdir⟩
  rw [spelled?_of_isTag (by simp [isTag, ht]), ht]

theorem isCanonical_directory {t : Tag} (h : t.Canonical) : isCanonical t.directory := by
  simp [isCanonical, h.parse?_directory]

/-- A text is in canonical form exactly when it is the directory of a tag in canonical form. -/
theorem isCanonical_iff {s : String} :
    isCanonical s ↔ ∃ t : Tag, t.Canonical ∧ t.directory = s := by
  constructor
  · intro h
    obtain ⟨t, ht, hdir⟩ := exists_directory_of_isCanonical h
    exact ⟨t, Tag.canonical_of_spelled? ht, hdir⟩
  · rintro ⟨t, ht, rfl⟩
    exact isCanonical_directory ht

/-- Every directory of a text is in canonical form. -/
theorem isCanonical_of_mem_candidates {lang d : String} (h : d ∈ candidates lang) :
    isCanonical d := by
  obtain ⟨-, u, -, hu, -, rfl⟩ := exists_tag_of_directory h
  exact isCanonical_directory hu

/-! ## §2. Where a text is filed -/

theorem candidates_of_spelled? {lang : String} {t : Tag} (h : spelled? lang = some t) :
    candidates lang = t.directories := by
  unfold candidates
  rw [show Tag.parse? (Text.trim lang) = some t from h]

theorem candidates_of_spelled?_none {lang : String} (h : spelled? lang = none) :
    candidates lang = [] := by
  unfold candidates
  rw [show Tag.parse? (Text.trim lang) = none from h]

theorem orDefault_of_isAllBlank {lang : String} (h : Text.isAllBlank lang)
    (defaultLang : String) : orDefault lang defaultLang = defaultLang := if_pos h

theorem orDefault_of_not_isAllBlank {lang : String} (h : Text.isAllBlank lang = false)
    (defaultLang : String) : orDefault lang defaultLang = lang := if_neg (by simp [h])

/-- What is filed under a text that asks for a text of a tag goes to the directory of the tag. -/
theorem filedUnder_of_orDefault {lang defaultLang : String} {t : Tag}
    (h : spelled? (orDefault lang defaultLang) = some t) :
    filedUnder lang defaultLang = t.directory := by
  obtain ⟨ds, hds⟩ := List.head?_eq_some_iff.mp (head?_directories t)
  unfold filedUnder
  rw [candidates_of_spelled? h, hds]

/-- A text that is neither blank nor a tag is filed under the default language as it is spelled. -/
theorem filedUnder_of_malformed {lang : String} (h : ¬ WellFormed lang) (defaultLang : String) :
    filedUnder lang defaultLang = defaultLang := by
  obtain ⟨hblank, hspelled⟩ := not_wellFormed_iff.mp h
  unfold filedUnder
  rw [orDefault_of_not_isAllBlank hblank, candidates_of_spelled?_none hspelled]

/-- A blank text is of the default language. -/
theorem languageOf_of_isAllBlank {lang : String} (h : Text.isAllBlank lang)
    (defaultLang : String) : languageOf lang defaultLang = spelled? defaultLang := by
  unfold languageOf
  rw [spelled?_of_isAllBlank h, Option.none_or]

/-- A text that is neither blank nor a tag is of the default language. -/
theorem languageOf_of_malformed {lang : String} (h : ¬ WellFormed lang) (defaultLang : String) :
    languageOf lang defaultLang = spelled? defaultLang := by
  unfold languageOf
  rw [(not_wellFormed_iff.mp h).2, Option.none_or]

/-- **A blank text and a tag are filed under the language they mean.** -/
theorem filedUnder_of_wellFormed {lang defaultLang : String} {t : Tag} (hlang : WellFormed lang)
    (h : languageOf lang defaultLang = some t) : filedUnder lang defaultLang = t.directory := by
  apply filedUnder_of_orDefault
  rcases hlang with hblank | htag
  · rw [orDefault_of_isAllBlank hblank, ← languageOf_of_isAllBlank hblank, h]
  · obtain ⟨u, hu⟩ := Option.isSome_iff_exists.mp (isTag_trim lang ▸ htag)
    rw [orDefault_of_not_isAllBlank (not_isAllBlank_of_spelled? hu), hu]
    simpa only [languageOf, hu, Option.some_or] using h

/-- **What is filed under the directory of a tag is of its language.**  This includes what is filed
under the default language as it is spelled. -/
theorem languageOf_of_filedUnder {lang defaultLang : String} {t : Tag} (ht : t.Canonical)
    (hdefault : isTag defaultLang) (h : filedUnder lang defaultLang = t.directory) :
    languageOf lang defaultLang = some t := by
  unfold languageOf
  cases hlang : spelled? lang with
  | some u =>
    have hasked : spelled? (orDefault lang defaultLang) = some u := by
      rw [orDefault_of_not_isAllBlank (not_isAllBlank_of_spelled? hlang), hlang]
    rw [filedUnder_of_orDefault hasked] at h
    rw [Tag.Canonical.directory_injective (Tag.canonical_of_spelled? hlang) ht h, Option.some_or]
  | none =>
    rw [Option.none_or]
    -- both a blank text and a malformed one are of the default language, but only the blank one
    -- is filed under its canonical form
    by_cases hblank : Text.isAllBlank lang
    · obtain ⟨u, hu⟩ := Option.isSome_iff_exists.mp hdefault
      rw [← spelled?_of_isTag hdefault] at hu
      have hasked : spelled? (orDefault lang defaultLang) = some u := by
        rw [orDefault_of_isAllBlank hblank, hu]
      rw [filedUnder_of_orDefault hasked] at h
      rw [hu, Tag.Canonical.directory_injective (Tag.canonical_of_spelled? hu) ht h]
    · have hmalformed := not_wellFormed_iff.mpr ⟨by simpa using hblank, hlang⟩
      rw [filedUnder_of_malformed hmalformed] at h
      rw [h, ht.spelled?_directory]

/-! ## §3. Where a text is looked for -/

/-- The first directory of a chain: one of the requested ones, unless there are none. -/
inductive Chain.BeginsWith (c : Chain) (d : String) : Prop
  | requested (first : c.requested.head? = some d)
  | fallback (none_requested : c.requested = []) (first : c.fallback.head? = some d)

theorem Chain.requested_of (lang defaultLang : String) :
    (Chain.of lang defaultLang).requested = candidates lang := by
  simp only [Chain.of]

theorem Chain.fallback_of (lang defaultLang : String) :
    (Chain.of lang defaultLang).fallback
      = (candidates defaultLang).filter (fun d => !(candidates lang).contains d) := by
  simp only [Chain.of]

theorem Chain.BeginsWith.head?_all {c : Chain} {d : String} (h : c.BeginsWith d) :
    c.all.head? = some d := by
  cases h with
  | requested first => simp [Chain.all, List.head?_append, first]
  | fallback hnone first => simp [Chain.all, hnone, first]

/-- The chain of a text that spells a tag begins with the tag. -/
theorem Chain.BeginsWith.of_requested {lang defaultLang : String} {t : Tag}
    (h : spelled? lang = some t) : (Chain.of lang defaultLang).BeginsWith t.directory := by
  refine .requested ?_
  rw [Chain.requested_of, candidates_of_spelled? h, head?_directories]

/-- The chain of a text that spells nothing begins with the default language. -/
theorem Chain.BeginsWith.of_fallback {lang defaultLang : String} {t : Tag}
    (h : spelled? lang = none) (hdefault : spelled? defaultLang = some t) :
    (Chain.of lang defaultLang).BeginsWith t.directory := by
  have hnone : (Chain.of lang defaultLang).requested = [] := by
    rw [Chain.requested_of, candidates_of_spelled?_none h]
  have hfallback : (Chain.of lang defaultLang).fallback = candidates defaultLang := by
    rw [Chain.fallback_of, candidates_of_spelled?_none h]
    simp
  refine .fallback hnone ?_
  rw [hfallback, candidates_of_spelled? hdefault, head?_directories]

/-- **A lookup begins at the language of its text**, whatever the spelling. -/
theorem chain_beginsWith {lang defaultLang : String} {t : Tag}
    (h : languageOf lang defaultLang = some t) :
    (Chain.of (orDefault lang defaultLang) defaultLang).BeginsWith t.directory := by
  unfold languageOf at h
  cases hlang : spelled? lang with
  | some u =>
    rw [hlang, Option.some_or] at h
    rw [orDefault_of_not_isAllBlank (not_isAllBlank_of_spelled? hlang)]
    exact .of_requested (hlang.trans h)
  | none =>
    rw [hlang, Option.none_or] at h
    by_cases hblank : Text.isAllBlank lang
    · rw [orDefault_of_isAllBlank hblank]
      exact .of_requested h
    · rw [orDefault_of_not_isAllBlank (by simpa using hblank)]
      exact .of_fallback hlang h

/-- A lookup goes through canonical directories only. -/
theorem isCanonical_of_mem_all {lang defaultLang d : String}
    (h : d ∈ (Chain.of lang defaultLang).all) : isCanonical d := by
  rw [mem_all, mem_fallback, Chain.requested_of] at h
  rcases h with h | h
  · exact isCanonical_of_mem_candidates h
  · exact isCanonical_of_mem_candidates h.1

end LocalizedMail.Language

namespace LocalizedMail.Template

/-! ## §4. What is found first -/

namespace Store

/-- What is registered under the first of the directories is found, and nothing is kept. -/
theorem lookup_of_head (disk : FileTree) {s : Store} {name d body : String} {ds : List String}
    (hd : ds.head? = some d) (entry : s.memory.get? ⟨d, name⟩ = some body) :
    lookup disk s name ds = ⟨some body, s, [.served .memory]⟩ := by
  have hfirst : firstIn s.memory name ds = some (d, body) := by
    rw [firstIn_eq]
    exact firstText_of_head hd entry
  exact lookup_of_registered hfirst

/-- **What is registered under the language of a text is what a load for the text gives**, and the
load leaves the store alone. -/
theorem load_of_entry (disk : FileTree) {s : Store} {name lang body : String}
    {t : Language.Tag} (good : isName name = true)
    (hlang : Language.languageOf lang s.defaultLang = some t)
    (entry : s.memory.get? ⟨t.directory, name⟩ = some body) :
    (s.load disk name lang).result = .ok body ∧ (s.load disk name lang).state = s := by
  have hbegins : (s.chain lang).BeginsWith t.directory := Language.chain_beginsWith hlang
  cases hbegins with
  | requested first =>
    have hfound := lookup_of_head disk first entry
    obtain ⟨hresult, hstate⟩ := load_of_requested good (congrArg Step.result hfound)
    exact ⟨hresult, hstate.trans (congrArg Step.state hfound)⟩
  | fallback hnone first =>
    have hfound := lookup_of_head disk first entry
    have hmissed : (lookup disk s name (s.chain lang).requested).result = none := by
      rw [hnone]
      exact lookup_eq_none.mpr fun d hd => absurd hd List.not_mem_nil
    obtain ⟨hresult, hstate⟩ := load_of_fellBack good hmissed (congrArg Step.result hfound)
    exact ⟨hresult, hstate.trans (congrArg Step.state hfound)⟩

end Store

namespace Subjects

/-- **The line filed under the language of a text is the line for the text.** -/
theorem resolve_of_entry {s : Subjects} {name lang line : String} {t : Language.Tag}
    (hlang : Language.languageOf lang s.defaultLang = some t)
    (entry : s.lines.get? ⟨t.directory, name⟩ = some line) : s.resolve name lang = line := by
  obtain ⟨ds, hds⟩ :=
    List.head?_eq_some_iff.mp (Language.chain_beginsWith hlang).head?_all
  unfold resolve
  dsimp only
  rw [hds, List.findSome?_cons_of_isSome (by simp [entry])]
  simp [entry]

end Subjects

/-! ## §5. What is never found -/

/-- An entry under a directory that is not looked into changes no search. -/
theorem findSome?_insert_of_not_mem {α : Type} {t : Table Key String} {k : Key} (text : String)
    {ds : List String} (hk : k.directory ∉ ds) (name : String)
    (f : String → Option String → Option α) :
    (ds.findSome? fun d => f d ((t.insert k text).get? ⟨d, name⟩))
      = ds.findSome? fun d => f d (t.get? ⟨d, name⟩) := by
  induction ds with
  | nil => rfl
  | cons d ds ih =>
    obtain ⟨hd, hds⟩ := not_or.mp (List.mem_cons.not.mp hk)
    have hne : (⟨d, name⟩ : Key) ≠ k := by
      rintro rfl
      exact hd rfl
    rw [List.findSome?_cons, List.findSome?_cons, Table.get?_insert, if_neg hne, ih hds]

namespace Store

/-- What a search gives: the first hit of the first tier that has one. -/
theorem lookup_result_eq (disk : FileTree) (s : Store) (name : String) (ds : List String) :
    (lookup disk s name ds).result
      = ((firstIn s.memory name ds).or ((firstIn s.cache name ds).or
          (firstText (s.fileText? disk name) ds))).map Prod.snd := by
  have hspec := lookup_spec disk s name ds
  generalize lookup disk s name ds = step at hspec ⊢
  cases hspec with
  | registered hm => rw [hm]; rfl
  | cached hm hc => rw [hm, hc]; rfl
  | read hm hc hf => rw [hm, hc, hf]; rfl
  | missed hm hc hf => rw [hm, hc, hf]; rfl

/-- What a load of a template gives: what the requested directories have, or else the default
language's. -/
theorem load_result_eq (disk : FileTree) (s : Store) {name : String} (lang : String)
    (good : isName name = true) :
    (s.load disk name lang).result
      = match (lookup disk s name (s.chain lang).requested).result.or
          (lookup disk s name (s.chain lang).fallback).result with
        | some body => .ok body
        | none => .error (.notFound name (Language.orDefault lang s.defaultLang)) := by
  cases hfirst : (lookup disk s name (s.chain lang).requested).result with
  | some body => exact (load_of_requested good hfirst).1
  | none =>
    cases hsecond : (lookup disk s name (s.chain lang).fallback).result with
    | some body => exact (load_of_fellBack good hfirst hsecond).1
    | none => exact load_of_nowhere good hfirst hsecond

/-- **What is registered under a directory that is not in canonical form is never found.** -/
theorem load_insert_unreachable (disk : FileTree) (s : Store) {k : Key} (body name lang : String)
    (hk : Language.isCanonical k.directory = false) :
    ({ s with memory := s.memory.insert k body }.load disk name lang).result
      = (s.load disk name lang).result := by
  have hlookup : ∀ ds, (∀ d ∈ ds, d ∈ (s.chain lang).all) →
      (lookup disk { s with memory := s.memory.insert k body } name ds).result
        = (lookup disk s name ds).result := by
    intro ds hds
    -- a lookup goes through canonical directories only, and this one is not
    have hout : k.directory ∉ ds := by
      intro hin
      rw [Language.isCanonical_of_mem_all (hds _ hin)] at hk
      cases hk
    rw [lookup_result_eq, lookup_result_eq]
    unfold firstIn
    dsimp only
    rw [findSome?_insert_of_not_mem body hout name fun d text? => text?.map fun b => (d, b)]
    rfl
  cases hname : isName name with
  | false => rw [load_of_refused hname, load_of_refused hname]
  | true =>
    rw [load_result_eq disk _ lang hname, load_result_eq disk _ lang hname]
    have hchain : { s with memory := s.memory.insert k body }.chain lang = s.chain lang := rfl
    rw [hchain, hlookup _ fun d hd => Language.mem_all.mpr (Or.inl hd),
      hlookup _ fun d hd => Language.mem_all.mpr (Or.inr hd)]

end Store

/-- **A line that is filed under a directory not in canonical form is never the line for a
text.** -/
theorem Subjects.resolve_insert_unreachable (s : Subjects) {k : Key} (line name lang : String)
    (hk : Language.isCanonical k.directory = false) :
    { s with lines := s.lines.insert k line }.resolve name lang = s.resolve name lang := by
  have hout : k.directory ∉
      (Language.Chain.of (Language.orDefault lang s.defaultLang) s.defaultLang).all := by
    intro hin
    rw [Language.isCanonical_of_mem_all hin] at hk
    cases hk
  unfold Subjects.resolve
  dsimp only
  rw [findSome?_insert_of_not_mem line hout name fun _ line? => line?]

end LocalizedMail.Template
