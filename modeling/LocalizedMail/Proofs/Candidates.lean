import LocalizedMail.Proofs.Filing

/-!
# The lists of directories

The directories of a language come out of a table, or out of the language itself, with the region
put in front and repetitions left out; those of a chain are two such lists joined.  What holds of
every such list, whichever way it came about, is stated here once.

A text has directories exactly when it is written as a tag, its outer blanks apart.  The list then
begins with the canonical form of the tag, names no directory twice, and is closed: each of its
directories is a tag of the same language, in canonical form, that stands for directories of the
list only.

Main results:
  * `candidates_ne_nil_iff`: which texts have directories at all;
  * `lists_candidates`: the list of a tag;
  * `chain_joins`: the list of a chain;
  * `structure_of_candidates`: all of it, for every text and every default language.
-/

namespace LocalizedMail.Language

/-! ## §1. What a list of directories is like -/

/-- What holds of the directories of a language and a region, as they are written. -/
structure Lists (base : List Char) (region : Option (List Char)) (dirs : List String) : Prop where
  /-- The canonical form of the tag is tried first. -/
  first : dirs.head? = some (Tag.ofParts base region).directory
  /-- No directory is tried twice. -/
  nodup : dirs.Nodup
  /-- Every directory is a tag of the same language in canonical form. -/
  written : ∀ d ∈ dirs, ∃ region', Written d.toList (base.map Char.toLower) region' ∧
    d = (Tag.ofParts base region').directory
  /-- Every directory, taken for a language, is tried first. -/
  begins : ∀ d ∈ dirs, (candidates d).head? = some d
  /-- No directory, taken for a language, leads to another list. -/
  closed : ∀ d ∈ dirs, ∀ e ∈ candidates d, e ∈ dirs

/-- What holds of a chain of the directories of a requested and of a default language. -/
structure Chain.Joins (c : Chain) (dirs defaults : List String) : Prop where
  /-- The requested directories come first, all of them and in their order. -/
  requested : c.requested = dirs
  /-- Those of the default language follow in their order. -/
  fallback : c.fallback.Sublist defaults
  /-- No directory is tried twice. -/
  nodup : c.all.Nodup
  /-- No directory of either list is left out, and none is added. -/
  mem_all : ∀ d, d ∈ c.all ↔ d ∈ dirs ∨ d ∈ defaults

/-! ## §2. The directories of a tag -/

theorem Tag.nodup_directories (t : Tag) : t.directories.Nodup := by
  obtain ⟨base, region⟩ := t
  cases region with
  | none => exact nodup_distinct _
  | some r => exact nodup_distinct _

theorem nodup_candidates (lang : String) : (candidates lang).Nodup := by
  unfold candidates
  split
  next t ht => exact t.nodup_directories
  next => exact List.nodup_nil

theorem Written.spelled? {lang : String} {base : List Char} {region : Option (List Char)}
    (h : Written (Text.trim lang).toList base region) :
    Language.spelled? lang = some (Tag.ofParts base region) := by
  unfold Language.spelled? Tag.parse?
  exact h.parseChars?

/-- **A text has directories exactly when it is written as a tag**, its outer blanks apart. -/
theorem candidates_ne_nil_iff {lang : String} :
    candidates lang ≠ [] ↔ ∃ base region, Written (Text.trim lang).toList base region := by
  constructor
  · intro h
    cases hlang : spelled? lang with
    | none => exact absurd (candidates_of_spelled?_none hlang) h
    | some t =>
      unfold spelled? Tag.parse? at hlang
      obtain ⟨base, region, hwritten, -⟩ := exists_written_of_parseChars? hlang
      exact ⟨base, region, hwritten⟩
  · rintro ⟨base, region, h⟩ hnil
    have hhead := head?_directories (Tag.ofParts base region)
    rw [← candidates_of_spelled? h.spelled?, hnil] at hhead
    cases hhead

/-- **The directories of a tag**, in whatever case and with whatever joint it is written. -/
theorem lists_candidates {lang : String} {base : List Char} {region : Option (List Char)}
    (h : Written (Text.trim lang).toList base region) : Lists base region (candidates lang) := by
  have hdirs : candidates lang = (Tag.ofParts base region).directories :=
    candidates_of_spelled? h.spelled?
  refine ⟨?_, nodup_candidates lang, ?_, fun d hd => candidates_head hd,
    fun d hd e he => candidates_subset hd he⟩
  · rw [hdirs, head?_directories]
  · intro d hd
    rw [hdirs] at hd
    -- the directory is that of a canonical tag, whose base is the one that was written
    obtain ⟨u, hu, hbase, rfl⟩ := h.canonical.of_mem_directories hd
    have hlower : base.map Char.toLower = u.base := hbase.symm
    have hparts : Tag.ofParts base u.region = u := by
      calc Tag.ofParts base u.region
          _ = Tag.ofParts u.base u.region := by
            simp only [Tag.ofParts, hu.base.map_toLower, hlower]
          _ = u := hu.ofParts
    refine ⟨u.region, ?_, ?_⟩
    · rw [hlower]
      exact hu.written
    · rw [hparts]

/-! ## §3. The directories of a chain -/

/-- **A chain joins two lists**: nothing is left out, and nothing comes twice. -/
theorem chain_joins (lang defaultLang : String) :
    (Chain.of lang defaultLang).Joins (candidates lang) (candidates defaultLang) := by
  have hfallback : (Chain.of lang defaultLang).fallback.Sublist (candidates defaultLang) := by
    rw [Chain.fallback_of]
    exact List.filter_sublist
  refine ⟨Chain.requested_of lang defaultLang, hfallback, ?_, ?_⟩
  · unfold Chain.all
    rw [List.nodup_append, Chain.requested_of]
    refine ⟨nodup_candidates lang, hfallback.nodup (nodup_candidates defaultLang), ?_⟩
    rintro d hd e he rfl
    exact (mem_fallback.mp he).2 hd
  · intro d
    rw [mem_all, mem_fallback, Chain.requested_of]
    by_cases hd : d ∈ candidates lang
    · simp [hd]
    · simp [hd]

/-! ## §4. Every text and every default language -/

/-- **The structure of the lists of directories.**  A text has directories exactly when it is
written as a tag; the list of a tag begins with its canonical form, has no repetitions and is closed
under taking its directories for languages; and a chain tries each directory of its two languages
once, those of the requested language first. -/
theorem structure_of_candidates (lang : String) :
    (candidates lang ≠ [] ↔ ∃ base region, Written (Text.trim lang).toList base region) ∧
    (∀ base region, Written (Text.trim lang).toList base region →
      Lists base region (candidates lang)) ∧
    (∀ defaultLang, (Chain.of lang defaultLang).Joins (candidates lang) (candidates defaultLang)) :=
  ⟨candidates_ne_nil_iff, fun _ _ h => lists_candidates h, chain_joins lang⟩

/-- A tag of an unknown language, written with an underscore between blanks: the requested region
is the namesake region of the language, and comes once. -/
theorem structure_of_candidates_swedish :
    Lists ['S', 'V'] (some ['s', 'v']) (candidates " SV_sv\t") ∧
    candidates " SV_sv\t" = ["sv-SV", "sv"] := by
  have htrim : (Text.trim " SV_sv\t").toList = ['S', 'V'] ++ '_' :: ['s', 'v'] := by
    decide +kernel
  have hwritten : Written (Text.trim " SV_sv\t").toList ['S', 'V'] (some ['s', 'v']) := by
    rw [htrim]
    exact .regional rfl rfl rfl
  refine ⟨(structure_of_candidates " SV_sv\t").2.1 _ _ hwritten, ?_⟩
  decide +kernel

end LocalizedMail.Language
