import LocalizedMail.Language
import LocalizedMail.Proofs.Characters
import LocalizedMail.Proofs.Distinct
import Mathlib.Data.List.TakeWhile

/-!
# Canonical tags and their directories

Every directory that a language stands for is itself the canonical form of a tag of the same base.
Asking for a directory by its own name therefore tries that directory first, and never leaves the
directories of the language it came from.

Main results:
  * `Tag.parseChars?_eq_some_iff`: what is read as a tag, and as which one;
  * `Tag.canonical_of_parse?`: reading a text gives a canonical tag;
  * `Tag.Canonical.parse?_directory`: a canonical tag is read back from its directory;
  * `candidates_head` and `candidates_subset`: the closure of the directories of a language.
-/

namespace LocalizedMail.Language

/-! ## §1. Canonical tags -/

/-- Two or three lower-case letters. -/
def IsCanonicalBase (cs : List Char) : Prop :=
  2 ≤ cs.length ∧ cs.length ≤ 3 ∧ ∀ c ∈ cs, c.isLower

/-- Two to four capitals or digits. -/
def IsCanonicalRegion (cs : List Char) : Prop :=
  2 ≤ cs.length ∧ cs.length ≤ 4 ∧ ∀ c ∈ cs, Text.isCapital c

/-- A tag whose base and region are in canonical form. -/
structure Tag.Canonical (t : Tag) : Prop where
  base : IsCanonicalBase t.base
  region : ∀ r ∈ t.region, IsCanonicalRegion r

theorem isCanonicalBase_map {cs : List Char} (h : isBase cs) :
    IsCanonicalBase (cs.map Char.toLower) := by
  simp only [isBase, Bool.and_eq_true, decide_eq_true_eq, List.all_eq_true] at h
  obtain ⟨⟨h2, h3⟩, halpha⟩ := h
  refine ⟨by simpa using h2, by simpa using h3, ?_⟩
  intro c hc
  obtain ⟨d, hd, rfl⟩ := List.mem_map.mp hc
  exact Text.isLower_toLower (halpha d hd)

theorem isCanonicalRegion_map {cs : List Char} (h : isRegion cs) :
    IsCanonicalRegion (cs.map Char.toUpper) := by
  simp only [isRegion, Bool.and_eq_true, decide_eq_true_eq, List.all_eq_true] at h
  obtain ⟨⟨h2, h4⟩, halnum⟩ := h
  refine ⟨by simpa using h2, by simpa using h4, ?_⟩
  intro c hc
  obtain ⟨d, hd, rfl⟩ := List.mem_map.mp hc
  exact Text.isCapital_toUpper (halnum d hd)

/-! ## §2. How a tag is written -/

/-- Characters that are a tag, with the two parts that they give: a language, and perhaps a region
after a hyphen or an underscore. -/
inductive Written : List Char → List Char → Option (List Char) → Prop
  | bare {base : List Char} (language : isBase base) : Written base base none
  | regional {base region : List Char} {joint : Char} (language : isBase base)
      (joined : isJoint joint) (place : isRegion region) :
      Written (base ++ joint :: region) base (some region)

/-- The tag of a language and a region that are written in any case. -/
def Tag.ofParts (base : List Char) (region : Option (List Char)) : Tag :=
  ⟨base.map Char.toLower, region.map (List.map Char.toUpper)⟩

theorem isJoint_of_isAlphanum {c : Char} (h : c.isAlphanum) : isJoint c = false :=
  Text.alphanum_forall (P := fun c => isJoint c = false) (by decide +kernel) h

/-- No letter of a language ends it. -/
theorem not_isJoint_of_isBase {cs : List Char} (h : isBase cs) :
    ∀ c ∈ cs, (!isJoint c) = true := by
  simp only [isBase, Bool.and_eq_true, List.all_eq_true] at h
  intro c hc
  rw [isJoint_of_isAlphanum (Text.isAlphanum_of_isAlpha (h.2 c hc))]
  rfl

/-- A tag is read as the two parts it is written with. -/
theorem Written.parseChars? {cs base : List Char} {region : Option (List Char)}
    (h : Written cs base region) : Tag.parseChars? cs = some (Tag.ofParts base region) := by
  unfold Tag.parseChars?
  cases h with
  | bare hbase =>
    have hjoint := not_isJoint_of_isBase hbase
    have htake : cs.takeWhile (fun c => !isJoint c) = cs :=
      List.takeWhile_eq_self_iff.mpr hjoint
    have hdrop : cs.dropWhile (fun c => !isJoint c) = [] :=
      List.dropWhile_eq_nil_iff.mpr hjoint
    simp only [htake, hdrop, hbase, if_true]
    rfl
  | regional hbase hjoined hregion =>
    rename_i region joint
    have hjoint := not_isJoint_of_isBase hbase
    have htake : (base ++ joint :: region).takeWhile (fun c => !isJoint c) = base := by
      rw [List.takeWhile_append_of_pos hjoint, List.takeWhile_cons_of_neg (by simp [hjoined]),
        List.append_nil]
    have hdrop : (base ++ joint :: region).dropWhile (fun c => !isJoint c) = joint :: region := by
      rw [List.dropWhile_append_of_pos hjoint, List.dropWhile_cons_of_neg (by simp [hjoined])]
    simp only [htake, hdrop, hbase, hregion, Bool.and_self, if_true]
    rfl

/-- What is read as a tag is written as one. -/
theorem exists_written_of_parseChars? {cs : List Char} {t : Tag}
    (h : Tag.parseChars? cs = some t) :
    ∃ base region, Written cs base region ∧ t = Tag.ofParts base region := by
  unfold Tag.parseChars? at h
  dsimp only at h
  have hparts := List.takeWhile_append_dropWhile (p := fun c => !isJoint c) (l := cs)
  split at h
  next hrest =>
    -- no character is a joint: all of them are the language
    rw [hrest, List.append_nil] at hparts
    rw [hparts] at h
    split at h
    next hb => exact ⟨cs, none, .bare hb, (Option.some.inj h).symm⟩
    next => cases h
  next joint region hrest =>
    have hjoint := List.head_dropWhile_not (fun c => !isJoint c) (l := cs) (by simp [hrest])
    simp only [hrest, List.head_cons, Bool.not_eq_false'] at hjoint
    rw [hrest] at hparts
    split at h
    next hb =>
      rw [Bool.and_eq_true] at hb
      have hwritten := Written.regional hb.1 hjoint hb.2
      rw [hparts] at hwritten
      exact ⟨_, _, hwritten, (Option.some.inj h).symm⟩
    next => cases h

theorem Tag.parseChars?_eq_some_iff {cs : List Char} {t : Tag} :
    Tag.parseChars? cs = some t ↔
      ∃ base region, Written cs base region ∧ t = Tag.ofParts base region := by
  constructor
  · exact exists_written_of_parseChars?
  · rintro ⟨base, region, h, rfl⟩
    exact h.parseChars?

/-- The tag of a language and a region is in canonical form. -/
theorem Written.canonical {cs base : List Char} {region : Option (List Char)}
    (h : Written cs base region) : (Tag.ofParts base region).Canonical := by
  cases h with
  | bare hbase => exact ⟨isCanonicalBase_map hbase, fun r hr => by cases hr⟩
  | regional hbase hjoined hregion =>
    refine ⟨isCanonicalBase_map hbase, fun r hr => ?_⟩
    obtain rfl := Option.some.inj hr
    exact isCanonicalRegion_map hregion

/-- Reading a text gives a canonical tag. -/
theorem Tag.canonical_of_parse? {s : String} {t : Tag} (h : Tag.parse? s = some t) :
    t.Canonical := by
  obtain ⟨base, region, hwritten, rfl⟩ := exists_written_of_parseChars? h
  exact hwritten.canonical

/-! ## §3. Reading a directory back -/

theorem isAlphanum_of_isLower {c : Char} (h : c.isLower) : c.isAlphanum :=
  Text.isAlphanum_of_isAlpha (Text.isAlpha_of_isLower h)

theorem IsCanonicalBase.isBase {cs : List Char} (h : IsCanonicalBase cs) : isBase cs := by
  simp only [Language.isBase, Bool.and_eq_true, decide_eq_true_eq, List.all_eq_true]
  exact ⟨⟨h.1, h.2.1⟩, fun c hc => Text.isAlpha_of_isLower (h.2.2 c hc)⟩

theorem IsCanonicalRegion.isRegion {cs : List Char} (h : IsCanonicalRegion cs) :
    isRegion cs := by
  simp only [Language.isRegion, Bool.and_eq_true, decide_eq_true_eq, List.all_eq_true]
  exact ⟨⟨h.1, h.2.1⟩, fun c hc => Text.isAlphanum_of_isCapital (h.2.2 c hc)⟩

theorem IsCanonicalBase.map_toLower {cs : List Char} (h : IsCanonicalBase cs) :
    cs.map Char.toLower = cs := by
  have hsame : cs.map Char.toLower = cs.map id :=
    List.map_congr_left fun c hc => Text.toLower_of_isLower (h.2.2 c hc)
  rw [hsame, List.map_id]

theorem IsCanonicalRegion.map_toUpper {cs : List Char} (h : IsCanonicalRegion cs) :
    cs.map Char.toUpper = cs := by
  have hsame : cs.map Char.toUpper = cs.map id :=
    List.map_congr_left fun c hc => Text.toUpper_of_isCapital (h.2.2 c hc)
  rw [hsame, List.map_id]

/-- A directory is written with the parts of its tag. -/
theorem Tag.Canonical.written {t : Tag} (h : t.Canonical) :
    Written t.directory.toList t.base t.region := by
  obtain ⟨base, region⟩ := t
  have hbase : IsCanonicalBase base := h.base
  cases region with
  | none =>
    simp only [Tag.directory, String.toList_ofList]
    exact .bare hbase.isBase
  | some r =>
    have hr : IsCanonicalRegion r := h.region r rfl
    simp only [Tag.directory, Language.regional, String.toList_ofList]
    exact .regional hbase.isBase rfl hr.isRegion

/-- The parts of a canonical tag are in the case that the tag has. -/
theorem Tag.Canonical.ofParts {t : Tag} (h : t.Canonical) : Tag.ofParts t.base t.region = t := by
  obtain ⟨base, region⟩ := t
  have hbase : base.map Char.toLower = base := h.base.map_toLower
  cases region with
  | none => simp only [Tag.ofParts, hbase, Option.map_none]
  | some r =>
    have hr : r.map Char.toUpper = r := (h.region r rfl).map_toUpper
    simp only [Tag.ofParts, hbase, hr, Option.map_some]

/-- A canonical tag is read back from its directory. -/
theorem Tag.Canonical.parse?_directory {t : Tag} (h : t.Canonical) :
    Tag.parse? t.directory = some t := by
  have hread : Tag.parse? t.directory = some (Tag.ofParts t.base t.region) := h.written.parseChars?
  rw [hread, h.ofParts]

/-- The characters of a canonical directory are letters, digits and a hyphen. -/
theorem Tag.Canonical.mem_directory {t : Tag} (h : t.Canonical) {c : Char}
    (hc : c ∈ t.directory.toList) : c.isAlphanum ∨ c = '-' := by
  obtain ⟨base, region⟩ := t
  have hbase : ∀ d ∈ base, d.isAlphanum := fun d hd => isAlphanum_of_isLower (h.base.2.2 d hd)
  cases region with
  | none =>
    simp only [Tag.directory, String.toList_ofList] at hc
    exact Or.inl (hbase c hc)
  | some r =>
    simp only [Tag.directory, regional, String.toList_ofList, List.mem_append,
      List.mem_cons] at hc
    rcases hc with hc | hc | hc
    · exact Or.inl (hbase c hc)
    · exact Or.inr hc
    · exact Or.inl (Text.isAlphanum_of_isCapital ((h.region r rfl).2.2 c hc))

theorem Tag.Canonical.toList_directory_ne_nil {t : Tag} (h : t.Canonical) :
    t.directory.toList ≠ [] := by
  obtain ⟨base, region⟩ := t
  obtain ⟨c, cs, rfl⟩ : ∃ c cs, base = c :: cs :=
    List.exists_cons_of_length_pos (Nat.lt_of_lt_of_le Nat.two_pos h.base.1)
  cases region with
  | none => simp [Tag.directory]
  | some r => simp [Tag.directory, regional]

theorem Tag.Canonical.not_blank {t : Tag} (h : t.Canonical) :
    ∀ c ∈ t.directory.toList, Text.isBlank c = false := by
  intro c hc
  rcases h.mem_directory hc with hc | rfl
  · exact Text.isBlank_of_isAlphanum hc
  · rfl

/-! ## §4. The directories of a tag -/

/-- Whether the directories of a known language begin with the language, and each is the canonical
form of a tag of that language. -/
def wellListed (e : String × List String) : Bool :=
  e.2.head? == some e.1 && e.2.all fun d =>
    (Tag.parse? d).any fun t => String.ofList t.base == e.1 && t.directory == d

theorem knownDirectories_wellListed : ∀ e ∈ knownDirectories, wellListed e := by
  decide +kernel

/-- The directories of a bare language begin with the language itself. -/
theorem head?_baseDirectories (base : List Char) :
    (baseDirectories base).head? = some (String.ofList base) := by
  unfold baseDirectories
  split
  next dirs hdirs =>
    have hlisted := knownDirectories_wellListed _ (mem_of_lookup hdirs)
    simp only [wellListed, Bool.and_eq_true, beq_iff_eq] at hlisted
    exact hlisted.1
  next => rfl

/-- Every directory of a bare language is the canonical form of a tag of that language. -/
theorem canonical_of_mem_baseDirectories {base : List Char} (hbase : IsCanonicalBase base)
    {d : String} (hd : d ∈ baseDirectories base) :
    ∃ t : Tag, t.Canonical ∧ t.base = base ∧ t.directory = d := by
  unfold baseDirectories at hd
  split at hd
  next dirs hdirs =>
    have hlisted := knownDirectories_wellListed _ (mem_of_lookup hdirs)
    simp only [wellListed, Bool.and_eq_true, beq_iff_eq, List.all_eq_true, Option.any_eq_true]
      at hlisted
    obtain ⟨t, ht, hb, hdir⟩ := hlisted.2 d hd
    exact ⟨t, Tag.canonical_of_parse? ht, String.ofList_injective hb, hdir⟩
  next =>
    simp only [List.mem_cons, List.not_mem_nil, or_false] at hd
    rcases hd with rfl | rfl
    · exact ⟨⟨base, none⟩, ⟨hbase, fun r hr => by cases hr⟩, rfl, rfl⟩
    · refine ⟨⟨base, some (base.map Char.toUpper)⟩, ⟨hbase, fun r hr => ?_⟩, rfl, rfl⟩
      obtain rfl := Option.some.inj hr
      have halnum : base.all Char.isAlphanum :=
        List.all_eq_true.mpr fun c hc => isAlphanum_of_isLower (hbase.2.2 c hc)
      refine isCanonicalRegion_map ?_
      simp only [isRegion, halnum, Bool.and_true, Bool.and_eq_true, decide_eq_true_eq]
      exact ⟨hbase.1, Nat.le_succ_of_le hbase.2.1⟩

/-- The directories of a tag are its own and those of its base. -/
theorem mem_directories {t : Tag} {d : String} :
    d ∈ t.directories ↔ d = t.directory ∨ d ∈ baseDirectories t.base := by
  obtain ⟨base, region⟩ := t
  cases region with
  | none =>
    have hself : String.ofList base ∈ baseDirectories base :=
      List.mem_of_head? (head?_baseDirectories base)
    simp only [Tag.directories, mem_distinct, Tag.directory]
    constructor
    · exact Or.inr
    · rintro (rfl | hd)
      · exact hself
      · exact hd
  | some r => simp only [Tag.directories, mem_distinct, List.mem_cons]

/-- The directories of a tag begin with its own. -/
theorem head?_directories (t : Tag) : t.directories.head? = some t.directory := by
  obtain ⟨base, region⟩ := t
  cases region with
  | none => simp only [Tag.directories, head?_distinct, head?_baseDirectories, Tag.directory]
  | some r => simp only [Tag.directories, head?_distinct, List.head?_cons]

/-- Every directory of a canonical tag is the canonical form of a tag of the same base. -/
theorem Tag.Canonical.of_mem_directories {t : Tag} (h : t.Canonical) {d : String}
    (hd : d ∈ t.directories) : ∃ u : Tag, u.Canonical ∧ u.base = t.base ∧ u.directory = d := by
  rcases mem_directories.mp hd with rfl | hd
  · exact ⟨t, h, rfl, rfl⟩
  · exact canonical_of_mem_baseDirectories h.base hd

/-! ## §5. The directories of a text -/

/-- A canonical tag stands for its own directories when it is written as it is. -/
theorem Tag.Canonical.candidates_directory {t : Tag} (h : t.Canonical) :
    candidates t.directory = t.directories := by
  unfold candidates
  rw [Text.trim_eq_self h.not_blank, h.parse?_directory]

/-- A text that stands for a directory is read as a canonical tag. -/
theorem exists_tag_of_mem_candidates {lang d : String} (h : d ∈ candidates lang) :
    ∃ t : Tag, t.Canonical ∧ candidates lang = t.directories := by
  unfold candidates at h ⊢
  split at h
  next t ht => exact ⟨t, Tag.canonical_of_parse? ht, rfl⟩
  next => cases h

/-- A directory of a language, taken for a language, is canonical and of the same base. -/
theorem exists_tag_of_directory {lang d : String} (h : d ∈ candidates lang) :
    ∃ t u : Tag, candidates lang = t.directories ∧ u.Canonical ∧ u.base = t.base ∧
      u.directory = d := by
  obtain ⟨t, ht, hlang⟩ := exists_tag_of_mem_candidates h
  rw [hlang] at h
  obtain ⟨u, hu, hbase, hdir⟩ := ht.of_mem_directories h
  exact ⟨t, u, hlang, hu, hbase, hdir⟩

/-- A directory, taken for a language, is tried first. -/
theorem candidates_head {lang d : String} (h : d ∈ candidates lang) :
    (candidates d).head? = some d := by
  obtain ⟨t, u, -, hu, -, rfl⟩ := exists_tag_of_directory h
  rw [hu.candidates_directory, head?_directories]

/-- A directory, taken for a language, does not lead out of the directories it came from. -/
theorem candidates_subset {lang d x : String} (h : d ∈ candidates lang)
    (hx : x ∈ candidates d) : x ∈ candidates lang := by
  obtain ⟨t, u, hlang, hu, hbase, rfl⟩ := exists_tag_of_directory h
  rw [hu.candidates_directory, mem_directories, hbase] at hx
  rcases hx with rfl | hx
  · exact h
  · rw [hlang]
    exact mem_directories.mpr (Or.inr hx)

/-- A directory is no blank text. -/
theorem isAllBlank_of_mem_candidates {lang d : String} (h : d ∈ candidates lang) :
    Text.isAllBlank d = false := by
  obtain ⟨-, u, -, hu, -, rfl⟩ := exists_tag_of_directory h
  unfold Text.isAllBlank
  rw [List.all_eq_false]
  obtain ⟨c, hc⟩ := List.exists_mem_of_ne_nil _ hu.toList_directory_ne_nil
  exact ⟨c, hc, by simp [hu.not_blank c hc]⟩

/-- A directory asks for itself, not for the default language. -/
theorem orDefault_of_mem_candidates {lang d : String} (h : d ∈ candidates lang)
    (defaultLang : String) : orDefault d defaultLang = d := by
  simp only [orDefault, isAllBlank_of_mem_candidates h, Bool.false_eq_true, if_false]

/-! ## §6. The directories of a chain -/

theorem mem_fallback {lang defaultLang d : String} :
    d ∈ (Chain.of lang defaultLang).fallback ↔
      d ∈ candidates defaultLang ∧ d ∉ candidates lang := by
  simp [Chain.of, List.mem_filter]

theorem mem_all {c : Chain} {d : String} : d ∈ c.all ↔ d ∈ c.requested ∨ d ∈ c.fallback :=
  List.mem_append

end LocalizedMail.Language
