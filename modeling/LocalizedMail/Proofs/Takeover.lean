import LocalizedMail.Proofs.Gathering
import LocalizedMail.Proofs.Tables

/-!
# Documents of subject lines are taken over whole

A document of subject lines is looked at twice: in the first pass all of its names are checked, in
the second its lines are registered one after the other, and each of those registrations checks its
name again.  This file says that the second check never decides anything, so that a document leaves
its subject lines as they were or is taken over with all it has, whatever the order in which the
second pass goes through it.

What is taken over is filed under the directory of a language.  That directory is looked into
unless the language is neither blank nor a tag and the default language, which then stands in for
it, is not spelled in canonical form.

Main results:
  * `Language.isCanonical_filedUnder`: where what is filed is found;
  * `Subjects.registerEach_of_perm`: the order of the second pass shows in no lookup;
  * `Subjects.loadDocument_cases`: what loading a document comes to;
  * `Subjects.loadDocument_atomic`: a document leaves everything as it was, or is taken over whole;
  * `Subjects.loadDocument_lost`: a document that is taken over and whose line is never found.
-/

namespace LocalizedMail

/-! ## §1. Where what is filed is found -/

namespace Language

theorem Tag.canonical_of_languageOf {lang defaultLang : String} {t : Tag}
    (h : languageOf lang defaultLang = some t) : t.Canonical := by
  rcases Option.or_eq_some_iff.mp h with hlang | ⟨-, hdefault⟩
  · exact Tag.canonical_of_spelled? hlang
  · exact Tag.canonical_of_spelled? hdefault

/-- A language under which texts are found again: a tag, a blank text if the default language is a
tag, or any text if the default language is spelled in canonical form. -/
def Findable (lang defaultLang : String) : Prop :=
  isTag (Text.trim lang) ∨ (Text.isAllBlank lang ∧ isTag (Text.trim defaultLang)) ∨
    isCanonical defaultLang

/-- What is filed under such a language goes to the directory of the tag that the language means. -/
theorem Findable.exists_tag {lang defaultLang : String} (h : Findable lang defaultLang) :
    ∃ t : Tag, languageOf lang defaultLang = some t ∧
      filedUnder lang defaultLang = t.directory := by
  -- a tag and a blank text mean a tag, and what they mean is where they are filed
  have hmeant : ∀ t : Tag, WellFormed lang → languageOf lang defaultLang = some t →
      ∃ t : Tag, languageOf lang defaultLang = some t ∧ filedUnder lang defaultLang = t.directory :=
    fun t hwell hlang => ⟨t, hlang, filedUnder_of_wellFormed hwell hlang⟩
  rcases h with htag | ⟨hblank, htag⟩ | hcanonical
  · obtain ⟨t, ht⟩ := Option.isSome_iff_exists.mp (isTag_trim lang ▸ htag)
    refine hmeant t (Or.inr htag) ?_
    rw [languageOf, ht, Option.some_or]
  · obtain ⟨t, ht⟩ := Option.isSome_iff_exists.mp (isTag_trim defaultLang ▸ htag)
    refine hmeant t (Or.inl hblank) ?_
    rw [languageOf_of_isAllBlank hblank, ht]
  · obtain ⟨t, ht, hdir⟩ := exists_directory_of_isCanonical hcanonical
    by_cases hwell : WellFormed lang
    · refine hmeant ((spelled? lang).getD t) hwell ?_
      unfold languageOf
      rw [ht]
      cases spelled? lang with
      | some u => rfl
      | none => rfl
    · refine ⟨t, ?_, ?_⟩
      · rw [languageOf_of_malformed hwell, ht]
      · rw [filedUnder_of_malformed hwell, hdir]

/-- What is filed under any other language goes to the default language as it is spelled. -/
theorem filedUnder_of_not_findable {lang defaultLang : String}
    (h : ¬ Findable lang defaultLang) : filedUnder lang defaultLang = defaultLang := by
  obtain ⟨hlang, hrest⟩ := not_or.mp h
  obtain ⟨hblank, -⟩ := not_or.mp hrest
  by_cases hb : Text.isAllBlank lang
  · have hnone : spelled? defaultLang = none := by
      have hdefault : ¬ isTag (Text.trim defaultLang) = true := fun htag => hblank ⟨hb, htag⟩
      simpa [isTag_trim] using hdefault
    unfold filedUnder
    rw [orDefault_of_isAllBlank hb, candidates_of_spelled?_none hnone]
  · exact filedUnder_of_malformed (not_or.mpr ⟨hb, hlang⟩) defaultLang

/-- **Texts are filed in a directory that is looked into** exactly under those languages. -/
theorem isCanonical_filedUnder {lang defaultLang : String} :
    isCanonical (filedUnder lang defaultLang) ↔ Findable lang defaultLang := by
  constructor
  · intro h
    by_contra hlost
    rw [filedUnder_of_not_findable hlost] at h
    exact hlost (Or.inr (Or.inr h))
  · intro h
    obtain ⟨t, hlang, hdir⟩ := h.exists_tag
    rw [hdir]
    exact isCanonical_directory (Tag.canonical_of_languageOf hlang)

end Language

namespace Template.Subjects

/-! ## §2. What a document says -/

/-- A file at a path is readable and holds an object of texts: the names and lines of a document, in
the order in which they stand. -/
def Holds (disk : FileTree) (path : String) (fields : List (String × String)) : Prop :=
  ∃ text, disk.readText path = .ok text ∧ Json.readTextFields text = .ok fields

/-- All names of a document may name a template. -/
def NamesGood (fields : List (String × String)) : Prop := ∀ f ∈ fields, isName f.1 = true

/-- The line that a document gives for a name: the last one. -/
def lastLine? (fields : List (String × String)) (name : String) : Option String :=
  fields.reverse.lookup name

theorem readDocument_of_holds {disk : FileTree} {path : String}
    {fields : List (String × String)} (h : Holds disk path fields) :
    readDocument disk path = .ok (Table.ofList fields) := by
  obtain ⟨text, htext, hfields⟩ := h
  unfold readDocument
  rw [htext]
  dsimp only
  rw [hfields]

theorem exists_holds_of_readDocument {disk : FileTree} {path : String}
    {entries : Table String String} (h : readDocument disk path = .ok entries) :
    ∃ fields, Holds disk path fields ∧ entries = Table.ofList fields := by
  unfold readDocument at h
  cases htext : disk.readText path with
  | error fault => rw [htext] at h; cases h
  | ok text =>
    rw [htext] at h
    dsimp only at h
    cases hfields : Json.readTextFields text with
    | error fault => rw [hfields] at h; cases h
    | ok fields =>
      rw [hfields] at h
      exact ⟨fields, ⟨text, htext, hfields⟩, (Except.ok.inj h).symm⟩

/-- The first pass lets a document through exactly when all its names are good. -/
theorem badName?_ofList (pass : Pass) {fields : List (String × String)} :
    badName? (pass.order (Table.ofList fields).entries) = none ↔ NamesGood fields := by
  rw [badName?, List.find?_eq_none]
  unfold NamesGood
  constructor
  · intro h f hf
    have hkey := Table.mem_keys_ofList.mpr (List.mem_map_of_mem hf)
    simpa using h f.1 ((mem_names_order pass).mpr hkey)
  · intro h name hname
    obtain ⟨f, hf, rfl⟩ := List.mem_map.mp (Table.mem_keys_ofList.mp ((mem_names_order pass).mp hname))
    simpa using h f hf

/-! ## §3. The second pass -/

/-- **The order of the second pass shows in no lookup**, and in no order does it fail. -/
theorem registerEach_of_perm {es order : List (String × String)} (h : order.Perm es)
    (hnodup : (es.map Prod.fst).Nodup) (good : NamesGood es) (s : Subjects) (lang : String) :
    (s.registerEach lang order).result = .ok () ∧
      ∀ k, (s.registerEach lang order).state.lines.get? k
        = (s.putAll lang es).lines.get? k := by
  have good' : ∀ e ∈ order, isName e.1 = true := fun e he => good e (h.mem_iff.mp he)
  have hnodup' : (order.map Prod.fst).Nodup := (h.map Prod.fst).nodup_iff.mpr hnodup
  rw [registerEach_of_names good']
  refine ⟨rfl, fun k => ?_⟩
  rw [get?_putAll hnodup', get?_putAll hnodup, lookup_of_perm h hnodup]

/-- Lines that are filed in a directory that is not looked into are the line for no text. -/
theorem resolve_putAll_unreachable {lang : String} (s : Subjects)
    (h : Language.isCanonical (Language.filedUnder lang s.defaultLang) = false)
    (es : List (String × String)) (name spelling : String) :
    (s.putAll lang es).resolve name spelling = s.resolve name spelling := by
  induction es generalizing s with
  | nil => rfl
  | cons e es ih =>
    have hput : (s.put e.1 e.2 lang).defaultLang = s.defaultLang := rfl
    have hrest := ih (s.put e.1 e.2 lang) (by rw [hput]; exact h)
    have hfirst : (s.put e.1 e.2 lang).resolve name spelling = s.resolve name spelling := by
      unfold put
      generalize Language.filedUnder lang s.defaultLang = d at h ⊢
      exact s.resolve_insert_unreachable e.2 name spelling h
    exact hrest.trans hfirst

/-! ## §4. All or nothing -/

/-- The second subject lines are the first with a document taken over under a language. -/
structure TakenOver (s s' : Subjects) (lang : String) (fields : List (String × String)) :
    Prop where
  defaultLang : s'.defaultLang = s.defaultLang
  /-- Every name of the document has its last line. -/
  filed : ∀ name line, lastLine? fields name = some line →
    s'.lines.get? ⟨Language.filedUnder lang s.defaultLang, name⟩ = some line
  /-- No entry of another language or of another name has changed. -/
  kept : ∀ k : Key, k.directory ≠ Language.filedUnder lang s.defaultLang ∨
    k.name ∉ fields.map Prod.fst → s'.lines.get? k = s.lines.get? k
  /-- Every name of the document has its last line for the language, if texts are found again. -/
  found : Language.Findable lang s.defaultLang → ∀ name line,
    lastLine? fields name = some line → s'.resolve name lang = line
  /-- If they are not, nothing of the document is ever found. -/
  lost : ¬ Language.Findable lang s.defaultLang → ∀ name spelling,
    s'.resolve name spelling = s.resolve name spelling

/-- A document has a line exactly for its names. -/
theorem lastLine?_isSome_iff {fields : List (String × String)} {name : String} :
    (lastLine? fields name).isSome ↔ name ∈ fields.map Prod.fst := by
  unfold lastLine?
  rw [← Table.get?_ofList, Table.get?_isSome_iff, Table.mem_keys_ofList]

/-- Filing the entries of a document takes it over, in any order. -/
theorem takenOver_putAll (s : Subjects) (lang : String) (fields : List (String × String))
    (pass : Pass) :
    TakenOver s (s.putAll lang (pass.order (Table.ofList fields).entries)) lang fields := by
  have hperm := pass.perm (Table.ofList fields).entries
  generalize pass.order (Table.ofList fields).entries = order at hperm
  have hdefault := s.defaultLang_putAll lang order
  have hget := get?_putAll
    ((hperm.map Prod.fst).nodup_iff.mpr (Table.ofList fields).nodup) s lang
  have hlast : ∀ name, order.lookup name = lastLine? fields name := fun name =>
    (lookup_of_perm hperm (Table.ofList fields).nodup name).trans (Table.get?_ofList fields name)
  have hfiled : ∀ name line, lastLine? fields name = some line →
      (s.putAll lang order).lines.get? ⟨Language.filedUnder lang s.defaultLang, name⟩
        = some line := by
    intro name line hline
    rw [hget, if_pos rfl, hlast, hline, Option.some_or]
  refine ⟨hdefault, hfiled, ?_, ?_, ?_⟩
  · rintro k (hdirectory | hname)
    · rw [hget, if_neg (Ne.symm hdirectory)]
    · have hnone : lastLine? fields k.name = none := by
        rw [← lastLine?_isSome_iff] at hname
        simpa using hname
      rw [hget, hlast, hnone, Option.none_or, ite_self]
  · intro findable name line hline
    obtain ⟨t, hlang, hdir⟩ := findable.exists_tag
    have hentry := hfiled name line hline
    rw [hdir] at hentry
    exact resolve_of_entry (by rw [hdefault, hlang]) hentry
  · intro lost name spelling
    have hout : Language.isCanonical (Language.filedUnder lang s.defaultLang) = false := by
      rw [← Language.isCanonical_filedUnder] at lost
      simpa using lost
    exact s.resolve_putAll_unreachable hout _ name spelling

/-- **What loading a document comes to**: a fault, or all of its lines. -/
theorem loadDocument_cases (disk : FileTree) (s : Subjects) (lang path : String) (pass : Pass) :
    (∃ fault, s.loadDocument disk lang path pass = ⟨.error fault, s, []⟩ ∧
      ¬ ∃ fields, Holds disk path fields ∧ NamesGood fields) ∨
    (∃ fields, Holds disk path fields ∧ NamesGood fields ∧
      let entries := Table.ofList fields
      s.loadDocument disk lang path pass
        = ⟨.ok entries.size, s.putAll lang (pass.order entries.entries),
            [.subjectsRead lang path entries.size]⟩) := by
  rw [loadDocument_eq_putAll]
  cases hread : readDocument disk path with
  | error fault =>
    refine Or.inl ⟨fault, rfl, ?_⟩
    rintro ⟨fields, hholds, -⟩
    rw [readDocument_of_holds hholds] at hread
    cases hread
  | ok entries =>
    obtain ⟨fields, hholds, rfl⟩ := exists_holds_of_readDocument hread
    dsimp only
    cases hbad : badName? (pass.order (Table.ofList fields).entries) with
    | none => exact Or.inr ⟨fields, hholds, (badName?_ofList pass).mp hbad, rfl⟩
    | some name =>
      refine Or.inl ⟨.invalidName name, rfl, ?_⟩
      rintro ⟨fields', hholds', hgood⟩
      -- a file has one text, so the good names would be those of the same document
      rw [readDocument_of_holds hholds'] at hread
      rw [← Except.ok.inj hread, (badName?_ofList pass).mpr hgood] at hbad
      cases hbad

/-- **A document is taken over whole or not at all**, in whatever order its entries are gone
through.  If loading it fails, for whatever reason, all subject lines are as before, and the reason
is that no readable file with an object of texts is there or that a name in it is no good.  If
loading it gives a number, that is the number of different names in the document, the document is
taken over, and going through its entries in another order would have done the same. -/
theorem loadDocument_atomic (disk : FileTree) (s : Subjects) (lang path : String) (pass : Pass) :
    let step := s.loadDocument disk lang path pass
    (∀ fault, step.result = .error fault →
      step.state = s ∧ ¬ ∃ fields, Holds disk path fields ∧ NamesGood fields) ∧
    (∀ n, step.result = .ok n →
      ∃ fields, Holds disk path fields ∧ NamesGood fields ∧
        n = (distinct (fields.map Prod.fst)).length ∧ TakenOver s step.state lang fields ∧
        ∀ order, order.Perm (Table.ofList fields).entries →
          (s.registerEach lang order).result = .ok () ∧
          ∀ k, (s.registerEach lang order).state.lines.get? k = step.state.lines.get? k) := by
  intro step
  have hstep : step = s.loadDocument disk lang path pass := rfl
  rcases s.loadDocument_cases disk lang path pass with
    ⟨fault, hload, hnone⟩ | ⟨fields, hholds, hgood, hload⟩
  · rw [hstep, hload]
    constructor
    · intro fault' _
      exact ⟨rfl, hnone⟩
    · intro n hn
      cases hn
  · rw [hstep, hload]
    constructor
    · intro fault hfault
      cases hfault
    · intro n hn
      obtain rfl := Except.ok.inj hn
      have hperm := pass.perm (Table.ofList fields).entries
      have hgoodPass : NamesGood (pass.order (Table.ofList fields).entries) := fun e he =>
        hgood e (Table.mem_of_mem_ofList (hperm.mem_iff.mp he))
      refine ⟨fields, hholds, hgood, Table.size_ofList fields, s.takenOver_putAll lang fields pass,
        fun order horder => ?_⟩
      exact registerEach_of_perm (horder.trans hperm.symm)
        ((hperm.map Prod.fst).nodup_iff.mpr (Table.ofList fields).nodup) hgoodPass s lang

/-- A document with one subject line. -/
def oneLine : FileTree :=
  .directory [("s.json", .file (.text "\x7b\"w\": \"Hi\"\x7d"))]

/-- The document is loaded where the default language is `EN`. -/
def loadOneLine (lang : String) : Step (Except Fault Nat) Subjects :=
  (plainEngine "EN").subjects.loadDocument oneLine lang "s.json"

/-- **A document is taken over and its line is never found.**  An engine is accepted with `EN` as
its default language.  Under two question marks the document is taken over, but the name gets the
line that it would get without it; under a blank text it gets the line of the document. -/
theorem loadDocument_lost :
    Engine.create { root := "templates", defaultLang := "EN" } "2025" = .ok (plainEngine "EN") ∧
      Holds oneLine "s.json" [("w", "Hi")] ∧
      (loadOneLine "??").result = .ok 1 ∧ (loadOneLine "??").state.resolve "w" "??" = "W" ∧
      (loadOneLine "").result = .ok 1 ∧ (loadOneLine "").state.resolve "w" "??" = "Hi" := by
  refine ⟨create_plainEngine (by decide), ⟨_, rfl, ?_⟩, ?_, ?_, ?_, ?_⟩
  · decide +kernel
  · decide +kernel
  · decide +kernel
  · decide +kernel
  · decide +kernel

end Template.Subjects

end LocalizedMail
