import LocalizedMail.Proofs.Documents
import LocalizedMail.Proofs.Presence
import LocalizedMail.Proofs.Variables

/-!
# Default values that are read twice

The default values of placeholders are found twice: once in the merged settings, where names are in
lower case and dotted names are paths, and once in each source on its own, where the case of the
placeholders is kept.  The second reading is the one that counts, and it is the stricter one: it
knows the section and the table in it by their plain names only, and of the names of variables only
their prefix.

  * `hasDefault_iff_reread`: what the second reading finds, for all sources;
  * `has_merged_iff`: what the first one finds, where everything that concerns a key is spelled
    plainly (`Direct`, `DirectVariable`);
  * `hasDefault_iff`: both, and that they agree there;
  * `load_spelled_loses_default`: where the section is spelled otherwise, they do not.
-/

namespace LocalizedMail

namespace Settings

open Placeholder (isIdentifier)
open Value (has PartsFrom)

/-! ## §1. Values that were read -/

/-- Whether a value was read from a document. -/
def Value.IsRead (v : Value) : Prop := ∃ origin j, Json.Tidy j ∧ v = .ofJson origin j

theorem Value.ofFields_eq_map (origin : Option String) (fields : List (String × Json)) :
    Value.ofFields origin fields = fields.map fun f => (f.1, .ofJson origin f.2) := by
  induction fields with
  | nil => rw [ofFields, List.map_nil]
  | cons f fields ih => rw [ofFields, ih, List.map_cons]

/-- The entries of a table that was read have names of their own and were read, too. -/
theorem Value.IsRead.entries {v : Value} (h : v.IsRead) :
    (v.entries.map Prod.fst).Nodup ∧ ∀ e ∈ v.entries, e.2.IsRead := by
  obtain ⟨origin, j, htidy, rfl⟩ := h
  cases htidy with
  | @object fields hordered htidy =>
    rw [ofJson, Value.entries, ofFields_eq_map]
    constructor
    · rw [List.map_map]
      exact hordered.imp String.ne_of_lt
    · intro e he
      obtain ⟨f, hf, rfl⟩ := List.mem_map.1 he
      exact ⟨origin, f.2, htidy f hf, rfl⟩
  | whole n =>
    rw [ofJson]
    split <;> exact ⟨List.nodup_nil, fun e he => absurd he List.not_mem_nil⟩
  | _ =>
    rw [ofJson]
    exact ⟨List.nodup_nil, fun e he => absurd he List.not_mem_nil⟩

/-- A document is read as a table. -/
theorem Document.isRead {d : Document} {es : List (String × Value)} (h : d.entries = .ok es) :
    ∃ o, (Value.table o es).IsRead := by
  unfold Document.entries at h
  split at h
  · cases h
  · next j hj =>
    split at h
    · next o es' hv =>
      cases h
      exact ⟨o, d.name, j, Json.tidy_of_read hj, hv.symm⟩
    · cases h

/-- What a name leads to; it is empty if nothing is there. -/
def Value.under (v : Value) (name : String) : Value := (v.entry? name).getD (.nothing none)

/-- A name in lower case leads to the entry of that name. -/
theorem Value.under_of_mem {v : Value} (h : (v.entries.map Prod.fst).Nodup) {e : String × Value}
    (he : e ∈ v.entries) (hlower : Text.toLowerCase e.1 = e.1) : v.under e.1 = e.2 := by
  unfold under entry?
  rw [hlower, lookup_of_mem h he]
  rfl

/-- What has entries is an entry itself. -/
theorem Value.mem_of_mem_under {v : Value} {name : String} {e : String × Value}
    (he : e ∈ (v.under name).entries) : (Text.toLowerCase name, v.under name) ∈ v.entries := by
  unfold under entry? at he ⊢
  cases hlookup : v.entries.lookup (Text.toLowerCase name) with
  | none =>
    rw [hlookup] at he
    cases he
  | some w => exact mem_of_lookup hlookup

/-! ## §2. The second reading -/

/-- The names of the default values in a document, as they are written. -/
def defaultNames (es : List (String × Value)) : List String :=
  (((Value.table none es).under "templates").under "defaults").entries.map Prod.fst

theorem names_plainTexts {es : List (String × Value)} {texts : List (String × String)}
    (h : plainTexts es = .ok texts) : texts.map Prod.fst = es.map Prod.fst := by
  induction es generalizing texts with
  | nil =>
    cases h
    rfl
  | cons e es ih =>
    obtain ⟨s, hs, h⟩ := bind_eq_ok.1 h
    obtain ⟨more, hmore, h⟩ := bind_eq_ok.1 h
    obtain rfl : (e.1, s) :: more = texts := Except.ok.inj h
    rw [List.map_cons, List.map_cons, ih hmore]

theorem asTable_eq_ok {v : Value} {es : List (String × Value)} :
    v.asTable = .ok es ↔ ∃ o, v = .table o es := by
  cases v <;> simp [Value.asTable]

/-- A document from which default values can be read holds them in a table. -/
theorem names_documentDefaults {es : List (String × Value)} {texts : List (String × String)}
    (h : documentDefaults es = .ok texts) :
    texts.map Prod.fst = defaultNames es ∧
      ∀ templates, es.lookup "templates" = some templates →
        ∀ defaults, templates.entries.lookup "defaults" = some defaults →
          ∃ o ds, defaults = .table o ds := by
  unfold documentDefaults at h
  unfold defaultNames Value.under Value.entry?
  rw [toLowerCase_templates, toLowerCase_defaults]
  show _ = (((((es.lookup "templates").getD _).entries.lookup "defaults").getD _).entries.map _) ∧ _
  cases htemplates : es.lookup "templates" with
  | none =>
    rw [htemplates] at h
    cases h
    exact ⟨rfl, by simp⟩
  | some templates =>
    rw [htemplates] at h
    obtain ⟨ts, hts, hbelow⟩ := bind_eq_ok.1 h
    obtain ⟨o, rfl⟩ := asTable_eq_ok.1 hts
    simp only [Option.getD_some, Value.entries, Option.some.injEq, forall_eq']
    cases hdefaults : ts.lookup "defaults" with
    | none =>
      rw [hdefaults] at hbelow
      cases hbelow
      exact ⟨rfl, by simp⟩
    | some defaults =>
      rw [hdefaults] at hbelow
      obtain ⟨ds, hds, htexts⟩ := bind_eq_ok.1 hbelow
      obtain ⟨o', rfl⟩ := asTable_eq_ok.1 hds
      refine ⟨names_plainTexts htexts, fun _ heq => ?_⟩
      cases heq
      exact ⟨o', ds, rfl⟩

/-- Whether settings have a default value for a key, in letters of either case. -/
def HasDefault (s : Settings) (key : String) : Prop :=
  ∃ name ∈ s.templates.defaults.keys, Text.toLowerCase name = Text.toLowerCase key

instance {key : String} {s : Settings} : Decidable (s.HasDefault key) :=
  inferInstanceAs (Decidable (∃ name ∈ s.templates.defaults.keys, _))

/-- Whether a document names a key among the default values. -/
def NamesDefault (es : List (String × Value)) (key : String) : Prop :=
  ∃ name ∈ defaultNames es, Text.toLowerCase name = Text.toLowerCase key

/-- Whether a variable names a key after the prefix of default values. -/
def VariableNames (name key : String) : Prop :=
  ∃ placeholder, placeholderName? name = some placeholder ∧
    Text.toLowerCase placeholder = Text.toLowerCase key

/-- What the second reading finds in all documents. -/
theorem mem_documentDefaults {layers : List (List (String × Value))}
    {found : List (List (String × String))} (h : layers.mapM documentDefaults = .ok found)
    (key : String) :
    (∃ name ∈ found.flatten.map Prod.fst, Text.toLowerCase name = Text.toLowerCase key)
      ↔ ∃ es ∈ layers, NamesDefault es key := by
  obtain ⟨hlayers, htexts⟩ := mem_mapM h
  constructor
  · rintro ⟨_, hname, hkey⟩
    obtain ⟨t, ht, rfl⟩ := List.mem_map.1 hname
    obtain ⟨texts, hmem, ht⟩ := List.mem_flatten.1 ht
    obtain ⟨es, hes, hread⟩ := htexts texts hmem
    exact ⟨es, hes, t.1, (names_documentDefaults hread).1 ▸ List.mem_map_of_mem ht, hkey⟩
  · rintro ⟨es, hes, name, hname, hkey⟩
    obtain ⟨texts, hmem, hread⟩ := hlayers es hes
    rw [← (names_documentDefaults hread).1] at hname
    obtain ⟨t, ht, rfl⟩ := List.mem_map.1 hname
    exact ⟨t.1, List.mem_map_of_mem (List.mem_flatten.2 ⟨texts, hmem, ht⟩), hkey⟩

/-- What the second reading finds in the environment. -/
theorem mem_environmentDefaults (environment : Table String String) (key : String) :
    (∃ name ∈ (environmentDefaults environment).map Prod.fst,
        Text.toLowerCase name = Text.toLowerCase key)
      ↔ ∃ name ∈ environment.keys, VariableNames name key := by
  simp only [environmentDefaults, VariableNames, Table.keys, List.mem_map, List.mem_filterMap,
    Option.map_eq_some_iff]
  constructor
  · rintro ⟨_, ⟨_, ⟨e, he, placeholder, hplaceholder, rfl⟩, rfl⟩, hkey⟩
    exact ⟨e.1, ⟨e, he, rfl⟩, placeholder, hplaceholder, hkey⟩
  · rintro ⟨_, ⟨e, he, rfl⟩, placeholder, hplaceholder, hkey⟩
    exact ⟨placeholder, ⟨_, ⟨e, he, placeholder, hplaceholder, rfl⟩, rfl⟩, hkey⟩

/-- What the second reading finds in all sources. -/
theorem mem_placeholderDefaults {layers : List (List (String × Value))}
    {environment : Table String String} {defaults : Table String String}
    (h : placeholderDefaults layers environment = .ok defaults) (key : String) :
    (∃ name ∈ defaults.keys, Text.toLowerCase name = Text.toLowerCase key) ↔
      (∃ es ∈ layers, NamesDefault es key) ∨ ∃ name ∈ environment.keys, VariableNames name key := by
  obtain ⟨found, hfound, hdefaults⟩ := bind_eq_ok.1 h
  obtain rfl := Except.ok.inj hdefaults
  rw [← mem_documentDefaults hfound, ← mem_environmentDefaults]
  simp only [Table.mem_keys_ofList, List.map_append, List.mem_append, or_and_right, exists_or]

/-- **What decides whether there is a default value**: the plainly named tables of the documents and
the names of the variables after their prefix, and nothing else. -/
theorem hasDefault_iff_reread {documents : List Document} {environment : Table String String}
    {s : Settings} (h : Settings.load documents environment = .ok s) (key : String) :
    s.HasDefault key ↔
      (∃ d ∈ documents, ∃ es, d.entries = .ok es ∧ NamesDefault es key) ∨
        ∃ name ∈ environment.keys, VariableNames name key := by
  obtain ⟨layers, read, defaults, hlayers, -, hdefaults, rfl⟩ := load_eq_ok_iff.1 h
  obtain ⟨hdocuments, hentries⟩ := mem_mapM hlayers
  refine (mem_placeholderDefaults hdefaults key).trans (or_congr_left ⟨?_, ?_⟩)
  · rintro ⟨es, hes, hnames⟩
    obtain ⟨d, hd, hread⟩ := hentries es hes
    exact ⟨d, hd, es, hread, hnames⟩
  · rintro ⟨d, hd, es, hread, hnames⟩
    obtain ⟨es', hes', hread'⟩ := hdocuments d hd
    obtain rfl : es' = es := Except.ok.inj (hread'.symm.trans hread)
    exact ⟨es', hes', hnames⟩

/-! ## §3. The first reading -/

/-- The path of a default value in merged settings. -/
def keyPath (key : String) : List String := ["templates", "defaults", Text.toLowerCase key]

/-- Whether the merged settings of all sources hold an entry for a key among the default values. -/
def Configured (documents : List Document) (environment : Table String String) (key : String) :
    Prop :=
  ∃ layers, documents.mapM Document.entries = .ok layers ∧
    has (keyPath key) (merged layers environment)

theorem configured_iff {documents : List Document} {environment : Table String String}
    {key : String} :
    Configured documents environment key ↔
      (documents.mapM Document.entries).toOption.any fun layers =>
        has (keyPath key) (merged layers environment) := by
  unfold Configured
  cases documents.mapM Document.entries <;> simp [Except.toOption]

instance {documents : List Document} {environment : Table String String} {key : String} :
    Decidable (Configured documents environment key) :=
  decidable_of_iff _ configured_iff.symm

/-- An entry of a document that leads to a default value plainly if at all. -/
inductive Direct (key : String) : String × Value → Prop
  /-- it leads elsewhere -/
  | elsewhere {name : String} {value : Value} (h : PartsFrom (pathOf name) (keyPath key)) :
    Direct key (name, value)
  /-- it is a section, and what is called its default values is called so in the same letters, the
  section itself too -/
  | plain {name x : String} {o : Option String} {es : List (String × Value)}
    (hpath : pathOf name = [.entry x])
    (h : ∀ f ∈ es, Text.toLowerCase f.1 = "defaults" → f.1 = "defaults" ∧ name = "templates") :
    Direct key (name, .table o es)

/-- Whether a setting is the default value of a key. -/
def LeadsTo (setting key : String) : Prop :=
  ∃ names : List String, pathOf setting = names.map .entry ∧
    names.map Text.toLowerCase = keyPath key

theorem LeadsTo.not_partsFrom {setting key : String} (h : LeadsTo setting key) :
    ¬PartsFrom (pathOf setting) (keyPath key) := by
  obtain ⟨names, hpath, hnames⟩ := h
  rw [hpath, ← hnames]
  exact Value.not_partsFrom_self names

/-- A variable that is a default value plainly if at all. -/
inductive DirectVariable (key name : String) : Prop
  /-- it is another setting -/
  | elsewhere (hname : ¬VariableNames name key)
    (h : ∀ setting, settingName? name = some setting → PartsFrom (pathOf setting) (keyPath key))
  /-- it is the setting of the key -/
  | plain {setting : String} (hname : VariableNames name key)
    (hsetting : settingName? name = some setting) (hpath : LeadsTo setting key)

/-- Whether an entry is a section whose default values are spelled plainly. -/
def isPlainSection (e : String × Value) : Bool :=
  match pathOf e.1, e.2 with
  | [.entry _], .table _ es =>
    es.all fun f => Text.toLowerCase f.1 = "defaults" → f.1 = "defaults" ∧ e.1 = "templates"
  | _, _ => false

theorem direct_of_isPlainSection {key : String} {e : String × Value} (h : isPlainSection e) :
    Direct key e := by
  unfold isPlainSection at h
  split at h
  · next x o es hpath hvalue =>
    obtain ⟨name, value⟩ := e
    obtain rfl : value = .table o es := hvalue
    exact .plain hpath fun f hf => of_decide_eq_true (List.all_eq_true.1 h f hf)
  · cases h

theorem pathOf_templates : pathOf "templates" = [.entry "templates"] := by decide +kernel

/-- An entry of the section on templates adds the keys that it has if it is the plainly named table
of default values, and nothing otherwise. -/
theorem has_put_section {f : String × Value}
    (hplain : Text.toLowerCase f.1 = "defaults" → f.1 = "defaults")
    (htable : f.1 = "defaults" → ∃ o ds, f.2 = .table o ds) (key : String) (v : Value) :
    has ["defaults", key] (Value.put f.1 v f.2) ↔
      has ["defaults", key] v ∨
        f.1 = "defaults" ∧ ∃ g ∈ f.2.entries, Text.toLowerCase g.1 = key := by
  by_cases hname : f.1 = "defaults"
  · obtain ⟨o, ds, hvalue⟩ := htable hname
    have hkeys := Value.has_put_table ds (List.cons_ne_nil key [])
      (fun g _ v => Value.has_put_last key g v) o "defaults" v
    rw [toLowerCase_defaults] at hkeys
    rw [hvalue, hname, hkeys, Value.entries]
    simp
  · rw [Value.has_put_of_ne fun hlower => hname (hplain hlower)]
    simp [hname]

/-- Whether an entry of a document is the plainly named section with the plainly named table in
which a key has a default value. -/
def EntryNames (key : String) (e : String × Value) : Prop :=
  e.1 = "templates" ∧ ∃ f ∈ e.2.entries, f.1 = "defaults" ∧
    ∃ g ∈ f.2.entries, Text.toLowerCase g.1 = Text.toLowerCase key

/-- A plain entry of a document adds the keys that are named plainly in it. -/
theorem has_setNamed_of_direct {key : String} {e : String × Value} (h : Direct key e)
    (htable : e.1 = "templates" → ∀ f ∈ e.2.entries, f.1 = "defaults" → ∃ o ds, f.2 = .table o ds)
    (v : Value) :
    has (keyPath key) (v.setNamed e.1 e.2) ↔ has (keyPath key) v ∨ EntryNames key e := by
  cases h with
  | @elsewhere name value hparts =>
    have hnot : ¬EntryNames key (name, value) := by
      rintro ⟨hname, -⟩
      obtain rfl : name = "templates" := hname
      rw [pathOf_templates] at hparts
      exact (hparts.resolve_right id) toLowerCase_templates
    unfold Value.setNamed
    rw [Value.has_setAt_of_parts hparts, or_iff_left hnot]
  | @plain name x o es hpath hplain =>
    have hlower : ∀ f : String × Value, f.1 = "defaults" → Text.toLowerCase f.1 = "defaults" := by
      intro f hname
      rw [hname, toLowerCase_defaults]
    have hentry : (∃ f ∈ es, f.1 = "defaults" ∧
        ∃ g ∈ f.2.entries, Text.toLowerCase g.1 = Text.toLowerCase key)
          ↔ EntryNames key (name, .table o es) := by
      constructor
      · rintro ⟨f, hf, hname, hkey⟩
        exact ⟨(hplain f hf (hlower f hname)).2, f, hf, hname, hkey⟩
      · exact fun hnames => hnames.2
    have hset : v.setNamed name (.table o es) = Value.put x v (.table o es) := by
      unfold Value.setNamed
      rw [hpath, Value.setAt]
    rw [hset, ← hentry]
    by_cases hx : Text.toLowerCase x = "templates"
    · have hsection := Value.has_put_table es
        (List.cons_ne_nil "defaults" [Text.toLowerCase key])
        (fun f hf v => has_put_section (fun hcase => (hplain f hf hcase).1)
          (fun hname => htable (hplain f hf (hlower f hname)).2 f hf hname) _ v) o x v
      rw [hx] at hsection
      exact hsection
    · unfold keyPath
      rw [Value.has_put_of_ne hx, or_iff_left]
      rw [hentry]
      rintro ⟨hname, -⟩
      obtain rfl : name = "templates" := hname
      rw [pathOf_templates] at hpath
      cases hpath
      exact hx toLowerCase_templates

/-- In a document, the plainly named table of the plainly named section is where the two names
lead. -/
theorem entryNames_iff_namesDefault {key : String} {es : List (String × Value)}
    {o : Option String} (hread : (Value.table o es).IsRead) :
    (∃ e ∈ es, EntryNames key e) ↔ NamesDefault es key := by
  obtain ⟨hnodup, hbelow⟩ := hread.entries
  unfold NamesDefault defaultNames EntryNames
  constructor
  · rintro ⟨⟨_, section'⟩, he, rfl, ⟨_, defaults⟩, hf, rfl, g, hg, hkey⟩
    have hsection := Value.under_of_mem (v := .table none es) hnodup he toLowerCase_templates
    have hdefaults := Value.under_of_mem (hbelow _ he).entries.1 hf toLowerCase_defaults
    rw [hsection, hdefaults]
    exact ⟨g.1, List.mem_map_of_mem hg, hkey⟩
  · rintro ⟨_, hname, hkey⟩
    obtain ⟨g, hg, rfl⟩ := List.mem_map.1 hname
    have hf := Value.mem_of_mem_under hg
    have he := Value.mem_of_mem_under hf
    rw [toLowerCase_defaults] at hf
    rw [toLowerCase_templates] at he
    exact ⟨_, he, rfl, _, hf, rfl, g, hg, hkey⟩

/-- A plain document adds the keys that the second reading finds in it. -/
theorem has_overlay_document {key : String} {es : List (String × Value)} {o : Option String}
    {texts : List (String × String)} (hread : (Value.table o es).IsRead)
    (htexts : documentDefaults es = .ok texts) (h : ∀ e ∈ es, Direct key e) (v : Value) :
    has (keyPath key) (v.overlay es) ↔ has (keyPath key) v ∨ NamesDefault es key := by
  rw [← entryNames_iff_namesDefault hread]
  refine Value.has_overlay (fun e he v => has_setNamed_of_direct (h e he) ?_ v) v
  -- what the second reading takes for a table is one
  obtain ⟨hnodup, hbelow⟩ := hread.entries
  intro hname f hf hname'
  have htemplates : es.lookup "templates" = some e.2 := hname ▸ lookup_of_mem hnodup he
  have htable : e.2.entries.lookup "defaults" = some f.2 :=
    hname' ▸ lookup_of_mem (hbelow e he).entries.1 hf
  exact (names_documentDefaults htexts).2 _ htemplates _ htable

/-- Among plain variables, those that are the setting of a key are those that have it after their
prefix. -/
theorem leadsTo_iff_variableNames {key : String} {environment : Table String String}
    (h : ∀ name ∈ environment.keys, DirectVariable key name) :
    (∃ e ∈ (environmentLayer environment).entries, LeadsTo e.1 key)
      ↔ ∃ name ∈ environment.keys, VariableNames name key := by
  constructor
  · rintro ⟨e, he, hleads⟩
    obtain ⟨name, hname, hsetting⟩ := isSet_iff.2 (List.mem_map_of_mem he)
    cases h name hname with
    | elsewhere _ hparts => exact absurd (hparts e.1 hsetting) hleads.not_partsFrom
    | plain hnamed _ _ => exact ⟨name, hname, hnamed⟩
  · rintro ⟨name, hname, hnamed⟩
    cases h name hname with
    | elsewhere hnot _ => exact absurd hnamed hnot
    | plain _ hsetting hleads =>
      obtain ⟨e, he, rfl⟩ := List.mem_map.1 (isSet_iff.1 ⟨name, hname, hsetting⟩)
      exact ⟨e, he, hleads⟩

/-- Plain variables add the keys that they have after their prefix. -/
theorem has_overlay_environment {key : String} {environment : Table String String}
    (h : ∀ name ∈ environment.keys, DirectVariable key name) (v : Value) :
    has (keyPath key) (v.overlay (environmentLayer environment).entries)
      ↔ has (keyPath key) v ∨ ∃ name ∈ environment.keys, VariableNames name key := by
  rw [← leadsTo_iff_variableNames h]
  refine Value.has_overlay (fun e he v => ?_) v
  obtain ⟨name, hname, hsetting⟩ := isSet_iff.2 (List.mem_map_of_mem he)
  unfold Value.setNamed
  cases h name hname with
  | elsewhere _ hparts =>
    have hparts := hparts e.1 hsetting
    rw [Value.has_setAt_of_parts hparts, or_iff_left fun hleads => hleads.not_partsFrom hparts]
  | @plain setting _ hsetting' hleads =>
    obtain rfl : setting = e.1 := Option.some.inj (hsetting'.symm.trans hsetting)
    obtain ⟨names, hpath, hnames⟩ := hleads
    have hset := Value.has_setAt_of_isSingle
      (isSingle_of_mem_environmentLayer environment e he) names v
    rw [← hpath, hnames] at hset
    exact iff_of_true hset (.inr ⟨names, hpath, hnames⟩)

/-- **What the merged settings hold for a key**, where everything that concerns it is plain, is what
the second reading finds. -/
theorem has_merged_iff {documents : List Document} {layers : List (List (String × Value))}
    {environment : Table String String} {defaults : Table String String} {key : String}
    (hlayers : documents.mapM Document.entries = .ok layers)
    (hdefaults : placeholderDefaults layers environment = .ok defaults)
    (hdocuments : ∀ es ∈ layers, ∀ e ∈ es, Direct key e)
    (hvariables : ∀ name ∈ environment.keys, DirectVariable key name) :
    has (keyPath key) (merged layers environment) ↔
      (∃ es ∈ layers, NamesDefault es key) ∨
        ∃ name ∈ environment.keys, VariableNames name key := by
  obtain ⟨found, hfound, -⟩ := bind_eq_ok.1 hdefaults
  have hbase : ¬has (keyPath key) (mergeLayers []) := by
    rw [mergeLayers_nil]
    exact Bool.false_ne_true
  have hstep : ∀ es ∈ layers, ∀ v,
      has (keyPath key) (Value.overlay v es) ↔ has (keyPath key) v ∨ NamesDefault es key := by
    intro es hes v
    obtain ⟨d, -, hentries⟩ := (mem_mapM hlayers).2 es hes
    obtain ⟨texts, -, htexts⟩ := (mem_mapM hfound).1 es hes
    obtain ⟨o, hread⟩ := d.isRead hentries
    exact has_overlay_document hread htexts (hdocuments es hes) v
  rw [merged_eq, has_overlay_environment hvariables]
  refine or_congr_left ((foldl_adds (fun v => has (keyPath key) v) hstep _).trans ?_)
  exact or_iff_right hbase

/-! ## §4. The variable of a plain name -/

theorem dotUnderscores_of_not_mem {cs : List Char} (h : '.' ∉ dotUnderscores cs) :
    dotUnderscores cs = cs := by
  fun_induction dotUnderscores cs with
  | case1 rest ih => exact absurd List.mem_cons_self h
  | case2 c rest hnot ih => rw [ih fun hmem => h (List.mem_cons_of_mem c hmem)]
  | case3 => rfl

/-- A name without double underscores is one segment. -/
theorem segments_of_isPlain {name : String} (hname : isIdentifier name) (h : IsPlain name) :
    segments name = [Text.toLowerCase name] := by
  have hdot : '.' ∉ dottedKey name := by
    intro hmem
    obtain ⟨before, after, hcut, hnew⟩ := List.eq_append_cons_of_mem hmem
    unfold IsPlain segments at h
    rw [hcut, List.splitOn_append_cons_self_of_not_mem hnew, List.length_map, List.length_cons,
      Nat.succ_inj, List.length_eq_zero_iff] at h
    exact List.splitOn_ne_nil '.' after h
  have hascii : ∀ c ∈ name.toList, c.toNat < 128 := fun c hc =>
    toNat_lt_of_isInner ((Placeholder.inner_of_isIdentifierChars hname).2 c hc)
  have hone : (dottedKey name).splitOn '.' = [dottedKey name] :=
    List.splitOnP_eq_singleton fun c hc => by
      simpa using fun heq : c = '.' => hdot (heq ▸ hc)
  unfold segments
  rw [hone, List.map_singleton, Text.toLowerCase_of_ascii hascii]
  unfold dottedKey at hdot ⊢
  rw [dotUnderscores_of_not_mem hdot]

/-- The variable of a placeholder whose name has no double underscores is plain. -/
theorem directVariable_defaultVariable {name : String} (hname : isIdentifier name)
    (h : IsPlain name) (key : String) : DirectVariable key (defaultVariable name) := by
  have hnamed := placeholderName?_defaultVariable hname
  have hsetting := settingName?_defaultVariable hname
  have hpath := pathOf_defaultSetting hname
  have hlower := toLowerCase_defaultPath hname
  have hnames : defaultPath name = keyPath name := by
    unfold defaultPath keyPath
    rw [if_neg (not_mem_segments_of_length_eq_one hname h), segments_of_isPlain hname h]
  rw [hnames] at hpath hlower
  by_cases hsame : Text.toLowerCase name = Text.toLowerCase key
  · have hkey : keyPath name = keyPath key := by
      unfold keyPath
      rw [hsame]
    exact .plain ⟨name, hnamed, hsame⟩ hsetting ⟨_, hpath, hlower.trans hkey⟩
  · refine .elsewhere ?_ fun setting hsetting' => ?_
    · rintro ⟨name', hnamed', hsame'⟩
      obtain rfl : name = name' := Option.some.inj (hnamed.symm.trans hnamed')
      exact hsame hsame'
    · obtain rfl : defaultSetting name = setting := Option.some.inj (hsetting.symm.trans hsetting')
      rw [hpath]
      have hlast : Text.toLowerCase (Text.toLowerCase name) ≠ Text.toLowerCase key := by
        have hlower' := (List.cons.inj (List.cons.inj (List.cons.inj hlower).2).2).1
        rwa [hlower']
      exact .inr (.inr (.inl hlast))

/-! ## §5. Both readings -/

/-- **The two readings of default values.**  Settings that can be read have a default value for a
key exactly if some document names it in the plainly named table of the plainly named section, or
some variable after the plain prefix.  The merged settings hold an entry for the key under the same
condition, provided that everything that concerns the key is spelled plainly. -/
theorem hasDefault_iff {documents : List Document} {environment : Table String String}
    {s : Settings} (h : Settings.load documents environment = .ok s) (key : String) :
    (s.HasDefault key ↔
      (∃ d ∈ documents, ∃ es, d.entries = .ok es ∧ NamesDefault es key) ∨
        ∃ name ∈ environment.keys, VariableNames name key) ∧
    ((∀ d ∈ documents, ∀ es, d.entries = .ok es → ∀ e ∈ es, Direct key e) →
      (∀ name ∈ environment.keys, DirectVariable key name) →
      (s.HasDefault key ↔ Configured documents environment key)) := by
  refine ⟨hasDefault_iff_reread h key, fun hdocuments hvariables => ?_⟩
  obtain ⟨layers, read, defaults, hlayers, -, hdefaults, rfl⟩ := load_eq_ok_iff.1 h
  have hdirect : ∀ es ∈ layers, ∀ e ∈ es, Direct key e := by
    intro es hes
    obtain ⟨d, hd, hentries⟩ := (mem_mapM hlayers).2 es hes
    exact hdocuments d hd es hentries
  have hmerged := has_merged_iff hlayers hdefaults hdirect hvariables
  refine (mem_placeholderDefaults hdefaults key).trans (hmerged.symm.trans ?_)
  constructor
  · exact fun hhas => ⟨layers, hlayers, hhas⟩
  · rintro ⟨layers', hlayers', hhas⟩
    obtain rfl : layers' = layers := Except.ok.inj (hlayers'.symm.trans hlayers)
    exact hhas

/-- A document that gives `APP_NAME` a default value, its section and table spelled plainly. -/
def plainDocument : Document where
  text := "\x7b\"templates\": \x7b\"defaults\": \x7b\"APP_NAME\": \"Acme\"\x7d\x7d\x7d"

/-- The same with another spelling of the section. -/
def capitalDocument : Document where
  text := "\x7b\"Templates\": \x7b\"defaults\": \x7b\"APP_NAME\": \"Acme\"\x7d\x7d\x7d"

/-- The same with a dotted name. -/
def dottedDocument : Document where
  text := "\x7b\"templates.defaults\": \x7b\"APP_NAME\": \"Acme\"\x7d\x7d"

/-- **A default value that another spelling of its section loses.**  The three documents are the
same settings once they are merged, and `APP_NAME` is configured in each of them; only the plainly
spelled one has the default value in the end. -/
theorem load_spelled_loses_default :
    Settings.load [plainDocument] .empty
        = .ok { templates := { defaults := Table.empty.insert "APP_NAME" "Acme" } } ∧
      ∀ d ∈ [capitalDocument, dottedDocument],
        Settings.load [d] .empty = .ok {} ∧ Configured [d] .empty "APP_NAME" ∧
          ¬({} : Settings).HasDefault "APP_NAME" := by
  decide +kernel

/-- A variable that gives `SUPPORT_PIN` a default value. -/
def pinEnvironment : Table String String :=
  Table.empty.insert (defaultVariable "SUPPORT_PIN") "007"

/-- A plain document and a plain variable: both default values are there, and both are configured. -/
theorem hasDefault_iff_acme :
    ∃ s, Settings.load [plainDocument] pinEnvironment = .ok s ∧
      ∀ key ∈ ["app_name", "support_pin"],
        s.HasDefault key ∧ Configured [plainDocument] pinEnvironment key := by
  let s : Settings := { templates := { defaults :=
    (Table.empty.insert "APP_NAME" "Acme").insert "SUPPORT_PIN" "007" } }
  have hload : Settings.load [plainDocument] pinEnvironment = .ok s := by decide +kernel
  have hdefaults : ∀ key ∈ ["app_name", "support_pin"], s.HasDefault key := by decide +kernel
  have hsections : plainDocument.entries.toOption.all (List.all · isPlainSection) := by
    decide +kernel
  have hplain : IsPlain "SUPPORT_PIN" := by
    unfold IsPlain
    decide +kernel
  refine ⟨s, hload, fun key hkey => ⟨hdefaults key hkey, ?_⟩⟩
  refine ((hasDefault_iff hload key).2 (fun d hd es hentries e he => ?_) fun name hname => ?_).1
    (hdefaults key hkey)
  · obtain rfl := List.mem_singleton.1 hd
    rw [hentries] at hsections
    exact direct_of_isPlainSection (List.all_eq_true.1 hsections e he)
  · obtain rfl := List.mem_singleton.1 hname
    exact directVariable_defaultVariable (by decide) hplain key

end Settings

end LocalizedMail
