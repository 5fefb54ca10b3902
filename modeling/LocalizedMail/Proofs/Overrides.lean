import LocalizedMail.Proofs.Beside
import LocalizedMail.Proofs.Naming
import LocalizedMail.Proofs.Sections
import LocalizedMail.Settings.Layers

/-!
# Values at the setting of a placeholder

The variable of a placeholder is read as a setting like every other variable, although nothing uses
what that reading finds: default values are read once more, to the letter.  The first reading still
decides whether the settings can be read at all, and what becomes of the section on templates.

The value is put at its path when its turn comes, and other variables follow.  What they lead to
stands beside what they would lead to without it (`beside_putDefault`):

  * if the name of the placeholder has no double underscores, or a later variable takes the place of
    what its setting made, all settings but default values are the same (`ofValue_of_plain`,
    `ofValue_of_overtaken`);
  * any other name makes a table of what should be a text (`ofValue_of_nested`);
  * a section on templates that is a list is emptied first (`ofValue_of_emptied`);
  * a name of which a segment is empty is no path, and nothing reads it (`ofValue_of_unread`);
  * where a value is at the setting already, another one makes no difference (`ofValue_of_forget`).
-/

namespace LocalizedMail.Settings

open Placeholder (isIdentifier)
open Value (Beside forget changeEntry held isList without replaceEntry setAt cuts emptyTable nothing)

/-! ## §1. Default values that can be read -/

/-- What a section on templates is read from when a value is put below it: a list gives way to an
empty table. -/
theorem ofValue_held_templates {v : Value} {t : Templates} (h : templatesOf v.entries = .ok t)
    (o : Option String) :
    Templates.ofValue (.table o (held "templates" v).entries)
      = .ok (if (held "templates" v).isList then {} else t) := by
  unfold templatesOf at h
  unfold Value.held
  rw [Fields.get_named] at h
  cases hlookup : v.entries.lookup "templates" with
  | none =>
    rw [hlookup] at h
    cases h
    rfl
  | some section' =>
    rw [hlookup] at h
    have hsection := below_eq_ok.1 h
    cases section' with
    | table o' es =>
      rw [Templates.ofValue_table_eq_ok_iff] at hsection
      exact Templates.ofValue_table_eq_ok_iff.2 hsection
    | list o' vs => rfl
    | _ => cases hsection

/-- The default values of a section that can be read are missing or texts. -/
theorem held_of_defaultsOf {v : Value} {texts : Table String String}
    (h : Templates.defaultsOf v.entries = .ok texts) :
    held "defaults" v = nothing none ∨ (held "defaults" v).asTexts = .ok texts := by
  unfold Templates.defaultsOf at h
  rw [Fields.get_named] at h
  unfold Value.held
  cases hlookup : v.entries.lookup "defaults" with
  | none => exact .inl rfl
  | some defaults =>
    rw [hlookup] at h
    exact .inr (below_eq_ok.1 h)

/-- In what is missing or a table of texts, a name leads to a single value or to nothing. -/
theorem isSingle_held {v : Value}
    (h : v = nothing none ∨ ∃ texts, v.asTexts = .ok texts) (name : String) :
    held name v = nothing none ∨ (held name v).isSingle := by
  unfold Value.held
  cases hlookup : v.entries.lookup name with
  | none => exact .inl rfl
  | some w =>
    rcases h with rfl | htexts
    · cases hlookup
    · obtain ⟨o, es, rfl, hsingle⟩ := asTexts_isOk_iff.1 htexts
      exact .inr (hsingle _ (mem_of_lookup hlookup))

/-- A table of texts with one more entry is one as well if the entry is a text. -/
theorem asTexts_of_without {name : String} {o : Option String} {es : List (String × Value)}
    (hothers : ∀ e ∈ without name es, e.2.isSingle)
    (hname : (held name (.table o es)).isSingle) :
    ∃ texts, (Value.table o es).asTexts = .ok texts := by
  refine asTexts_isOk_iff.2 ⟨o, es, rfl, fun e he => ?_⟩
  rcases Value.mem_without he with he | hlookup
  · exact hothers e he
  · unfold Value.held at hname
    rwa [Value.entries, hlookup] at hname

/-- The texts of a table fail at the one entry that is no text. -/
theorem textEntries_error_of_without {name : String} {es : List (String × Value)}
    (hothers : ∀ e ∈ without name es, e.2.isSingle) {v : Value} (hname : es.lookup name = some v)
    {fault : Fault} (hv : v.asText = .error fault) :
    textEntries es = .error (fault.below name) := by
  induction es with
  | nil => cases hname
  | cons e es ih =>
    rw [Value.without_cons] at hothers
    rw [List.lookup_cons] at hname
    by_cases he : e.1 = name
    · rw [he, BEq.rfl] at hname
      cases hname
      simp only [textEntries, hv, he]
      rfl
    · have hb : (name == e.1) = false := by simpa using Ne.symm he
      rw [if_neg he, List.forall_mem_cons] at hothers
      rw [hb] at hname
      obtain ⟨s, hs⟩ := Value.asText_isOk_iff.2 hothers.1
      simp only [textEntries, hs, ih hothers.2 hname]
      rfl

/-! ## §2. What the setting of a placeholder leads to -/

/-- Whether a value is made of others. -/
def Value.isCompound : Value → Bool
  | .list _ _ | .table _ _ => true
  | _ => false

theorem Value.isCompound_of_isSingle {v : Value} (h : v.isSingle) : v.isCompound = false := by
  cases v <;> first | rfl | cases h

/-- Whether some property is what the values at the end of the path show: of the right one, or the
left one is no text either. -/
def Put (P : Value → Prop) (v w : Value) : Prop := P w ∨ v.isCompound

theorem put_stable (P : Value → Prop) {value : Value} (h : value.isSingle) (place : Value.Place)
    (rest : List Value.Place) (v w : Value) :
    Put P (setAt value (place :: rest) v) (setAt value (place :: rest) w) := by
  right
  cases place with
  | item index => rw [setAt]; rfl
  | entry name =>
    rw [Value.setAt_held h]
    cases v <;> rfl

section Beside

variable {cut uncut : Prop} {P : Value → Prop} {v w : Value} {x : String}

/-- **Default values beside others**: they are texts if those are, unless the last step leads to
something else. -/
theorem asTexts_of_beside (h : Beside cut (fun v w => uncut ∧ Put P v w) [x] v w)
    (hv : v = nothing none ∨ ∃ texts, v.asTexts = .ok texts) :
    (cut ∧ ∃ texts, w.asTexts = .ok texts) ∨
      uncut ∧ ∃ o es, w = .table o es ∧ (∀ e ∈ without x es, e.2.isSingle) ∧ P (held x w) := by
  cases h with
  | same cut present => exact .inl ⟨cut, hv.resolve_left present⟩
  | lists cut left right =>
    rcases hv with rfl | htexts
    · cases left
    · obtain ⟨o, es, rfl, -⟩ := asTexts_isOk_iff.1 htexts
      cases left
  | inside table others last inner =>
    obtain ⟨o, es, rfl⟩ := table
    have hothers : ∀ e ∈ without x es, e.2.isSingle := by
      intro e he
      have hmem : e ∈ v.entries := List.mem_of_mem_eraseP (others ▸ he)
      rcases hv with rfl | htexts
      · cases hmem
      · obtain ⟨o', es', rfl, hsingle⟩ := asTexts_isOk_iff.1 htexts
        exact hsingle e hmem
    generalize hleft : held x v = left at inner
    generalize hright : held x (.table o es) = right at inner
    cases inner with
    | same cut present =>
      have hsingle := (isSingle_held hv x).resolve_left (hleft ▸ present)
      exact .inl ⟨cut, asTexts_of_without hothers (hright ▸ hleft ▸ hsingle)⟩
    | here related =>
      obtain ⟨huncut, hP | hcompound⟩ := related
      · exact .inr ⟨huncut, o, es, rfl, hothers, hright ▸ hP⟩
      · -- the left one could not be read
        exfalso
        rcases isSingle_held hv x with hnothing | hsingle
        · rw [← hleft, hnothing] at hcompound
          cases hcompound
        · rw [← hleft, Value.isCompound_of_isSingle hsingle] at hcompound
          cases hcompound

/-- **Settings beside others** that can be read: they are the same, or they have other default
values, which stand beside those. -/
theorem ofValue_of_beside {Related : Value → Value → Prop} {path : List String}
    (h : Beside cut Related ("templates" :: "defaults" :: x :: path) v w) :
    (cut ∧ Settings.ofValue w = Settings.ofValue v) ∨
      (held "templates" v).isList = false ∧ ∃ texts,
        Beside cut Related (x :: path) (held "defaults" (held "templates" v)) texts ∧
        ∀ s, Settings.ofValue v = .ok s →
          Settings.ofValue w = (below "templates" ((below "defaults" texts.asTexts).map
            fun defaults => { s.templates with defaults := defaults })).map
              fun templates => { s with templates := templates } := by
  cases h with
  | same cut present => exact .inl ⟨cut, rfl⟩
  | inside table others last inner =>
    have hlookup (name : String) (hname : name ≠ "templates") :
        w.entries.lookup name = v.entries.lookup name := by
      rw [← Value.lookup_without hname, others, Value.lookup_without hname]
    have hsection := Value.lookup_of_held rfl inner.ne_nothing
    generalize hleft : held "templates" v = left at inner
    generalize held "templates" w = right at inner hsection
    cases inner with
    | same cut present =>
      refine .inl ⟨cut, ofValue_congr fun name _ => ?_⟩
      by_cases hname : name = "templates"
      · rw [hname, hsection, Value.lookup_of_held hleft present]
      · exact hlookup name hname
    | inside table' others' last' inner' =>
      obtain ⟨o, es, rfl⟩ := table'
      have hlist : left.isList = false := Bool.eq_false_iff.2 fun h => nomatch last' h
      refine .inr ⟨hlist, held "defaults" (.table o es), inner', fun s hread => ?_⟩
      have htemplates := ofValue_held_templates (ofValue_eq_ok_iff.1 hread).1 none
      rw [hleft, hlist, if_neg Bool.false_ne_true] at htemplates
      have hentries (name : String) (hname : name ≠ "defaults") :
          es.lookup name = left.entries.lookup name := by
        have heq : without "defaults" es = without "defaults" left.entries := others'
        rw [← Value.lookup_without hname, heq, Value.lookup_without hname]
      have hdefaults : es.lookup "defaults" = some (held "defaults" (.table o es)) :=
        Value.lookup_of_held rfl inner'.ne_nothing
      rw [ofValue_of_templates hread fun name hname => hlookup name ?_, templatesOf,
        Fields.get_named, hsection]
      · dsimp only
        rw [Templates.ofValue_of_defaults o htemplates hentries, Templates.defaultsOf,
          Fields.get_named, hdefaults]
      · rintro rfl
        exact absurd hname (by decide)

/-- What there is to know about settings beside others that can be read: they are read as those are,
or the default values are a table with one more entry. -/
theorem ofValue_of_put {s : Settings} (hread : Settings.ofValue v = .ok s)
    (h : Beside cut (fun v w => uncut ∧ Put P v w) ["templates", "defaults", x] v w) :
    (cut ∧ ∃ texts, Settings.ofValue w
        = .ok { s with templates := { s.templates with defaults := texts } }) ∨
      uncut ∧ ∃ o es, (∀ e ∈ without x es, e.2.isSingle) ∧ P (held x (.table o es)) ∧
        Settings.ofValue w = (below "templates" ((below "defaults" (Value.table o es).asTexts).map
          fun defaults => { s.templates with defaults := defaults })).map
            fun templates => { s with templates := templates } := by
  rcases ofValue_of_beside h with ⟨hcut, hsame⟩ | ⟨-, texts, hbeside, hother⟩
  · exact .inl ⟨hcut, s.templates.defaults, hsame.trans hread⟩
  · have hsection := ofValue_held_templates (ofValue_eq_ok_iff.1 hread).1 none
    have hdefaults := held_of_defaultsOf (Templates.ofValue_table_eq_ok_iff.1 hsection).2.2.1
    rcases asTexts_of_beside hbeside (hdefaults.imp_right fun h => ⟨_, h⟩) with
      ⟨hcut, found, hfound⟩ | ⟨huncut, o, es, rfl, hothers, hP⟩
    · refine .inl ⟨hcut, found, ?_⟩
      rw [hother s hread, hfound]
      rfl
    · exact .inr ⟨huncut, o, es, hothers, hP, hother s hread⟩

end Beside

/-- Whether one of some later settings takes the place of what the setting of a placeholder made: it
ends on the way to the first segment, or makes a list on the way. -/
def Overtaken (later : List (String × Value)) (key : String) : Prop :=
  ∃ e ∈ later, cuts (pathOf e.1) ["templates", "defaults", (segments key).headD ""]

instance (later : List (String × Value)) (key : String) : Decidable (Overtaken later key) :=
  inferInstanceAs (Decidable (∃ e ∈ later, _))

/-- Whether the section on templates is a list of its settings. -/
def ListsTemplates (v : Value) : Prop := (held "templates" v).isList

/-- Whether the name of a placeholder has no double underscores. -/
def IsPlain (key : String) : Prop := (segments key).length = 1

/-- Whether the double underscores in the name of a placeholder make it a path of several steps. -/
def IsNested (key : String) : Prop := "" ∉ segments key ∧ ¬IsPlain key

/-- The complaint about a default value that is a table, because the name of its placeholder has
double underscores. -/
def nestedFault (key : String) : Fault :=
  .wrongType .table "a string" (some ("templates.defaults." ++ (segments key).headD "")) none

/-- The way to a default value in the settings. -/
theorem joinKey_defaults {x : String} (h : x.toList.head? ≠ some '[') :
    joinKey "templates" (some (joinKey "defaults" (some x))) = "templates.defaults." ++ x := by
  have hdefaults : joinKey "defaults" (some x) = "defaults" ++ "." ++ x := if_neg h
  have hhead : ("defaults" ++ "." ++ x).toList.head? ≠ some '[' := by
    rw [String.toList_append]
    exact fun h => absurd (Option.some.inj h) (by decide)
  rw [hdefaults]
  refine (if_neg hhead).trans ?_
  rw [← String.append_assoc, ← String.append_assoc]
  rfl

section Later

variable {key : String} {c v : Value} {later : List (String × Value)} {s : Settings}
  (hkey : isIdentifier key) (hc : c.isSingle) (hpath : "" ∉ segments key)
  (hlater : ∀ e ∈ later, e.2.isSingle) (hroot : v.isList = false) (hsection : ¬ListsTemplates v)

include hkey hc hpath hlater hroot hsection

/-- **A value at the setting of a placeholder**, and later ones on top of it, beside the later ones
alone. -/
theorem beside_putDefault {P : Value → Prop}
    (hP : ∀ u, Put P u (setAt c ((segments key).tail.map .entry) u)) :
    Beside (Overtaken later key) (fun v w => ¬Overtaken later key ∧ Put P v w)
      ["templates", "defaults", (segments key).headD ""]
      (v.overlay later) ((v.setNamed (defaultSetting key) c).overlay later) := by
  obtain ⟨x, rest, hsegments⟩ := List.exists_cons_of_ne_nil (segments_ne_nil key)
  have hx : Text.toLowerCase x = x := toLowerCase_segment hkey (hsegments ▸ List.mem_cons_self)
  unfold Overtaken
  rw [hsegments] at hP ⊢
  simp only [List.headD_cons, List.tail_cons] at hP ⊢
  have hput : Beside False (Put P) ["templates", "defaults", x] v
      (v.setNamed (defaultSetting key) c) := by
    unfold Value.setNamed
    rw [pathOf_defaultSetting hkey, defaultPath, if_neg hpath, hsegments]
    simp only [List.map_cons]
    rw [Value.setAt_held hc, toLowerCase_templates, Value.setAt_held hc, toLowerCase_defaults,
      Value.setAt_held hc, hx]
    refine .replaceEntry toLowerCase_templates (fun h => ?_) ?_
    · rw [hroot] at h
      cases h
    · refine .replaceEntry toLowerCase_defaults (fun h => absurd h hsection) ?_
      exact .replaceEntry hx (fun _ => rfl) (.here (hP _))
  refine (hput.overlay hlater fun value hvalue place rest v w _ =>
    put_stable P hvalue place rest v w).imp (fun h => h.resolve_left id) fun v w h => ⟨?_, h.2⟩
  rintro ⟨e, he, hcut⟩
  rw [h.1 e he] at hcut
  cases hcut

/-- Beside later settings that take its place, a value at the setting of a placeholder changes
nothing but default values; and so it does if the name is plain. -/
theorem ofValue_of_plain (hread : Settings.ofValue (v.overlay later) = .ok s)
    (hplain : IsPlain key ∨ Overtaken later key) :
    ∃ texts, Settings.ofValue ((v.setNamed (defaultSetting key) c).overlay later)
      = .ok { s with templates := { s.templates with defaults := texts } } := by
  -- at the end of the path is the value itself if the name is plain, and otherwise the path is cut
  have hP (u : Value) : Put (fun w => IsPlain key → w.isSingle) u
      (setAt c ((segments key).tail.map .entry) u) := by
    refine .inl fun hone => ?_
    obtain ⟨x, hx⟩ := List.length_eq_one_iff.1 hone
    rw [hx, List.tail_cons, List.map_nil, setAt]
    exact hc
  rcases ofValue_of_put hread (beside_putDefault hkey hc hpath hlater hroot hsection hP) with
    ⟨-, hsame⟩ | ⟨huncut, o, es, hothers, hsingle, hread'⟩
  · exact hsame
  · obtain ⟨texts, htexts⟩ := asTexts_of_without hothers (hsingle (hplain.resolve_right huncut))
    refine ⟨texts, ?_⟩
    rw [hread', htexts]
    rfl

/-- A value at the setting of a nested name is refused if it is still there at the end. -/
theorem ofValue_of_nested (hread : Settings.ofValue (v.overlay later) = .ok s)
    (hnested : ¬IsPlain key) (huncut : ¬Overtaken later key) :
    Settings.ofValue ((v.setNamed (defaultSetting key) c).overlay later)
      = .error (nestedFault key) := by
  obtain ⟨x, y, rest, hxy⟩ : ∃ x y rest, segments key = x :: y :: rest := by
    match hlist : segments key with
    | [] => exact absurd hlist (segments_ne_nil key)
    | [x] => exact absurd (congrArg List.length hlist) hnested
    | x :: y :: rest => exact ⟨x, y, rest, rfl⟩
  have hP (u : Value) : Put (fun w => ∃ es, w = .table none es) u
      (setAt c ((segments key).tail.map .entry) u) := by
    rw [hxy, List.tail_cons, List.map_cons, Value.setAt_held hc]
    cases u with
    | table o es => exact .inr rfl
    | _ => exact .inl ⟨_, rfl⟩
  rcases ofValue_of_put hread (beside_putDefault hkey hc hpath hlater hroot hsection hP) with
    ⟨hcut, -⟩ | ⟨-, o, es, hothers, ⟨inner, hinner⟩, hread'⟩
  · exact absurd hcut huncut
  · have hx : x.toList.head? ≠ some '[' := head?_segment hkey (hxy ▸ List.mem_cons_self)
    have hlookup := Value.lookup_of_held hinner fun h => nomatch h
    have hfault : (Value.table none inner).asText = .error (.wrongType .table "a string" none none) :=
      rfl
    have htexts := textEntries_error_of_without hothers hlookup hfault
    rw [hread', Value.asTexts, htexts, nestedFault, hxy]
    simp only [below, Except.map, Fault.below, List.headD_cons]
    rw [show joinKey x none = x from rfl, joinKey_defaults hx]

/-- A section on templates that is a list in the end hides the value. -/
theorem ofValue_of_list (hlist : ListsTemplates (v.overlay later)) :
    Overtaken later key ∧
      Settings.ofValue ((v.setNamed (defaultSetting key) c).overlay later)
        = Settings.ofValue (v.overlay later) := by
  have hbeside := beside_putDefault hkey hc hpath hlater hroot hsection (P := fun _ => True)
    fun _ => .inl trivial
  rcases ofValue_of_beside hbeside with hsame | ⟨hnot, -⟩
  · exact hsame
  · exact absurd hlist (Bool.eq_false_iff.1 hnot)

end Later

/-- A value whose setting is no path is not read at all. -/
theorem ofValue_of_unread {key : String} {c v : Value} {later : List (String × Value)}
    (hkey : isIdentifier key) (hc : c.isSingle) (hpath : "" ∈ segments key)
    (hlater : ∀ e ∈ later, e.2.isSingle) :
    Settings.ofValue ((v.setNamed (defaultSetting key) c).overlay later)
      = Settings.ofValue (v.overlay later) := by
  have hput : Beside False (fun _ _ => True) [defaultSetting key] v
      (v.setNamed (defaultSetting key) c) := by
    unfold Value.setNamed
    rw [pathOf_defaultSetting hkey, defaultPath, if_pos hpath, List.map_singleton,
      Value.setAt_held hc]
    exact .replaceEntry (toLowerCase_defaultSetting hkey) (fun _ => rfl) (.here trivial)
  have hbeside := hput.overlay hlater fun _ _ _ _ _ _ _ => trivial
  refine ofValue_congr fun name hname => hbeside.lookup ?_
  rintro rfl
  exact defaultSetting_not_mem key hname

/-! ## §3. A section that is a list -/

/-- Settings whose section on templates is empty where it was a list. -/
def emptied (v : Value) : Value :=
  if (held "templates" v).isList then replaceEntry "templates" emptyTable v else v

theorem isList_emptied {v : Value} (h : v.isList = false) : (emptied v).isList = false := by
  unfold emptied
  split
  · exact Value.isList_replaceEntry _ _ v
  · exact h

theorem not_listsTemplates_emptied (v : Value) : ¬ListsTemplates (emptied v) := by
  unfold ListsTemplates emptied
  split
  · rw [Value.held_replaceEntry, toLowerCase_templates, if_pos rfl]
    exact Bool.false_ne_true
  · next hlist => exact hlist

theorem replaceEntry_replaceEntry (name : String) (value other v : Value) :
    replaceEntry name value (replaceEntry name other v) = replaceEntry name value v := by
  cases v with
  | table o es => simp only [replaceEntry, putEntry_putEntry]
  | _ => simp [replaceEntry, putEntry]

/-- A value at the setting of a placeholder empties a section that is a list. -/
theorem setNamed_emptied {key : String} {c : Value} (hkey : isIdentifier key) (hc : c.isSingle)
    (hpath : "" ∉ segments key) (v : Value) :
    (emptied v).setNamed (defaultSetting key) c = v.setNamed (defaultSetting key) c := by
  unfold emptied
  split
  · next hlist =>
    unfold Value.setNamed
    rw [pathOf_defaultSetting hkey, defaultPath, if_neg hpath, List.map_cons, List.map_cons,
      Value.setAt_held hc, Value.setAt_held hc (v := v), replaceEntry_replaceEntry,
      Value.held_replaceEntry, if_pos rfl, toLowerCase_templates,
      Value.setAt_entry_of_isList hc _ _ (.inl rfl), Value.setAt_entry_of_isList hc _ _ (.inr hlist)]
  · rfl

/-- How a section that is emptied is related to what it would be: it is a list no more, or both are
lists, or both are the same again. -/
def Emptied (v w : Value) : Prop :=
  v.isList ∧ (w = emptyTable ∨ w.isList) ∨ v = w ∧ w ≠ nothing none

theorem emptied_stable {value : Value} (h : value.isSingle) (place : Value.Place)
    (rest : List Value.Place) {v w : Value} (hvw : Emptied v w) :
    Emptied (setAt value (place :: rest) v) (setAt value (place :: rest) w) := by
  rcases hvw with ⟨hlist, hw⟩ | ⟨rfl, -⟩
  · cases place with
    | item index =>
      rw [setAt, setAt]
      exact .inl ⟨Value.isList_changeItem index _ v, .inr (Value.isList_changeItem index _ w)⟩
    | entry name =>
      refine .inr ⟨?_, Value.setAt_ne_nothing h _ w⟩
      rw [Value.setAt_entry_of_isList h _ _ (.inr hlist), Value.setAt_entry_of_isList h _ _ hw]
  · exact .inr ⟨rfl, Value.setAt_ne_nothing h _ v⟩

/-- **A section that is emptied** before later settings: if it is no list in the end, it is what it
would have been, and otherwise it is a list as well or all its settings are those that nobody
sets. -/
theorem ofValue_of_emptied {v : Value} {later : List (String × Value)} {s : Settings}
    (hlater : ∀ e ∈ later, e.2.isSingle) (hread : Settings.ofValue (v.overlay later) = .ok s) :
    (¬ListsTemplates (v.overlay later) → Settings.ofValue ((emptied v).overlay later) = .ok s) ∧
      (ListsTemplates (v.overlay later) → ListsTemplates ((emptied v).overlay later) ∨
        Settings.ofValue ((emptied v).overlay later) = .ok { s with templates := {} }) := by
  by_cases hlist : (held "templates" v).isList
  · have hempty : Beside False Emptied ["templates"] v (emptied v) := by
      unfold emptied
      rw [if_pos hlist]
      exact .replaceEntry toLowerCase_templates (fun _ => rfl) (.here (.inl ⟨hlist, .inl rfl⟩))
    have hbeside := hempty.overlay hlater fun _ hvalue place rest _ _ h =>
      emptied_stable hvalue place rest h
    generalize v.overlay later = left at hread hbeside ⊢
    generalize (emptied v).overlay later = right at hbeside ⊢
    have hlookup (name : String) (hname : name ≠ "templates") :
        right.entries.lookup name = left.entries.lookup name := hbeside.lookup hname
    -- the same section, or a list in both
    have hsame (h : right.entries.lookup "templates" = left.entries.lookup "templates") :
        Settings.ofValue right = .ok s := by
      rw [← hread]
      refine ofValue_congr fun name _ => ?_
      by_cases hname : name = "templates"
      · rw [hname, h]
      · exact hlookup name hname
    cases hbeside with
    | same cut present => exact ⟨fun _ => hread, .inl⟩
    | lists cut isLeft isRight =>
      refine ⟨fun _ => hsame ?_, fun h => ?_⟩
      · rw [Value.entries_of_isList isLeft, Value.entries_of_isList isRight]
      · unfold ListsTemplates Value.held at h
        rw [Value.entries_of_isList isLeft] at h
        cases h
    | inside table others last inner =>
      unfold ListsTemplates
      generalize hl : held "templates" left = l at inner ⊢
      generalize hr : held "templates" right = r at inner ⊢
      have hequal (heq : l = r) (hpresent : r ≠ nothing none) : Settings.ofValue right = .ok s :=
        hsame (by rw [Value.lookup_of_held hr hpresent, Value.lookup_of_held hl (heq ▸ hpresent), heq])
      cases inner with
      | same cut present => exact ⟨fun _ => hequal rfl present, .inl⟩
      | here related =>
        obtain ⟨-, ⟨hleft, rfl | hright⟩ | ⟨heq, hpresent⟩⟩ := related
        · refine ⟨fun hnot => absurd hleft hnot, fun _ => .inr ?_⟩
          rw [ofValue_of_templates hread fun name hname => hlookup name ?_, templatesOf,
            Fields.get_named, Value.lookup_of_held hr fun h => nomatch h]
          · rfl
          · rintro rfl
            exact absurd hname (by decide)
        · exact ⟨fun hnot => absurd hleft hnot, fun _ => .inl hright⟩
        · exact ⟨fun _ => hequal heq hpresent, fun h => .inl (heq ▸ h)⟩
  · have hsame : emptied v = v := if_neg hlist
    rw [hsame]
    exact ⟨fun _ => hread, .inl⟩

/-! ## §4. Another default value -/

section Forget

variable {name : String} {path : List String} {v w : Value}

/-- Two values that differ in what is forgotten below one entry have all other entries in common. -/
theorem lookup_of_forget (h : forget (name :: path) v = forget (name :: path) w) :
    (∀ x ≠ name, w.entries.lookup x = v.entries.lookup x) ∧
      (v.entries.lookup name).map (forget path) = (w.entries.lookup name).map (forget path) := by
  have hentries : changeEntry name (forget path) v.entries
      = changeEntry name (forget path) w.entries := by
    rw [← Value.entries_forget_cons, ← Value.entries_forget_cons, h]
  have hlookup (x : String) := congrArg (List.lookup x) hentries
  constructor
  · intro x hx
    simpa [Value.lookup_changeEntry, hx] using (hlookup x).symm
  · simpa [Value.lookup_changeEntry] using hlookup name

/-- They are tables, unless they are the same. -/
theorem tables_of_forget (h : forget (name :: path) v = forget (name :: path) w) :
    v = w ∨ ∃ o es es', v = .table o es ∧ w = .table o es' := by
  cases v with
  | table o es =>
    cases w with
    | table o' es' =>
      simp only [forget, Value.table.injEq] at h
      exact .inr ⟨o, es, es', rfl, by rw [h.1]⟩
    | _ => cases h
  | _ => cases w <;> first | exact .inl h | cases h

theorem asTexts_of_forget {texts : Table String String} (hv : v.asTexts = .ok texts)
    (h : forget (name :: path) v = forget (name :: path) w) :
    ∃ texts, w.asTexts = .ok texts := by
  obtain ⟨o, es, rfl, hsingle⟩ := asTexts_isOk_iff.1 ⟨texts, hv⟩
  rcases tables_of_forget h with rfl | ⟨o', es', es'', heq, rfl⟩
  · exact ⟨texts, hv⟩
  · cases heq
    have hentries : changeEntry name (forget path) es = changeEntry name (forget path) es'' := by
      simpa [forget] using h
    refine asTexts_isOk_iff.2 ⟨o, es'', rfl, ?_⟩
    rw [← Value.forall_isSingle_changeEntry path, ← hentries, Value.forall_isSingle_changeEntry]
    exact hsingle

/-- An entry of which something is forgotten is still read, if its value is. -/
theorem Fields.get_of_forget {α : Type} {es es' : List (String × Value)} {position : Nat}
    {read : Value → Except Fault α} {instead a : α} {Good : α → Prop}
    (hget : (Fields.named es).get position name read instead = .ok a)
    (hsame : (es.lookup name).map (forget path) = (es'.lookup name).map (forget path))
    (hgood : Good a)
    (hread : ∀ v w, read v = .ok a → forget path v = forget path w → ∃ b, read w = .ok b ∧ Good b) :
    ∃ b, (Fields.named es').get position name read instead = .ok b ∧ Good b := by
  rw [Fields.get_named] at hget ⊢
  cases hlookup : es.lookup name with
  | none =>
    -- then there is no such entry in either, and the value of its own is taken
    rw [hlookup, Option.map_none, eq_comm, Option.map_eq_none_iff] at hsame
    rw [hlookup] at hget
    rw [hsame]
    exact ⟨a, hget, hgood⟩
  | some v =>
    rw [hlookup, Option.map_some, eq_comm, Option.map_eq_some_iff] at hsame
    obtain ⟨w, hw, hforget⟩ := hsame
    rw [hlookup] at hget
    obtain ⟨b, hb, hgood'⟩ := hread v w (below_eq_ok.1 hget) hforget.symm
    rw [hw]
    exact ⟨b, below_eq_ok.2 hb, hgood'⟩

theorem ofValue_templates_of_forget {t : Templates} {x : String}
    (hv : Templates.ofValue v = .ok t)
    (h : forget ("defaults" :: x :: path) v = forget ("defaults" :: x :: path) w) :
    ∃ texts, Templates.ofValue w = .ok { t with defaults := texts } := by
  rcases tables_of_forget h with rfl | ⟨o, es, es', rfl, rfl⟩
  · exact ⟨t.defaults, hv⟩
  · obtain ⟨hother, hdefaults⟩ := lookup_of_forget h
    simp only [Value.entries] at hother hdefaults
    obtain ⟨-, -, htexts, -⟩ := Templates.ofValue_table_eq_ok_iff.1 hv
    obtain ⟨texts, htexts', -⟩ : ∃ texts, Templates.defaultsOf es' = .ok texts ∧ True :=
      Fields.get_of_forget htexts hdefaults trivial fun a b ha hab =>
        (asTexts_of_forget ha hab).imp fun _ hb => ⟨hb, trivial⟩
    rw [Templates.ofValue_of_defaults o hv hother, htexts']
    exact ⟨texts, rfl⟩

/-- A value at the setting of a placeholder does not matter to any setting but the default
values. -/
theorem ofValue_of_forget {key : String} {s : Settings} (hv : Settings.ofValue v = .ok s)
    (h : forget (defaultPath key) v = forget (defaultPath key) w) :
    ∃ texts, Settings.ofValue w
      = .ok { s with templates := { s.templates with defaults := texts } } := by
  have htemplates := (ofValue_eq_ok_iff.1 hv).1
  unfold defaultPath at h
  split at h
  · -- the name is no path, and nothing reads the entry that it makes
    obtain ⟨hother, -⟩ := lookup_of_forget h
    have hlookup : ∀ name ∈ ["templates", "smtp", "retry", "logging"],
        w.entries.lookup name = v.entries.lookup name := fun name hname =>
      hother name fun heq => defaultSetting_not_mem key (heq ▸ hname)
    exact ⟨s.templates.defaults, by rw [ofValue_congr hlookup, hv]⟩
  · obtain ⟨hother, hsection⟩ := lookup_of_forget h
    have hlookup : ∀ name ∈ ["smtp", "retry", "logging"],
        w.entries.lookup name = v.entries.lookup name := fun name hname =>
      hother name (by rintro rfl; exact absurd hname (by decide))
    obtain ⟨x, rest, hsegments⟩ := List.exists_cons_of_ne_nil (segments_ne_nil key)
    rw [hsegments] at hsection
    obtain ⟨_, hread, texts, rfl⟩ :
        ∃ t, templatesOf w.entries = .ok t ∧ ∃ texts, t = { s.templates with defaults := texts } :=
      Fields.get_of_forget htemplates hsection ⟨s.templates.defaults, rfl⟩ fun a b ha hab =>
        let ⟨texts, hb⟩ := ofValue_templates_of_forget ha hab
        ⟨_, hb, texts, rfl⟩
    rw [ofValue_of_templates hv hlookup, hread]
    exact ⟨texts, rfl⟩

end Forget

end LocalizedMail.Settings
