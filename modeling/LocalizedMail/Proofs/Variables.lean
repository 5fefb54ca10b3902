import LocalizedMail.Proofs.Overrides
import LocalizedMail.Proofs.Tables

/-!
# Default values from variables

One more variable is one more setting in the layer of the environment, unless another variable is
the same setting already.  Nothing fixes the order in which the settings of that layer are merged,
so some are merged before the new one has its turn and some after it.

  * `placeholderDefaults_erase`, `perm_former`: the two readings of the environment with and without
    a variable;
  * `ofLayers_of_isSet`, `ofLayers_of_unread`, `ofLayers_of_plain`, `ofLayers_of_nested`: what the
    variable of a placeholder does to the settings, case by case;
  * `ofLayers_add_defaultVariable`: all of it, for every order.
-/

namespace LocalizedMail

namespace Settings

open Placeholder (isIdentifier)
open Value (forget)

/-! ## §1. One more variable -/

/-- Whether some variable is a setting. -/
def IsSet (environment : Table String String) (setting : String) : Prop :=
  ∃ name ∈ environment.keys, settingName? name = some setting

theorem isSet_iff {environment : Table String String} {setting : String} :
    IsSet environment setting ↔ setting ∈ (environmentLayer environment).keys := by
  unfold IsSet environmentLayer
  rw [Table.mem_keys_ofList]
  simp only [Table.keys, List.mem_map, List.mem_filterMap, Option.map_eq_some_iff]
  constructor
  · rintro ⟨_, ⟨e, he, rfl⟩, hsetting⟩
    exact ⟨(setting, .ofVariable e.2), ⟨e, he, setting, hsetting, rfl⟩, rfl⟩
  · rintro ⟨_, ⟨e, he, _, hsetting, rfl⟩, rfl⟩
    exact ⟨e.1, ⟨e, he, rfl⟩, hsetting⟩

/-- Variables hold single values. -/
theorem isSingle_of_mem_environmentLayer (environment : Table String String) :
    ∀ e ∈ (environmentLayer environment).entries, e.2.isSingle := by
  intro e he
  have hmem := Table.mem_of_mem_ofList he
  rw [List.mem_filterMap] at hmem
  obtain ⟨e', -, heq⟩ := hmem
  obtain ⟨_, -, rfl⟩ := Option.map_eq_some_iff.1 heq
  exact Value.isSingle_ofVariable e'.2

/-- What a setting of the environment was without some variable, as entry of the layer. -/
def former (environment : Table String String) (setting : String) : List (String × Value) :=
  ((environmentLayer environment).get? setting).toList.map fun v => (setting, v)

section Erase

variable {environment : Table String String} {name setting key value : String}

/-- One more entry shows at its key alone, and only if the key does not come again. -/
theorem lookup_reverse_middle {α : Type} (xs ys : List (String × α)) (k x : String) (v : α)
    (hk : x = k → k ∉ ys.map Prod.fst) :
    (xs ++ (k, v) :: ys).reverse.lookup x
      = if x = k then some v else (xs ++ ys).reverse.lookup x := by
  rw [List.reverse_append, List.reverse_cons, List.append_assoc, List.reverse_append]
  simp only [List.lookup_append, List.lookup_cons, List.singleton_append]
  by_cases hx : x = k
  · have hnone : ys.reverse.lookup x = none := by
      refine lookup_eq_none_of_not_mem ?_
      rw [List.map_reverse, List.mem_reverse, hx]
      exact hk hx
    rw [hnone, if_pos hx, hx, BEq.rfl]
    rfl
  · have hb : (x == k) = false := by simpa using hx
    rw [if_neg hx, hb]

variable (hentry : environment.get? name = some value)

include hentry

/-- The settings of other names are what they are without a variable. -/
theorem get?_environmentLayer_erase (hsetting : settingName? name = some setting) {x : String}
    (hx : x ≠ setting) :
    (environmentLayer environment).get? x = (environmentLayer (environment.erase name)).get? x := by
  obtain ⟨before, after, hsplit, herase⟩ := Table.split_of_get? hentry
  unfold environmentLayer
  rw [hsplit, herase, Table.get?_ofList, Table.get?_ofList, List.filterMap_append,
    List.filterMap_append, List.filterMap_cons, hsetting]
  exact (lookup_reverse_middle _ _ setting x _ fun h => absurd h hx).trans (if_neg hx)

/-- **The variable of a placeholder sets its default value**, to the letter, and no other, wherever
it is listed. -/
theorem placeholderDefaults_erase {layers : List (List (String × Value))}
    {defaults : Table String String} (hkey : placeholderName? name = some key)
    (honly : ∀ other ∈ environment.keys, placeholderName? other = some key → other = name)
    (h : placeholderDefaults layers (environment.erase name) = .ok defaults) :
    ∃ defaults', placeholderDefaults layers environment = .ok defaults' ∧
      ∀ x, defaults'.get? x = if x = key then some value else defaults.get? x := by
  obtain ⟨found, hfound, hdefaults⟩ := bind_eq_ok.1 h
  obtain ⟨before, after, hsplit, herase⟩ := Table.split_of_get? hentry
  have hnodup := environment.nodup
  rw [hsplit, List.map_append, List.map_cons, List.nodup_middle, List.nodup_cons,
    List.mem_append] at hnodup
  cases hdefaults
  refine ⟨.ofList (found.flatten ++ environmentDefaults environment), ?_, fun x => ?_⟩
  · unfold placeholderDefaults
    rw [hfound]
    rfl
  · unfold environmentDefaults
    rw [hsplit, herase, Table.get?_ofList, Table.get?_ofList, List.filterMap_append,
      List.filterMap_append, List.filterMap_cons, hkey, ← List.append_assoc, ← List.append_assoc]
    refine lookup_reverse_middle _ _ key x value fun _ hmem => ?_
    -- a second variable for the same placeholder
    obtain ⟨e, he, hother⟩ := List.mem_map.1 hmem
    obtain ⟨e', he', heq⟩ := List.mem_filterMap.1 he
    obtain ⟨other, hname, rfl⟩ := Option.map_eq_some_iff.1 heq
    have hmemKeys : e'.1 ∈ environment.keys := by
      unfold Table.keys
      rw [hsplit]
      exact List.mem_map_of_mem (List.mem_append_right _ (List.mem_cons_of_mem _ he'))
    have hsame := honly e'.1 hmemKeys (by rw [hname]; exact congrArg some hother)
    exact hnodup.1 (.inr (List.mem_map.2 ⟨e', he', hsame⟩))

/-- **A listing of the settings of the environment** is one without a variable if the setting of the
variable is put back to what it was. -/
theorem perm_former (hsetting : settingName? name = some setting)
    {earlier later : List (String × Value)} {new : Value}
    (horder : (earlier ++ (setting, new) :: later).Perm (environmentLayer environment).entries) :
    (earlier ++ former (environment.erase name) setting ++ later).Perm
      (environmentLayer (environment.erase name)).entries := by
  let all := environmentLayer environment
  let rest := environmentLayer (environment.erase name)
  have hothers : (all.erase setting).entries.Perm (rest.erase setting).entries := by
    refine Table.perm_of_get? fun x => ?_
    rw [Table.get?_erase, Table.get?_erase]
    by_cases hx : x = setting
    · rw [if_pos hx, if_pos hx]
    · rw [if_neg hx, if_neg hx]
      exact get?_environmentLayer_erase hentry hsetting hx
  have hentry' : all.get? setting = some new := by
    have hmem : (setting, new) ∈ all.entries :=
      horder.subset (List.mem_append_right _ List.mem_cons_self)
    exact lookup_of_mem all.nodup hmem
  have hleft : (earlier ++ later).Perm (all.erase setting).entries := by
    refine List.Perm.cons_inv (a := (setting, new)) ?_
    exact List.perm_middle.symm.trans (horder.trans (Table.perm_cons_erase hentry'))
  have hright : rest.entries.Perm (former (environment.erase name) setting
      ++ (rest.erase setting).entries) := by
    unfold former
    cases hold : rest.get? setting with
    | none =>
      rw [Table.erase_of_get?_eq_none hold]
      exact .refl _
    | some old => exact Table.perm_cons_erase hold
  have hmove : (earlier ++ former (environment.erase name) setting ++ later).Perm
      (former (environment.erase name) setting ++ (earlier ++ later)) := by
    rw [← List.append_assoc]
    exact List.perm_append_comm.append_right later
  exact hmove.trans (((hleft.trans hothers).append_left _).trans hright.symm)

end Erase

/-! ## §2. All layers -/

theorem mergeLayers_concat (layers : List (List (String × Value))) (order : List (String × Value)) :
    mergeLayers (layers ++ [order]) = (mergeLayers layers).overlay order := by
  unfold mergeLayers
  rw [List.foldl_append]
  rfl

/-- The merged settings of documents and of the environment. -/
def merged (layers : List (List (String × Value))) (environment : Table String String) : Value :=
  mergeLayers (layers ++ [(environmentLayer environment).entries])

theorem merged_eq (layers : List (List (String × Value))) (environment : Table String String) :
    merged layers environment
      = (mergeLayers layers).overlay (environmentLayer environment).entries :=
  mergeLayers_concat layers _

theorem overlay_append (v : Value) (earlier later : List (String × Value)) :
    v.overlay (earlier ++ later) = (v.overlay earlier).overlay later :=
  List.foldl_append

theorem overlay_cons (v : Value) (e : String × Value) (layer : List (String × Value)) :
    v.overlay (e :: layer) = (v.setNamed e.1 e.2).overlay layer :=
  rfl

/-- The first step of a path is a name. -/
theorem exists_pathOf_eq_cons (name : String) :
    ∃ first rest, pathOf name = .entry first :: rest := by
  unfold pathOf path?
  dsimp only
  split
  · exact ⟨_, _, rfl⟩
  · cases places? (name.toList.dropWhile isNameChar) with
    | none => exact ⟨_, _, rfl⟩
    | some places => exact ⟨_, _, rfl⟩

theorem isList_setNamed (v : Value) (name : String) (value : Value) :
    (v.setNamed name value).isList = false := by
  obtain ⟨first, rest, hpath⟩ := exists_pathOf_eq_cons name
  unfold Value.setNamed
  rw [hpath]
  cases rest with
  | nil =>
    rw [Value.setAt]
    cases value with
    | table o es => rw [Value.put]; exact Value.isList_replaceEntry _ _ v
    | _ => rw [Value.put]; exacts [Value.isList_replaceEntry _ _ v, fun _ _ h => by cases h]
  | cons place rest =>
    rw [Value.setAt]
    exacts [Value.isList_replaceEntry _ _ v, fun h => by cases h]

theorem isList_overlay {v : Value} (h : v.isList = false) (layer : List (String × Value)) :
    (v.overlay layer).isList = false := by
  induction layer generalizing v with
  | nil => exact h
  | cons e layer ih => exact ih (isList_setNamed v e.1 e.2)

theorem isList_mergeLayers (layers : List (List (String × Value))) :
    (mergeLayers layers).isList = false := by
  unfold mergeLayers
  have hbase : (Value.emptyTable.overlay baseLayer).isList = false := isList_overlay rfl baseLayer
  generalize Value.emptyTable.overlay baseLayer = v at hbase
  induction layers generalizing v with
  | nil => exact hbase
  | cons layer layers ih => exact ih _ (isList_overlay hbase layer)

/-- What settings are made of: the merged layers, and the default values read apart. -/
theorem ofMerged_eq_ok_iff {m : Value} {layers : List (List (String × Value))}
    {environment : Table String String} {s : Settings} :
    ofMerged m layers environment = .ok s ↔
      ∃ read defaults, Settings.ofValue m = .ok read ∧
        placeholderDefaults layers environment = .ok defaults ∧
        s = { read with templates := { read.templates with defaults := defaults } } := by
  simp only [ofMerged, bind_eq_ok, pure, Except.pure, Except.ok.injEq]
  constructor
  · rintro ⟨read, hread, defaults, hdefaults, rfl⟩
    exact ⟨read, defaults, hread, hdefaults, rfl⟩
  · rintro ⟨read, defaults, hread, hdefaults, rfl⟩
    exact ⟨read, hread, defaults, hdefaults, rfl⟩

theorem ofMerged_of_error {m : Value} {fault : Fault} (h : Settings.ofValue m = .error fault)
    (layers : List (List (String × Value))) (environment : Table String String) :
    ofMerged m layers environment = .error fault := by
  unfold ofMerged
  rw [h]
  rfl

theorem load_eq_ok_iff {documents : List Document} {environment : Table String String}
    {s : Settings} :
    Settings.load documents environment = .ok s ↔
      ∃ layers read defaults, documents.mapM Document.entries = .ok layers ∧
        Settings.ofValue (merged layers environment) = .ok read ∧
        placeholderDefaults layers environment = .ok defaults ∧
        s = { read with templates := { read.templates with defaults := defaults } } := by
  unfold Settings.load ofLayers
  simp only [bind_eq_ok, ofMerged_eq_ok_iff]
  constructor
  · rintro ⟨layers, hlayers, read, defaults, hread, hdefaults, rfl⟩
    exact ⟨layers, read, defaults, hlayers, hread, hdefaults, rfl⟩
  · rintro ⟨layers, read, defaults, hlayers, hread, hdefaults, rfl⟩
    exact ⟨layers, hlayers, read, defaults, hread, hdefaults, rfl⟩

/-- What settings are made of if nobody sets anything. -/
theorem mergeLayers_nil : mergeLayers [] = .table none [
    ("templates", .table none [
      ("default_lang", .text none "en"), ("templates_path", .text none "templates")]),
    ("smtp", .table none [("host", .text none "localhost"), ("port", .whole none 587)]),
    ("retry", .table none [("max_attempts", .whole none 3)])] := by
  have hlang : pathOf "templates.default_lang" = [.entry "templates", .entry "default_lang"] := by
    decide +kernel
  have hroot : pathOf "templates.templates_path"
      = [.entry "templates", .entry "templates_path"] := by
    decide +kernel
  have hhost : pathOf "smtp.host" = [.entry "smtp", .entry "host"] := by decide +kernel
  have hport : pathOf "smtp.port" = [.entry "smtp", .entry "port"] := by decide +kernel
  have hattempts : pathOf "retry.max_attempts" = [.entry "retry", .entry "max_attempts"] := by
    decide +kernel
  unfold mergeLayers baseLayer Value.overlay Value.setNamed
  simp only [List.foldl_cons, List.foldl_nil, hlang, hroot, hhost, hport, hattempts]
  rfl

/-! ## §3. The variable of a placeholder -/

/-- Two results that differ in one more default value: the same failure, or settings that have the
value and are the same for the rest. -/
inductive Gains (key value : String) : Except Fault Settings → Except Fault Settings → Prop
  | fails (fault : Fault) : Gains key value (.error fault) (.error fault)
  | succeeds {s s' : Settings}
      (others : s' = { s with templates :=
        { s.templates with defaults := s'.templates.defaults } })
      (defaults : ∀ x, s'.templates.defaults.get? x
        = if x = key then some value else s.templates.defaults.get? x) :
      Gains key value (.ok s) (.ok s')

theorem Gains.exists_of_ok {key value : String} {s : Settings} {r : Except Fault Settings}
    (h : Gains key value (.ok s) r) :
    ∃ s', r = .ok s' ∧ ∀ x, s'.templates.defaults.get? x
      = if x = key then some value else s.templates.defaults.get? x := by
  cases h with
  | succeeds others defaults => exact ⟨_, rfl, defaults⟩

/-- An environment in which the variable of a placeholder has a value, and an order of its settings:
those merged earlier, the one of the variable, and those merged later. -/
structure Added (environment : Table String String) (key value : String)
    (earlier : List (String × Value)) (new : Value) (later : List (String × Value)) : Prop where
  identifier : isIdentifier key
  entry : environment.get? (defaultVariable key) = some value
  /-- No other variable has the name, in letters of either case. -/
  only : ∀ name ∈ environment.keys, name.toLower = (defaultVariable key).toLower →
    name = defaultVariable key
  order : (earlier ++ (defaultSetting key, new) :: later).Perm (environmentLayer environment).entries

/-- The environment without the variable of a placeholder. -/
def before (environment : Table String String) (key : String) : Table String String :=
  environment.erase (defaultVariable key)

/-- The settings of the environment in the order that they have without the variable. -/
def orderBefore (environment : Table String String) (key : String)
    (earlier later : List (String × Value)) : List (String × Value) :=
  earlier ++ former (before environment key) (defaultSetting key) ++ later

/-- A name that is read as that of the variable of a placeholder is its name, but for the case of
letters. -/
theorem toLower_of_placeholderName? {name key : String} (h : placeholderName? name = some key) :
    name.toLower = (defaultVariable key).toLower := by
  unfold placeholderName? at h
  dsimp only at h
  split at h
  · next hprefix =>
    rw [Bool.and_eq_true, decide_eq_true_iff] at hprefix
    have hkey : name.toList.drop placeholderPrefix.length = key.toList := by
      rw [← Option.some.inj h, String.toList_ofList]
    refine String.toList_injective ?_
    unfold String.toLower defaultVariable
    rw [String.toList_map, String.toList_map, String.toList_append, List.map_append,
      toLower_literal, ← placeholderPrefix_eq, ← hprefix.1, ← hkey, ← List.map_append,
      List.take_append_drop]
  · cases h

namespace Added

variable {environment : Table String String} {key value : String}
  {earlier later : List (String × Value)} {new : Value} {layers : List (List (String × Value))}
  {s : Settings} (h : Added environment key value earlier new later)

include h

theorem isSingle : new.isSingle ∧ ∀ e ∈ later, e.2.isSingle := by
  have hall : ∀ e ∈ earlier ++ (defaultSetting key, new) :: later, e.2.isSingle := fun e he =>
    isSingle_of_mem_environmentLayer environment e (h.order.subset he)
  rw [List.forall_mem_append, List.forall_mem_cons] at hall
  exact hall.2

/-- Settings that are read as they were gain the default value. -/
theorem gains {m : Value} {read : Settings} {texts defaults : Table String String}
    (hread : Settings.ofValue m
      = .ok { read with templates := { read.templates with defaults := texts } })
    (hdefaults : placeholderDefaults layers (before environment key) = .ok defaults) :
    Gains key value (.ok { read with templates := { read.templates with defaults := defaults } })
      (ofMerged m layers environment) := by
  obtain ⟨defaults', hdefaults', hget⟩ := placeholderDefaults_erase h.entry
    (placeholderName?_defaultVariable h.identifier)
    (fun other hother hname => h.only other hother (toLower_of_placeholderName? hname)) hdefaults
  rw [ofMerged_eq_ok_iff.2 ⟨_, defaults', hread, hdefaults', rfl⟩]
  exact .succeeds rfl hget

/-- Beside another variable for the same setting, the variable of a placeholder changes nothing but
the default value. -/
theorem ofLayers_of_isSet
    (hload : ofLayers layers (orderBefore environment key earlier later) (before environment key)
      = .ok s) (hset : IsSet (before environment key) (defaultSetting key)) :
    Gains key value (.ok s)
      (ofLayers layers (earlier ++ (defaultSetting key, new) :: later) environment) := by
  obtain ⟨read, defaults, hread, hdefaults, rfl⟩ := ofMerged_eq_ok_iff.1 hload
  obtain ⟨old, hold⟩ := Option.isSome_iff_exists.1 (Table.get?_isSome_iff.2 (isSet_iff.1 hset))
  have hformer : former (before environment key) (defaultSetting key)
      = [(defaultSetting key, old)] := by
    unfold former
    rw [hold]
    rfl
  have holdSingle : old.isSingle :=
    isSingle_of_mem_environmentLayer (before environment key) _ (mem_of_lookup hold)
  rw [orderBefore, hformer, mergeLayers_concat, List.append_assoc, overlay_append,
    List.singleton_append, overlay_cons] at hread
  unfold ofLayers
  rw [mergeLayers_concat, overlay_append, overlay_cons]
  -- the two layers begin alike, differ in the value of this setting and end alike
  have hself : forget (defaultPath key)
        (((mergeLayers layers).overlay earlier).setNamed (defaultSetting key) old)
      = forget (defaultPath key)
        (((mergeLayers layers).overlay earlier).setNamed (defaultSetting key) new) := by
    have hput := Value.forget_setAt_self holdSingle h.isSingle.1 (defaultPath key)
      ((mergeLayers layers).overlay earlier)
    rw [toLowerCase_defaultPath h.identifier] at hput
    unfold Value.setNamed
    rw [pathOf_defaultSetting h.identifier]
    exact hput
  obtain ⟨texts, htexts⟩ :=
    ofValue_of_forget hread (Value.forget_overlay_congr h.isSingle.2 hself)
  exact h.gains htexts hdefaults

omit h in
theorem former_eq_nil {setting : String} (hnew : ¬IsSet environment setting) :
    former environment setting = [] := by
  unfold former
  cases hget : (environmentLayer environment).get? setting with
  | none => rfl
  | some old => exact absurd (isSet_iff.2 (List.mem_map_of_mem (mem_of_lookup hget))) hnew

omit h in
/-- What the settings are without the variable, if no other one is its setting. -/
theorem exists_read (hnew : ¬IsSet (before environment key) (defaultSetting key))
    (hload : ofLayers layers (orderBefore environment key earlier later) (before environment key)
      = .ok s) :
    ∃ read defaults,
      Settings.ofValue (((mergeLayers layers).overlay earlier).overlay later) = .ok read ∧
        placeholderDefaults layers (before environment key) = .ok defaults ∧
        s = { read with templates := { read.templates with defaults := defaults } } := by
  obtain ⟨read, defaults, hread, hdefaults, hs⟩ := ofMerged_eq_ok_iff.1 hload
  rw [orderBefore, former_eq_nil hnew, List.append_nil, mergeLayers_concat, overlay_append] at hread
  exact ⟨read, defaults, hread, hdefaults, hs⟩

/-- A variable whose setting is no path changes nothing but the default value. -/
theorem ofLayers_of_unread (hpath : "" ∈ segments key) {read : Settings}
    {defaults : Table String String}
    (hread : Settings.ofValue (((mergeLayers layers).overlay earlier).overlay later) = .ok read)
    (hdefaults : placeholderDefaults layers (before environment key) = .ok defaults) :
    Gains key value (.ok { read with templates := { read.templates with defaults := defaults } })
      (ofLayers layers (earlier ++ (defaultSetting key, new) :: later) environment) := by
  unfold ofLayers
  rw [mergeLayers_concat, overlay_append, overlay_cons]
  have hsame := (ofValue_of_unread h.identifier h.isSingle.1 hpath h.isSingle.2).trans hread
  exact h.gains hsame hdefaults

section Path

variable (hpath : "" ∉ segments key)

include hpath

/-- Where the variable has its turn, a section that is a list is emptied first. -/
theorem ofLayers_eq :
    ofLayers layers (earlier ++ (defaultSetting key, new) :: later) environment
      = ofMerged (((emptied ((mergeLayers layers).overlay earlier)).setNamed (defaultSetting key)
          new).overlay later) layers environment := by
  unfold ofLayers
  rw [mergeLayers_concat, overlay_append, overlay_cons,
    setNamed_emptied h.identifier h.isSingle.1 hpath]

omit h hpath in
/-- There the settings are a table, and the section is none that is a list. -/
theorem isList_turn (layers : List (List (String × Value))) (earlier : List (String × Value)) :
    (emptied ((mergeLayers layers).overlay earlier)).isList = false :=
  isList_emptied (isList_overlay (isList_mergeLayers layers) earlier)

/-- A plain name, or one whose setting is overtaken, is one more default value for the settings that
have such a section emptied. -/
theorem ofLayers_of_plain (hplain : IsPlain key ∨ Overtaken later key) {read : Settings}
    {defaults : Table String String}
    (hread : Settings.ofValue ((emptied ((mergeLayers layers).overlay earlier)).overlay later)
      = .ok read)
    (hdefaults : placeholderDefaults layers (before environment key) = .ok defaults) :
    Gains key value (.ok { read with templates := { read.templates with defaults := defaults } })
      (ofLayers layers (earlier ++ (defaultSetting key, new) :: later) environment) := by
  obtain ⟨texts, htexts⟩ := ofValue_of_plain h.identifier h.isSingle.1 hpath h.isSingle.2
    (isList_turn layers earlier) (not_listsTemplates_emptied _) hread hplain
  rw [h.ofLayers_eq hpath]
  exact h.gains htexts hdefaults

/-- A nested name whose setting is not overtaken is refused. -/
theorem ofLayers_of_nested (hnested : ¬IsPlain key) (huncut : ¬Overtaken later key)
    {read : Settings}
    (hread : Settings.ofValue ((emptied ((mergeLayers layers).overlay earlier)).overlay later)
      = .ok read) :
    ofLayers layers (earlier ++ (defaultSetting key, new) :: later) environment
      = .error (nestedFault key) := by
  rw [h.ofLayers_eq hpath]
  exact ofMerged_of_error (ofValue_of_nested h.identifier h.isSingle.1 hpath h.isSingle.2
    (isList_turn layers earlier) (not_listsTemplates_emptied _) hread hnested huncut) layers _

/-- If the section is a list in the end, the setting of the variable is overtaken, and what it made
does not show. -/
theorem ofLayers_of_list
    (hlist : ListsTemplates ((emptied ((mergeLayers layers).overlay earlier)).overlay later)) :
    Overtaken later key ∧ ∀ fault,
      Settings.ofValue ((emptied ((mergeLayers layers).overlay earlier)).overlay later)
        = .error fault →
      ofLayers layers (earlier ++ (defaultSetting key, new) :: later) environment
        = .error fault := by
  obtain ⟨hovertaken, hsame⟩ := ofValue_of_list h.identifier h.isSingle.1 hpath h.isSingle.2
    (isList_turn layers earlier) (not_listsTemplates_emptied _) hlist
  refine ⟨hovertaken, fun fault hfault => ?_⟩
  rw [h.ofLayers_eq hpath]
  exact ofMerged_of_error (hsame.trans hfault) layers _

end Path

end Added

/-- **What the variable of a placeholder does to settings that could be read**, provided that no
other variable has its name in letters of either case, and whatever the order in which the settings
of the environment are merged; without the variable they are merged in the same order.

The settings gain the default value, to the letter, and nothing else changes, if another variable is
the same setting already, if that setting is no path, or if the name of the placeholder is plain or
its setting is overtaken by a later one; except that a section on templates that is a list when the
variable has its turn, and is one in the end, is emptied on the way.  A nested name whose setting is
not overtaken fails the reading. -/
theorem ofLayers_add_defaultVariable {environment : Table String String} {key value : String}
    {earlier later : List (String × Value)} {new : Value} {layers : List (List (String × Value))}
    {s : Settings} (h : Added environment key value earlier new later)
    (hload : ofLayers layers (orderBefore environment key earlier later) (before environment key)
      = .ok s) :
    let turn := (mergeLayers layers).overlay earlier
    let listed := ListsTemplates turn ∧ ListsTemplates (turn.overlay later)
    let taken := IsSet (before environment key) (defaultSetting key)
    let result := ofLayers layers (earlier ++ (defaultSetting key, new) :: later) environment
    (orderBefore environment key earlier later).Perm
        (environmentLayer (before environment key)).entries ∧
      (taken ∨ "" ∈ segments key ∨ (IsPlain key ∨ Overtaken later key) ∧ ¬listed →
        Gains key value (.ok s) result) ∧
      (¬taken → IsNested key → ¬Overtaken later key → result = .error (nestedFault key)) ∧
      (¬taken → IsPlain key → ¬Overtaken later key → listed →
        Gains key value (.ok { s with templates := { defaults := s.templates.defaults } })
          result) ∧
      (¬taken → "" ∉ segments key → Overtaken later key → listed →
        Gains key value (ofMerged ((emptied turn).overlay later) layers (before environment key))
          result) := by
  intro turn listed taken result
  refine ⟨perm_former h.entry (settingName?_defaultVariable h.identifier) h.order,
    fun hgains => ?gains, fun hnew hnested huncut => ?nested, fun hnew hplain huncut hlisted => ?list,
    fun hnew hpath hover hlisted => ?overtaken⟩
  case gains =>
    by_cases htaken : taken
    · exact h.ofLayers_of_isSet hload htaken
    · obtain ⟨read, defaults, hread, hdefaults, rfl⟩ := Added.exists_read htaken hload
      by_cases hpath : "" ∈ segments key
      · exact h.ofLayers_of_unread hpath hread hdefaults
      · obtain ⟨hplain, hnot⟩ := (hgains.resolve_left htaken).resolve_left hpath
        refine h.ofLayers_of_plain hpath hplain ?_ hdefaults
        by_cases hend : ListsTemplates (turn.overlay later)
        · have hsame : emptied turn = turn := if_neg fun hturn => hnot ⟨hturn, hend⟩
          exact (congrArg (fun v => Settings.ofValue (v.overlay later)) hsame).trans hread
        · exact (ofValue_of_emptied h.isSingle.2 hread).1 hend
  case nested =>
    obtain ⟨read, -, hread, -, -⟩ := Added.exists_read hnew hload
    obtain ⟨hsame, hlist⟩ := ofValue_of_emptied h.isSingle.2 hread
    by_cases hend : ListsTemplates (turn.overlay later)
    · rcases hlist hend with hlist | hreset
      · exact absurd (h.ofLayers_of_list hnested.1 hlist).1 huncut
      · exact h.ofLayers_of_nested hnested.1 hnested.2 huncut hreset
    · exact h.ofLayers_of_nested hnested.1 hnested.2 huncut (hsame hend)
  case list =>
    have hpath := not_mem_segments_of_length_eq_one h.identifier hplain
    obtain ⟨read, defaults, hread, hdefaults, rfl⟩ := Added.exists_read hnew hload
    rcases (ofValue_of_emptied h.isSingle.2 hread).2 hlisted.2 with hlist | hreset
    · exact absurd (h.ofLayers_of_list hpath hlist).1 huncut
    · exact h.ofLayers_of_plain hpath (.inl hplain) hreset hdefaults
  case overtaken =>
    obtain ⟨read, defaults, hread, hdefaults, rfl⟩ := Added.exists_read hnew hload
    cases hemptied : Settings.ofValue ((emptied turn).overlay later) with
    | ok read' =>
      rw [ofMerged_eq_ok_iff.2 ⟨read', defaults, hemptied, hdefaults, rfl⟩]
      exact h.ofLayers_of_plain hpath (.inr hover) hemptied hdefaults
    | error fault =>
      -- a section that is left empty can be read, so it is a list
      rcases (ofValue_of_emptied h.isSingle.2 hread).2 hlisted.2 with hlist | hreset
      · have hresult : result = .error fault := (h.ofLayers_of_list hpath hlist).2 fault hemptied
        rw [ofMerged_of_error hemptied, hresult]
        exact .fails fault
      · have hboth := hemptied.symm.trans hreset
        cases hboth

/-- The variables of two placeholders, one of them nested. -/
def nestedEnvironment : Table String String :=
  .ofList [(defaultVariable "A", "y"), (defaultVariable "A__B", "x")]

/-- The variable of `A__B` beside that of `A`: merged first, it is overtaken by the other one, and
both default values are there; merged last, it fails the reading. -/
theorem ofLayers_add_defaultVariable_nested :
    let one := (defaultSetting "A", Value.ofVariable "y")
    let two := (defaultSetting "A__B", Value.ofVariable "x")
    (∃ s, ofLayers [] [two, one] nestedEnvironment = .ok s ∧
        s.templates.defaults.get? "A__B" = some "x" ∧ s.templates.defaults.get? "A" = some "y") ∧
      ofLayers [] [one, two] nestedEnvironment
        = .error (.wrongType .table "a string" (some "templates.defaults.a") none) := by
  intro one two
  have hone : settingName? (defaultVariable "A") = some one.1 :=
    settingName?_defaultVariable (by decide)
  have htwo : settingName? (defaultVariable "A__B") = some two.1 :=
    settingName?_defaultVariable (by decide)
  have hne : one.1 ≠ two.1 := by decide +kernel
  have hlayer : (environmentLayer nestedEnvironment).entries = [one, two] := by
    have hentries : nestedEnvironment.entries
        = [(defaultVariable "A", "y"), (defaultVariable "A__B", "x")] := rfl
    unfold environmentLayer
    rw [hentries]
    simp only [List.filterMap_cons, hone, htwo, Option.map_some, List.filterMap_nil]
    show putEntry two.1 two.2 [one] = [one, two]
    rw [putEntry, if_neg hne]
    rfl
  have hnew : ¬IsSet (before nestedEnvironment "A__B") (defaultSetting "A__B") := by
    rw [isSet_iff]
    decide +kernel
  have hnested : IsNested "A__B" := by
    unfold IsNested IsPlain
    decide +kernel
  have hkeys : nestedEnvironment.keys = [defaultVariable "A", defaultVariable "A__B"] := rfl
  have honly : ∀ name ∈ nestedEnvironment.keys,
      name.toLower = (defaultVariable "A__B").toLower → name = defaultVariable "A__B" := by
    rw [hkeys]
    decide +kernel
  have hentry : nestedEnvironment.get? (defaultVariable "A__B") = some "x" := by decide +kernel
  have hadded (earlier later : List (String × Value))
      (horder : (earlier ++ two :: later).Perm [one, two]) :
      Added nestedEnvironment "A__B" "x" earlier two.2 later :=
    ⟨by decide, hentry, honly, hlayer ▸ horder⟩
  have hload (earlier later : List (String × Value)) (h : earlier ++ later = [one]) :
      ofLayers [] (orderBefore nestedEnvironment "A__B" earlier later)
          (before nestedEnvironment "A__B")
        = .ok { templates := { defaults := .ofList [("A", "y")] } } := by
    rw [orderBefore, Added.former_eq_nil hnew, List.append_nil, h]
    decide +kernel
  constructor
  · have hover : Overtaken [one] "A__B" := by decide +kernel
    have hnot : ¬ListsTemplates (((mergeLayers []).overlay []).overlay [one]) := by
      unfold ListsTemplates
      decide +kernel
    obtain ⟨-, hgains, -⟩ := ofLayers_add_defaultVariable
      (hadded [] [one] (.swap one two [])) (hload [] [one] rfl)
    obtain ⟨s, hs, hdefaults⟩ :=
      (hgains (.inr (.inr ⟨.inr hover, fun h => hnot h.2⟩))).exists_of_ok
    have hother : ("A" : String) ≠ "A__B" := by decide
    refine ⟨s, hs, (hdefaults "A__B").trans (if_pos rfl), (hdefaults "A").trans ?_⟩
    rw [if_neg hother]
    decide
  · have huncut : ¬Overtaken [] "A__B" := by decide +kernel
    have hfault : nestedFault "A__B"
        = .wrongType .table "a string" (some "templates.defaults.a") none := by
      decide +kernel
    obtain ⟨-, -, hfails, -⟩ := ofLayers_add_defaultVariable
      (hadded [one] [] (.refl [one, two])) (hload [one] [] rfl)
    rw [← hfault]
    exact hfails hnew hnested huncut

/-- The name of a placeholder with double underscores fails the reading. -/
theorem load_insert_nested_fails :
    isIdentifier "A__B" ∧ Settings.load [] .empty = .ok {} ∧
      Settings.load [] (Table.empty.insert "MAILER__TEMPLATES__DEFAULTS__A__B" "x")
        = .error (.wrongType .table "a string" (some "templates.defaults.a") none) :=
  ⟨by decide, by decide +kernel, by decide +kernel⟩

end Settings

end LocalizedMail
