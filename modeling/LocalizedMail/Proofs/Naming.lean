import LocalizedMail.Proofs.Scanning
import LocalizedMail.Settings.Environment

/-!
# Names of variables

The default value of the placeholder `SUPPORT_EMAIL` is held by the variable
`MAILER__TEMPLATES__DEFAULTS__SUPPORT_EMAIL`.  The name of such a variable is read twice: once as
the name of a setting, in lower case and with a dot for every two underscores, and once as the
prefix and the name of the placeholder.

The two readings part where the placeholder has two underscores in a row: for the second it is one
name, for the first it is several *segments*.

  * `toLowerCase_of_ascii`: on ASCII, lower case is letter by letter;
  * `places?_dotted`: dotted names are paths unless a segment is empty;
  * `settingName?_defaultVariable`, `pathOf_defaultSetting`: the first reading;
  * `placeholderName?_defaultVariable`: the second one.
-/

namespace LocalizedMail

/-! ## §1. Lower case of ASCII -/

namespace Text

theorem lowerCase_of_ascii {c : Char} (h : c.toNat < 128) : lowerCase c = [c.toLower] :=
  ascii_forall (P := fun c => lowerCase c = [c.toLower]) (by decide +kernel) h

theorem lowerCaseAfter_of_ascii {cs : List Char} (h : ∀ c ∈ cs, c.toNat < 128)
    (before : List Char) : lowerCaseAfter before cs = cs.map Char.toLower := by
  induction cs generalizing before with
  | nil => rfl
  | cons c cs ih =>
    have hc : c.toNat < 128 := h c List.mem_cons_self
    have hsigma : c ≠ 'Σ' := by
      rintro rfl
      exact absurd hc (by decide)
    unfold lowerCaseAfter
    rw [if_neg hsigma, lowerCase_of_ascii hc, ih fun d hd => h d (List.mem_cons_of_mem c hd)]
    rfl

/-- The lower case of an ASCII text is the lower case of each of its characters. -/
theorem toLowerCase_of_ascii {s : String} (h : ∀ c ∈ s.toList, c.toNat < 128) :
    toLowerCase s = String.ofList (s.toList.map Char.toLower) := by
  unfold toLowerCase
  rw [lowerCaseAfter_of_ascii h]

end Text

namespace Settings

open Placeholder (isIdentifier isInner isInner_forall inner_of_isIdentifierChars)

/-! ## §2. Characters of names -/

theorem toNat_lt_of_isInner {c : Char} (h : isInner c) : c.toNat < 128 :=
  isInner_forall (P := fun c => c.toNat < 128) (by decide +kernel) h

theorem isInner_toLower {c : Char} (h : isInner c) : isInner c.toLower :=
  isInner_forall (P := fun c => isInner c.toLower) (by decide +kernel) h

theorem toLower_toLower {c : Char} (h : isInner c) : c.toLower.toLower = c.toLower :=
  isInner_forall (P := fun c => c.toLower.toLower = c.toLower) (by decide +kernel) h

theorem isNameChar_of_isInner {c : Char} (h : isInner c) : isNameChar c :=
  isInner_forall (P := fun c => isNameChar c) (by decide +kernel) h

/-- Whether a character belongs to a dotted name: to one of its segments, or between two. -/
def IsDotted (c : Char) : Prop := isNameChar c ∨ c = '.'

/-- Whether a character may come into a dotted name from the name of a placeholder. -/
def isLowered (c : Char) : Bool := (isInner c && c.toLower == c) || c == '.'

theorem isLowered_iff {c : Char} : isLowered c ↔ isInner c ∧ c.toLower = c ∨ c = '.' := by
  simp [isLowered]

theorem IsDotted.of_isLowered {c : Char} (h : isLowered c) : IsDotted c :=
  (isLowered_iff.1 h).imp_left fun h => isNameChar_of_isInner h.1

/-! ## §3. Dots for underscores -/

theorem mem_dotUnderscores {c : Char} {cs : List Char} (h : c ∈ dotUnderscores cs) :
    c ∈ cs ∨ c = '.' := by
  fun_induction dotUnderscores cs with
  | case1 rest ih =>
    rcases List.mem_cons.1 h with rfl | h
    · exact .inr rfl
    · exact (ih h).imp_left fun h => List.mem_cons_of_mem _ (List.mem_cons_of_mem _ h)
  | case2 d rest hnot ih =>
    rcases List.mem_cons.1 h with rfl | h
    · exact .inl List.mem_cons_self
    · exact (ih h).imp_left (List.mem_cons_of_mem _)
  | case3 => simp at h

/-- The underscores of the prefix are all used up before the name of the placeholder begins. -/
theorem dotUnderscores_prefix (cs : List Char) :
    dotUnderscores ("templates__defaults__".toList ++ cs)
      = "templates.defaults.".toList ++ dotUnderscores cs := by
  rfl

/-! ## §4. Dotted names -/

/-- What follows the plain name at the start of a dotted text: nothing, or a dot. -/
theorem dropWhile_dotted {cs : List Char} (h : ∀ c ∈ cs, IsDotted c) :
    cs.dropWhile isNameChar = [] ∨ ∃ rest, cs.dropWhile isNameChar = '.' :: rest := by
  cases hrest : cs.dropWhile isNameChar with
  | nil => exact .inl rfl
  | cons d rest =>
    have hmem : d ∈ cs := (List.dropWhile_sublist isNameChar).subset (hrest ▸ List.mem_cons_self)
    have hnot : isNameChar d = false := by
      have hhead := List.head_dropWhile_not (p := isNameChar) (l := cs) (by simp [hrest])
      simpa only [hrest, List.head_cons] using hhead
    rcases h d hmem with hd | rfl
    · rw [hd] at hnot
      cases hnot
    · exact .inr ⟨rest, rfl⟩

theorem not_mem_takeWhile (cs : List Char) : '.' ∉ cs.takeWhile isNameChar := by
  intro h
  exact absurd (List.mem_takeWhile_imp h) (by decide)

/-- A text of dots and plain names is a path if there is a name after each dot. -/
theorem places?_dotted {cs : List Char} (h : ∀ c ∈ cs, IsDotted c) :
    places? ('.' :: cs)
      = if [] ∈ cs.splitOn '.' then none
        else some ((cs.splitOn '.').map fun p => .entry (String.ofList p)) := by
  have hcs : cs.takeWhile isNameChar ++ cs.dropWhile isNameChar = cs :=
    List.takeWhile_append_dropWhile
  rw [places?]
  rcases dropWhile_dotted h with hend | ⟨rest, hdot⟩
  · -- the last name
    have hsplit : cs.splitOn '.' = [cs.takeWhile isNameChar] := by
      rw [hend, List.append_nil] at hcs
      rw [hcs, List.splitOn_eq_singleton (hcs ▸ not_mem_takeWhile cs)]
    rw [hsplit, hend]
    cases cs.takeWhile isNameChar <;> simp [places?]
  · -- a name before a dot, and a shorter text after it
    have hsplit : cs.splitOn '.' = cs.takeWhile isNameChar :: rest.splitOn '.' := by
      rw [hdot] at hcs
      rw [← List.splitOn_append_cons_self_of_not_mem (not_mem_takeWhile cs), hcs]
    have hlength : rest.length < cs.length := by
      have := Text.length_skip_le isNameChar cs
      rw [hdot, List.length_cons] at this
      omega
    have hrest : ∀ c ∈ rest, IsDotted c := fun c hc =>
      h c ((List.dropWhile_sublist isNameChar).subset (hdot ▸ List.mem_cons_of_mem _ hc))
    rw [hsplit, hdot, places?_dotted hrest]
    cases cs.takeWhile isNameChar with
    | nil => simp
    | cons d ds =>
      by_cases hempty : [] ∈ rest.splitOn '.'
      · simp [hempty]
      · simp [hempty]
termination_by cs.length

/-- The items between separators are made of what the list is made of. -/
theorem mem_of_mem_splitOn {c sep : Char} {cs part : List Char} (hpart : part ∈ cs.splitOn sep)
    (hc : c ∈ part) : c ∈ cs := by
  induction cs generalizing part with
  | nil =>
    rw [List.splitOn_nil, List.mem_singleton] at hpart
    exact hpart ▸ hc
  | cons d cs ih =>
    rw [List.splitOn_cons_eq_if_modifyHead] at hpart
    split at hpart
    · rcases List.mem_cons.1 hpart with rfl | hpart
      · simp at hc
      · exact List.mem_cons_of_mem d (ih hpart hc)
    · cases hsplit : cs.splitOn sep with
      | nil => exact absurd hsplit (List.splitOn_ne_nil sep cs)
      | cons first more =>
        rw [hsplit, List.modifyHead_cons, List.mem_cons] at hpart
        rcases hpart with rfl | hpart
        · rcases List.mem_cons.1 hc with rfl | hc
          · exact List.mem_cons_self
          · exact List.mem_cons_of_mem d (ih (hsplit ▸ List.mem_cons_self) hc)
        · exact List.mem_cons_of_mem d (ih (hsplit ▸ List.mem_cons_of_mem first hpart) hc)

/-! ## §5. The variable of a placeholder -/

/-- The variable that holds the default value of a placeholder. -/
def defaultVariable (key : String) : String := "MAILER__TEMPLATES__DEFAULTS__" ++ key

/-- The name of a placeholder as the names of settings are spelled. -/
def dottedKey (key : String) : List Char := dotUnderscores (key.toList.map Char.toLower)

/-- The setting that the variable of a placeholder is. -/
def defaultSetting (key : String) : String :=
  String.ofList ("templates.defaults.".toList ++ dottedKey key)

/-- What stands between the double underscores of the name of a placeholder, in lower case. -/
def segments (key : String) : List String := ((dottedKey key).splitOn '.').map String.ofList

theorem segments_ne_nil (key : String) : segments key ≠ [] := by
  unfold segments
  rw [ne_eq, List.map_eq_nil_iff]
  exact List.splitOn_ne_nil '.' _

/-- No section has such a name. -/
theorem defaultSetting_not_mem (key : String) :
    defaultSetting key ∉ ["templates", "smtp", "retry", "logging"] := by
  intro h
  have hdot : '.' ∈ (defaultSetting key).toList := by
    unfold defaultSetting
    rw [String.toList_ofList]
    exact List.mem_append_left _ (by decide)
  have hplain : ∀ name ∈ ["templates", "smtp", "retry", "logging"], '.' ∉ name.toList := by decide
  exact hplain _ h hdot

variable {key : String}

theorem isLowered_of_mem_dottedKey (hkey : isIdentifier key) {c : Char}
    (hc : c ∈ dottedKey key) : isLowered c := by
  refine isLowered_iff.2 <| (mem_dotUnderscores hc).imp_left fun hc => ?_
  obtain ⟨d, hd, rfl⟩ := List.mem_map.1 hc
  have hinner := (inner_of_isIdentifierChars hkey).2 d hd
  exact ⟨isInner_toLower hinner, toLower_toLower hinner⟩

/-- A dotted name in lower case stays as it is. -/
theorem toLowerCase_of_isLowered (cs : List Char) (h : ∀ c ∈ cs, isLowered c) :
    Text.toLowerCase (String.ofList cs) = String.ofList cs := by
  have hascii : ∀ c ∈ cs, c.toNat < 128 := by
    intro c hc
    rcases isLowered_iff.1 (h c hc) with ⟨hinner, -⟩ | rfl
    · exact toNat_lt_of_isInner hinner
    · decide
  have hlower : ∀ c ∈ cs, c.toLower = id c := by
    intro c hc
    rcases isLowered_iff.1 (h c hc) with ⟨-, hlower⟩ | rfl
    · exact hlower
    · decide
  rw [Text.toLowerCase_of_ascii (by rwa [String.toList_ofList]), String.toList_ofList,
    List.map_congr_left hlower, List.map_id]

theorem toLowerCase_segment (hkey : isIdentifier key) {segment : String}
    (h : segment ∈ segments key) : Text.toLowerCase segment = segment := by
  obtain ⟨cs, hcs, rfl⟩ := List.mem_map.1 h
  exact toLowerCase_of_isLowered cs fun c hc =>
    isLowered_of_mem_dottedKey hkey (mem_of_mem_splitOn hcs hc)

theorem toLowerCase_templates : Text.toLowerCase "templates" = "templates" :=
  toLowerCase_of_isLowered "templates".toList (List.all_eq_true.1 (by decide))

theorem toLowerCase_defaults : Text.toLowerCase "defaults" = "defaults" :=
  toLowerCase_of_isLowered "defaults".toList (List.all_eq_true.1 (by decide))

theorem toNat_lt_literal : ∀ c ∈ "MAILER__TEMPLATES__DEFAULTS__".toList, c.toNat < 128 := by
  have hall : "MAILER__TEMPLATES__DEFAULTS__".toList.all (fun c => c.toNat < 128) := by decide
  exact fun c hc => of_decide_eq_true (List.all_eq_true.1 hall c hc)

theorem head?_segment (hkey : isIdentifier key) {segment : String} (h : segment ∈ segments key) :
    segment.toList.head? ≠ some '[' := by
  obtain ⟨cs, hcs, rfl⟩ := List.mem_map.1 h
  intro hhead
  rw [String.toList_ofList] at hhead
  exact absurd
    (isLowered_of_mem_dottedKey hkey (mem_of_mem_splitOn hcs (List.mem_of_mem_head? hhead)))
    (by decide)

theorem toLower_literal :
    "MAILER__TEMPLATES__DEFAULTS__".toList.map Char.toLower
      = variablePrefix ++ "templates__defaults__".toList := by
  decide

theorem placeholderPrefix_eq :
    placeholderPrefix = variablePrefix ++ "templates__defaults__".toList := by
  decide

theorem isLowered_literal : ∀ c ∈ "templates.defaults.".toList, isLowered c :=
  List.all_eq_true.1 (by decide)

theorem toLowerCase_defaultSetting (hkey : isIdentifier key) :
    Text.toLowerCase (defaultSetting key) = defaultSetting key := by
  refine toLowerCase_of_isLowered _ fun c hc => ?_
  rcases List.mem_append.1 hc with hc | hc
  · exact isLowered_literal c hc
  · exact isLowered_of_mem_dottedKey hkey hc

/-- As the name of a setting, the variable of a placeholder is in lower case and dotted. -/
theorem settingName?_defaultVariable (hkey : isIdentifier key) :
    settingName? (defaultVariable key) = some (defaultSetting key) := by
  have hascii : ∀ c ∈ (defaultVariable key).toList, c.toNat < 128 := by
    intro c hc
    unfold defaultVariable at hc
    rw [String.toList_append, List.mem_append] at hc
    exact hc.elim (toNat_lt_literal c) fun hc =>
      toNat_lt_of_isInner ((inner_of_isIdentifierChars hkey).2 c hc)
  have hlower : (Text.toLowerCase (defaultVariable key)).toList
      = variablePrefix ++ ("templates__defaults__".toList ++ key.toList.map Char.toLower) := by
    rw [Text.toLowerCase_of_ascii hascii, String.toList_ofList]
    unfold defaultVariable
    rw [String.toList_append, List.map_append, toLower_literal, List.append_assoc]
  unfold settingName? defaultSetting dottedKey
  simp only [hlower]
  rw [if_pos (List.isPrefixOf_iff_prefix.2 (List.prefix_append _ _)), List.drop_left,
    dotUnderscores_prefix]

/-- As a default value, the variable of a placeholder has the placeholder's name as it is. -/
theorem placeholderName?_defaultVariable (hkey : isIdentifier key) :
    placeholderName? (defaultVariable key) = some key := by
  have hlength : "MAILER__TEMPLATES__DEFAULTS__".toList.length = placeholderPrefix.length := by
    decide
  have hkeyPos : 0 < key.toList.length :=
    List.length_pos_iff.2 (inner_of_isIdentifierChars hkey).1
  unfold placeholderName? defaultVariable
  simp only [String.toList_append]
  rw [← hlength, List.take_left, List.drop_left, toLower_literal, placeholderPrefix_eq,
    List.length_append, if_pos, String.ofList_toList]
  simpa using hkeyPos

/-- The names that lead to the setting of a placeholder: below the default values, unless a segment
is empty, for then the whole name is that of an entry. -/
def defaultPath (key : String) : List String :=
  if "" ∈ segments key then [defaultSetting key] else "templates" :: "defaults" :: segments key

theorem mem_segments_empty : "" ∈ segments key ↔ [] ∈ (dottedKey key).splitOn '.' := by
  unfold segments
  rw [List.mem_map]
  constructor
  · rintro ⟨cs, hcs, hempty⟩
    have hnil : cs = [] := by simpa using congrArg String.toList hempty
    exact hnil ▸ hcs
  · exact fun h => ⟨[], h, rfl⟩

theorem dotUnderscores_ne_nil {cs : List Char} (h : cs ≠ []) : dotUnderscores cs ≠ [] := by
  fun_cases dotUnderscores cs with
  | case1 rest => exact List.cons_ne_nil '.' _
  | case2 c rest hnot => exact List.cons_ne_nil c _
  | case3 => exact absurd rfl h

/-- A name without double underscores is a path. -/
theorem not_mem_segments_of_length_eq_one (hkey : isIdentifier key)
    (hone : (segments key).length = 1) : "" ∉ segments key := by
  have hnil : dottedKey key ≠ [] :=
    dotUnderscores_ne_nil (by simpa using (inner_of_isIdentifierChars hkey).1)
  obtain ⟨cs, hcs⟩ : ∃ cs, (dottedKey key).splitOn '.' = [cs] := by
    simpa [segments, List.length_eq_one_iff] using hone
  have hjoin : ['.'].intercalate ((dottedKey key).splitOn '.') = dottedKey key :=
    List.intercalate_splitOn '.'
  rw [mem_segments_empty, hcs, List.mem_singleton]
  rintro rfl
  rw [hcs] at hjoin
  exact hnil hjoin.symm

theorem pathOf_defaultSetting (hkey : isIdentifier key) :
    pathOf (defaultSetting key) = (defaultPath key).map .entry := by
  have hdotted : ∀ c ∈ "defaults.".toList ++ dottedKey key, IsDotted c := by
    intro c hc
    refine .of_isLowered ?_
    rcases List.mem_append.1 hc with hc | hc
    · exact isLowered_literal c (List.mem_append_right "templates.".toList hc)
    · exact isLowered_of_mem_dottedKey hkey hc
  have hnoDot : '.' ∉ "defaults".toList := by decide
  have hsplit : ("defaults.".toList ++ dottedKey key).splitOn '.'
      = "defaults".toList :: (dottedKey key).splitOn '.' :=
    List.splitOn_append_cons_self_of_not_mem hnoDot (dottedKey key)
  have hpath : path? (defaultSetting key)
      = (places? ('.' :: ("defaults.".toList ++ dottedKey key))).map (.entry "templates" :: ·) := by
    unfold path? defaultSetting
    rw [String.toList_ofList]
    rfl
  unfold pathOf defaultPath
  rw [hpath, places?_dotted hdotted, hsplit]
  by_cases h : "" ∈ segments key
  · rw [if_pos h, if_pos (List.mem_cons_of_mem _ (mem_segments_empty.1 h))]
    rfl
  · have hnot : [] ∉ "defaults".toList :: (dottedKey key).splitOn '.' := by
      rw [List.mem_cons, ← mem_segments_empty]
      rintro (hnil | hmem)
      · exact absurd hnil (by decide)
      · exact h hmem
    rw [if_neg h, if_neg hnot]
    simp [segments]

/-- The names of the path are in lower case. -/
theorem toLowerCase_defaultPath (hkey : isIdentifier key) :
    (defaultPath key).map Text.toLowerCase = defaultPath key := by
  have hlower : ∀ name ∈ defaultPath key, Text.toLowerCase name = id name := by
    unfold defaultPath
    split
    · intro name hname
      rw [List.mem_singleton.1 hname]
      exact toLowerCase_defaultSetting hkey
    · intro name hname
      rcases List.mem_cons.1 hname with rfl | hname
      · exact toLowerCase_templates
      · rcases List.mem_cons.1 hname with rfl | hname
        · exact toLowerCase_defaults
        · exact toLowerCase_segment hkey hname
  rw [List.map_congr_left hlower, List.map_id]

end Settings

end LocalizedMail
