import LocalizedMail.Proofs.Filing
import LocalizedMail.Proofs.History
import LocalizedMail.Proofs.Paths
import Mathlib.Data.List.Forall2

/-!
# Lookups stay below the root

A name and a language are texts from outside, and both become parts of a path.  Whatever they are,
an operation of a store sees only certain files: those that end in `.xhtml` and stand immediately in
a directory below the root whose name is the canonical form of a language tag.  Two trees that
cannot be told apart by these files cannot be told apart by any operation.

  * `find_entry`: trees with the same template files lead to like nodes;
  * `load_congr`, `info_congr` and `list_congr`: every operation goes through these files only;
  * `lookups_confined`: the statement for all of them, with the names that are refused outright.
-/

namespace LocalizedMail

/-! ## §1. Trees that cannot be told apart -/

/-- Two outcomes that fail alike or succeed with related values. -/
inductive SameOutcome {ε α : Type} (R : α → α → Prop) : Except ε α → Except ε α → Prop
  | error (fault : ε) : SameOutcome R (.error fault) (.error fault)
  | ok {a b : α} (related : R a b) : SameOutcome R (.ok a) (.ok b)

namespace FileTree

/-- The nodes under a name in a directory; there is at most one where names are not repeated. -/
def nodesNamed (name : String) (entries : List (String × FileTree)) : List FileTree :=
  (entries.filter fun e => e.1 = name).map Prod.snd

/-- Two nodes that cannot be told apart as entries: two directories, or two files with one text or
with none. -/
def Alike : FileTree → FileTree → Prop
  | .file c, .file d => c.text? = d.text?
  | .directory _, .directory _ => True
  | _, _ => False

/-- Two nodes that cannot be told apart as directories of templates: two files, or two directories
whose entries that end in `.xhtml` are alike. -/
def SameTemplates : FileTree → FileTree → Prop
  | .file _, .file _ => True
  | .directory es, .directory fs => ∀ stem : String,
      List.Forall₂ Alike (nodesNamed (stem ++ "." ++ Template.fileExtension) es)
        (nodesNamed (stem ++ "." ++ Template.fileExtension) fs)
  | _, _ => False

theorem Alike.refl (t : FileTree) : Alike t t := by
  cases t with
  | file c => exact rfl
  | directory es => trivial

theorem SameTemplates.refl (t : FileTree) : SameTemplates t t := by
  cases t with
  | file c => trivial
  | directory es => exact fun stem => List.forall₂_same.mpr fun node _ => Alike.refl node

theorem Alike.isFileNode {a b : FileTree} (h : Alike a b) : a.isFileNode = b.isFileNode := by
  cases a with
  | file c =>
    cases b with
    | file d => rfl
    | directory fs => exact h.elim
  | directory es =>
    cases b with
    | file d => exact h.elim
    | directory fs => rfl

/-- The entry of a name is the first of its nodes. -/
theorem lookup_eq_head? (name : String) (entries : List (String × FileTree)) :
    entries.lookup name = (nodesNamed name entries).head? := by
  induction entries with
  | nil => rfl
  | cons e rest ih =>
    obtain ⟨n, node⟩ := e
    unfold nodesNamed at ih ⊢
    by_cases hname : n = name
    · subst hname
      simp
    · have hne : (name == n) = false := by simpa using Ne.symm hname
      rw [List.lookup_cons, hne, List.filter_cons_of_neg (by simpa using hname)]
      exact ih

/-- Directories with the same templates have like entries. -/
theorem SameTemplates.child {a b : FileTree} (h : SameTemplates a b) (stem : String) :
    SameOutcome Alike (a.child (stem ++ "." ++ Template.fileExtension))
      (b.child (stem ++ "." ++ Template.fileExtension)) := by
  cases a with
  | file c =>
    cases b with
    | file d => exact .error _
    | directory fs => exact h.elim
  | directory es =>
    cases b with
    | file d => exact h.elim
    | directory fs =>
      have hnodes := h stem
      unfold FileTree.child
      dsimp only
      split
      · exact .error _
      · rw [lookup_eq_head?, lookup_eq_head?]
        generalize nodesNamed (stem ++ "." ++ Template.fileExtension) es = xs at hnodes ⊢
        generalize nodesNamed (stem ++ "." ++ Template.fileExtension) fs = ys at hnodes ⊢
        cases hnodes with
        | nil => exact .error _
        | cons halike _ => exact .ok halike

/-- **Trees with the same templates in a directory lead to like nodes** at the paths of
templates. -/
theorem find_entry {t u : FileTree} {path stem : String} (hpath : IsOpen path)
    (hstem : IsPart (stem ++ "." ++ Template.fileExtension))
    (h : SameOutcome SameTemplates (t.find path) (u.find path)) :
    SameOutcome Alike (t.find (join path (stem ++ "." ++ Template.fileExtension)))
      (u.find (join path (stem ++ "." ++ Template.fileExtension))) := by
  rw [find_join t hpath hstem, find_join u hpath hstem]
  split
  · exact .error _
  split
  · exact .error _
  generalize t.find path = a at h ⊢
  generalize u.find path = b at h ⊢
  cases h with
  | error fault => exact .error fault
  | ok hsame => exact hsame.child stem

theorem readText_congr {t u : FileTree} {path : String}
    (h : SameOutcome Alike (t.find path) (u.find path)) : t.readText path = u.readText path := by
  unfold readText content
  generalize t.find path = a at h ⊢
  generalize u.find path = b at h ⊢
  cases h with
  | error fault => rfl
  | @ok a b halike =>
    cases a with
    | file c =>
      cases b with
      | file d =>
        have htext : c.text? = d.text? := halike
        dsimp only
        rw [htext]
      | directory fs => exact halike.elim
    | directory es =>
      cases b with
      | file d => exact halike.elim
      | directory fs => rfl

theorem isFile_congr {t u : FileTree} {path : String}
    (h : SameOutcome Alike (t.find path) (u.find path)) : t.isFile path = u.isFile path := by
  have hnode : ∀ v : FileTree, v.isFile path
      = match v.find path with
        | .ok node => node.isFileNode
        | .error _ => false := by
    intro v
    unfold isFile
    cases v.find path with
    | error fault => rfl
    | ok node => cases node <;> rfl
  rw [hnode, hnode]
  generalize t.find path = a at h ⊢
  generalize u.find path = b at h ⊢
  cases h with
  | error fault => rfl
  | ok halike => exact halike.isFileNode

end FileTree

namespace Template

/-! ## §2. Names and directories as parts of paths -/

/-- A text that may not name a template: it is empty, or it has a separator or two dots in a row. -/
def Unnameable (name : String) : Prop :=
  name = "" ∨ '/' ∈ name.toList ∨ '\\' ∈ name.toList ∨ ['.', '.'] <:+: name.toList

theorem hasDoubleDot_iff {cs : List Char} : hasDoubleDot cs = true ↔ ['.', '.'] <:+: cs := by
  fun_induction hasDoubleDot cs with
  | case1 cs => exact iff_of_true rfl ⟨[], cs, rfl⟩
  | case2 c cs hne ih =>
    rw [ih, List.infix_cons_iff]
    constructor
    · exact Or.inr
    · rintro (⟨rest, hrest⟩ | h)
      · injection hrest with hc hcs
        exact absurd hcs.symm (hne rest hc.symm)
      · exact h
  | case3 => simp

theorem isName_eq_false_iff {name : String} : isName name = false ↔ Unnameable name := by
  unfold isName isNameChars Unnameable
  rw [← hasDoubleDot_iff, ← String.toList_eq_nil_iff, ← List.isEmpty_iff]
  simp only [Bool.and_eq_false_iff, Bool.not_eq_false', List.contains_iff_mem, or_assoc]

/-- **The file of a template is one part of a path**, whatever dots its name has. -/
theorem isPart_of_isName {name : String} (good : isName name = true) :
    FileTree.IsPart (name ++ "." ++ fileExtension) := by
  have hslash : '/' ∉ name.toList := by
    intro hin
    rw [isName_eq_false_iff.mpr (Or.inr (Or.inl hin))] at good
    cases good
  have hlist : (name ++ "." ++ fileExtension).toList
      = name.toList ++ ['.', 'x', 'h', 't', 'm', 'l'] := by
    rw [String.toList_append, String.toList_append, List.append_assoc]
    rfl
  have hlong : ∀ other : String, other.toList.length < 6 → name ++ "." ++ fileExtension ≠ other := by
    rintro other hshort rfl
    rw [hlist, List.length_append] at hshort
    exact absurd hshort (by simp)
  refine ⟨?_, hlong "" (by decide), hlong "." (by decide), hlong ".." (by decide)⟩
  rw [hlist, List.mem_append]
  rintro (hin | hin)
  · exact hslash hin
  · exact absurd hin (by decide)

/-- No separator and no dot is in the name of a language directory. -/
theorem plain_of_isCanonical {d : String} (h : Language.isCanonical d = true) {c : Char}
    (hc : c ∈ d.toList) : c ≠ '/' ∧ c ≠ '.' := by
  obtain ⟨t, ht, rfl⟩ := Language.isCanonical_iff.mp h
  rcases ht.mem_directory hc with halnum | rfl
  · constructor
    · rintro rfl
      exact absurd halnum (by decide)
    · rintro rfl
      exact absurd halnum (by decide)
  · decide

theorem toList_ne_nil_of_isCanonical {d : String} (h : Language.isCanonical d = true) :
    d.toList ≠ [] := by
  obtain ⟨t, ht, rfl⟩ := Language.isCanonical_iff.mp h
  exact ht.toList_directory_ne_nil

/-- **A language directory is one part of a path.** -/
theorem isPart_of_isCanonical {d : String} (h : Language.isCanonical d = true) :
    FileTree.IsPart d := by
  refine ⟨fun hin => (plain_of_isCanonical h hin).1 rfl, ?_, ?_, ?_⟩
  · rintro rfl
    exact toList_ne_nil_of_isCanonical h rfl
  · rintro rfl
    exact (plain_of_isCanonical h (c := '.') (by decide)).2 rfl
  · rintro rfl
    exact (plain_of_isCanonical h (c := '.') (by decide)).2 rfl

/-- A language directory below the root can be gone through. -/
theorem Store.isOpen_directoryPath (s : Store) {d : String} (h : Language.isCanonical d = true) :
    FileTree.IsOpen (s.directoryPath d) := by
  -- the path ends in the last character of the directory, which is no slash
  obtain ⟨before, hpath⟩ := FileTree.exists_toList_join s.root d
  obtain ⟨c, hlast⟩ := Option.isSome_iff_exists.mp
    (List.getLast?_isSome.mpr (toList_ne_nil_of_isCanonical h))
  have hend : (s.directoryPath d).toList.getLast? = some c := by
    unfold directoryPath
    rw [hpath, List.getLast?_append, hlast]
    rfl
  constructor
  · intro hnil
    rw [hnil] at hend
    cases hend
  · rw [hend]
    intro hslash
    obtain rfl := Option.some.inj hslash
    exact (plain_of_isCanonical h (List.mem_of_getLast? hlast)).1 rfl

namespace Store

/-! ## §3. Looking up -/

/-- Two trees with the same templates in every directory below the root that has the name of a
language: what is there under any other name, and what else is in these directories, may differ. -/
def SameFiles (s : Store) (disk disk' : FileTree) : Prop :=
  ∀ t : Language.Tag, t.Canonical →
    SameOutcome FileTree.SameTemplates (disk.find (s.directoryPath t.directory))
      (disk'.find (s.directoryPath t.directory))

section congr

variable {s : Store} {disk disk' : FileTree} {name lang : String} {ds : List String}

theorem SameFiles.directory (h : s.SameFiles disk disk') {d : String}
    (hd : Language.isCanonical d = true) :
    SameOutcome FileTree.SameTemplates (disk.find (s.directoryPath d))
      (disk'.find (s.directoryPath d)) := by
  obtain ⟨t, ht, rfl⟩ := Language.isCanonical_iff.mp hd
  exact h t ht

/-- The file of a template in a directory of a language is the same in both trees. -/
theorem SameFiles.file (h : s.SameFiles disk disk') (good : isName name = true) {d : String}
    (hd : Language.isCanonical d = true) :
    SameOutcome FileTree.Alike (disk.find (s.path d name)) (disk'.find (s.path d name)) :=
  FileTree.find_entry (s.isOpen_directoryPath hd) (isPart_of_isName good) (h.directory hd)

theorem firstFile_congr (h : s.SameFiles disk disk') (good : isName name = true)
    (hds : ∀ d ∈ ds, Language.isCanonical d = true) :
    firstFile disk s name ds = firstFile disk' s name ds := by
  induction ds with
  | nil => rfl
  | cons d ds ih =>
    have hread := FileTree.readText_congr (h.file good (hds d List.mem_cons_self))
    have hrest := ih fun x hx => hds x (List.mem_cons_of_mem d hx)
    unfold firstFile
    dsimp only
    rw [hread, hrest]

theorem lookup_congr (h : s.SameFiles disk disk') (good : isName name = true)
    (hds : ∀ d ∈ ds, Language.isCanonical d = true) :
    lookup disk s name ds = lookup disk' s name ds := by
  unfold lookup
  rw [firstFile_congr h good hds]

theorem locate_congr (h : s.SameFiles disk disk') (good : isName name = true)
    (hds : ∀ d ∈ ds, Language.isCanonical d = true) :
    s.locate disk name ds = s.locate disk' name ds := by
  have hfind : ds.find? (fun d => disk.isFile (s.path d name))
      = ds.find? (fun d => disk'.isFile (s.path d name)) := by
    induction ds with
    | nil => rfl
    | cons d ds ih =>
      have hfile := FileTree.isFile_congr (h.file good (hds d List.mem_cons_self))
      rw [List.find?_cons, List.find?_cons, hfile,
        ih fun x hx => hds x (List.mem_cons_of_mem d hx)]
  unfold locate
  rw [hfind]

theorem isCanonical_of_mem_requested {d : String} (hd : d ∈ (s.chain lang).requested) :
    Language.isCanonical d = true :=
  Language.isCanonical_of_mem_all (Language.mem_all.mpr (Or.inl hd))

theorem isCanonical_of_mem_fallback {d : String} (hd : d ∈ (s.chain lang).fallback) :
    Language.isCanonical d = true :=
  Language.isCanonical_of_mem_all (Language.mem_all.mpr (Or.inr hd))

/-- **A load sees nothing but template files.** -/
theorem load_congr (h : s.SameFiles disk disk') (name lang : String) :
    s.load disk name lang = s.load disk' name lang := by
  unfold load checkName
  by_cases good : isName name
  · have hfirst := lookup_congr h good fun d (hd : d ∈ (s.chain lang).requested) =>
      isCanonical_of_mem_requested hd
    have hsecond := lookup_congr h good fun d (hd : d ∈ (s.chain lang).fallback) =>
      isCanonical_of_mem_fallback hd
    simp only [good, if_true]
    rw [hfirst]
    cases hresult : (lookup disk' s name (s.chain lang).requested).result with
    | some body => rfl
    | none =>
      -- the second search starts from the store of the first, which has not changed
      rw [lookup_state_of_none hresult, hsecond]
  · simp only [good, Bool.false_eq_true, if_false]

/-- **A description sees nothing but template files.** -/
theorem info_congr (h : s.SameFiles disk disk') (name lang : String) :
    s.info disk name lang = s.info disk' name lang := by
  unfold info checkName
  by_cases good : isName name
  · have hfirst := locate_congr h good fun d (hd : d ∈ (s.chain lang).requested) =>
      isCanonical_of_mem_requested hd
    have hsecond := locate_congr h good fun d (hd : d ∈ (s.chain lang).fallback) =>
      isCanonical_of_mem_fallback hd
    simp only [good, if_true]
    rw [hfirst, hsecond]
  · simp only [good, Bool.false_eq_true, if_false]

end congr

/-! ## §4. Listing -/

/-- A file name that is cut at its last dot is put together again. -/
theorem eq_of_splitExtension {fileName stem extension : String}
    (h : splitExtension fileName = some (stem, extension)) :
    fileName = stem ++ "." ++ extension := by
  unfold splitExtension at h
  dsimp only at h
  have hparts := List.takeWhile_append_dropWhile (p := fun c => c != '.') (l := fileName.toList.reverse)
  split at h
  next c rest hrest =>
    obtain ⟨rfl, rfl⟩ := Prod.mk.inj (Option.some.inj h)
    rw [hrest] at hparts
    have hlist := congrArg List.reverse hparts
    rw [List.reverse_reverse, List.reverse_append] at hlist
    apply String.toList_injective
    refine hlist.symm.trans ?_
    simp
  next => cases h

/-- A file name made of a stem and an extension is cut there, whatever dots the stem has. -/
theorem splitExtension_append {stem extension : String} (hstem : stem ≠ "")
    (hextension : '.' ∉ extension.toList) :
    splitExtension (stem ++ "." ++ extension) = some (stem, extension) := by
  have hreversed : (stem ++ "." ++ extension).toList.reverse
      = extension.toList.reverse ++ '.' :: stem.toList.reverse := by
    rw [String.toList_append, String.toList_append, List.append_assoc, List.reverse_append,
      List.reverse_append, List.append_assoc]
    rfl
  have hplain : ∀ c ∈ extension.toList.reverse, (c != '.') = true := by
    intro c hc
    have hne : c ≠ '.' := by
      rintro rfl
      exact hextension (List.mem_reverse.mp hc)
    simpa using hne
  -- the stem is read backwards too, and it has a last character
  obtain ⟨c, rest, hcons⟩ : ∃ c rest, stem.toList.reverse = c :: rest := by
    apply List.exists_cons_of_ne_nil
    simpa using hstem
  unfold splitExtension
  dsimp only
  rw [hreversed, List.takeWhile_append_of_pos hplain, List.dropWhile_append_of_pos hplain,
    List.takeWhile_cons_of_neg (by decide), List.dropWhile_cons_of_neg (by decide),
    List.append_nil, hcons]
  show some (String.ofList (c :: rest).reverse, String.ofList extension.toList.reverse.reverse) = _
  rw [← hcons, List.reverse_reverse, List.reverse_reverse, String.ofList_toList,
    String.ofList_toList]

/-- An entry is the file of the template that its name has as its stem. -/
theorem templateOf?_eq_some {disk : FileTree} {directory fileName name : String} :
    templateOf? disk directory fileName = some name ↔
      isName name = true ∧ fileName = name ++ "." ++ fileExtension ∧
        disk.isFile (FileTree.join directory fileName) = true := by
  unfold templateOf?
  constructor
  · intro h
    split at h
    next stem extension hfile hsplit =>
      split at h
      next hgood =>
        obtain rfl := Option.some.inj h
        rw [Bool.and_eq_true, decide_eq_true_eq] at hgood
        rw [← hgood.1]
        exact ⟨hgood.2, eq_of_splitExtension hsplit, hfile⟩
      next => cases h
    next => cases h
  · rintro ⟨good, rfl, hfile⟩
    have hne : name ≠ "" := by
      rintro rfl
      cases good
    rw [hfile, splitExtension_append hne (by decide)]
    simp [good]

/-- **The templates of a listed directory are those that have a file there.** -/
theorem mem_templates {disk : FileTree} {s : Store} {d name : String}
    {entries : List (String × FileTree)} (hd : Language.isCanonical d = true)
    (listed : disk.entries (s.directoryPath d) = .ok entries) :
    name ∈ (entries.map Prod.fst).filterMap (templateOf? disk (s.directoryPath d)) ↔
      isName name = true ∧ disk.isFile (s.path d name) = true := by
  rw [List.mem_filterMap]
  constructor
  · rintro ⟨fileName, -, htemplate⟩
    obtain ⟨good, rfl, hfile⟩ := templateOf?_eq_some.mp htemplate
    exact ⟨good, hfile⟩
  · rintro ⟨good, hfile⟩
    obtain ⟨entries', node, listed', hentry⟩ :=
      FileTree.exists_entry_of_isFile (s.isOpen_directoryPath hd) (isPart_of_isName good) hfile
    rw [listed] at listed'
    obtain rfl := Except.ok.inj listed'
    exact ⟨_, List.mem_map_of_mem hentry, templateOf?_eq_some.mpr ⟨good, rfl, hfile⟩⟩

/-- Lists with the same names. -/
def SameNames (xs ys : List String) : Prop := ∀ n, n ∈ xs ↔ n ∈ ys

/-- Names come in order. -/
theorem pairwise_le_sorted (xs : List String) : (sorted xs).Pairwise (· ≤ ·) := by
  have hordered : (sorted xs).Pairwise fun a b => decide (a ≤ b) = true := by
    refine List.pairwise_mergeSort ?_ ?_ _
    · intro a b c hab hbc
      simp only [decide_eq_true_eq] at hab hbc ⊢
      exact String.le_trans hab hbc
    · intro a b
      simpa using String.le_total a b
  simpa using hordered

/-- Lists with the same names are put into one order. -/
theorem sorted_congr {xs ys : List String} (h : SameNames xs ys) : sorted xs = sorted ys := by
  have hperm : (sorted xs).Perm (sorted ys) := by
    have hdistinct : (distinct xs).Perm (distinct ys) := by
      refine (List.perm_ext_iff_of_nodup (nodup_distinct xs) (nodup_distinct ys)).mpr fun n => ?_
      rw [mem_distinct, mem_distinct]
      exact h n
    exact ((List.mergeSort_perm _ _).trans hdistinct).trans (List.mergeSort_perm _ _).symm
  refine List.Perm.eq_of_pairwise ?_ (pairwise_le_sorted xs) (pairwise_le_sorted ys) hperm
  intro a b _ _ hab hba
  exact String.le_antisymm hab hba

section congr

variable {s : Store} {disk disk' : FileTree} {ds : List String}

/-- Directories with the same templates can both be listed, or neither can. -/
theorem entries_congr {t u : FileTree} {path : String}
    (h : SameOutcome FileTree.SameTemplates (t.find path) (u.find path)) :
    SameOutcome (fun _ _ => True) (t.entries path) (u.entries path) := by
  unfold FileTree.entries
  generalize t.find path = a at h ⊢
  generalize u.find path = b at h ⊢
  cases h with
  | error fault => exact .error fault
  | @ok a b hsame =>
    cases a with
    | file c =>
      cases b with
      | file c' => exact .error _
      | directory fs => exact hsame.elim
    | directory es =>
      cases b with
      | file c' => exact hsame.elim
      | directory fs => exact .ok trivial

theorem namesOnDisk_congr (h : s.SameFiles disk disk')
    (hds : ∀ d ∈ ds, Language.isCanonical d = true) :
    SameOutcome SameNames (namesOnDisk disk s ds) (namesOnDisk disk' s ds) := by
  induction ds with
  | nil => exact .ok fun n => Iff.rfl
  | cons d ds ih =>
    have hd := hds d List.mem_cons_self
    have hentries := entries_congr (h.directory hd)
    have hrest := ih fun x hx => hds x (List.mem_cons_of_mem d hx)
    unfold namesOnDisk
    cases hlisted : disk.entries (s.directoryPath d) with
    | error fault =>
      rw [hlisted] at hentries
      cases hlisted' : disk'.entries (s.directoryPath d) with
      | ok fs =>
        rw [hlisted'] at hentries
        cases hentries
      | error fault' =>
        rw [hlisted'] at hentries
        cases hentries
        cases fault with
        | notFound => exact hrest
        | _ => exact .error _
    | ok es =>
      rw [hlisted] at hentries
      cases hlisted' : disk'.entries (s.directoryPath d) with
      | error fault =>
        rw [hlisted'] at hentries
        cases hentries
      | ok fs =>
        dsimp only
        generalize namesOnDisk disk s ds = r at hrest ⊢
        generalize namesOnDisk disk' s ds = r' at hrest ⊢
        cases hrest with
        | error fault => exact .error fault
        | ok hnames =>
          refine .ok fun n => ?_
          rw [List.mem_append, List.mem_append, mem_templates hd hlisted, mem_templates hd hlisted',
            hnames n]
          -- a file of a template in one tree is one in the other
          by_cases good : isName n = true
          · rw [FileTree.isFile_congr (h.file good hd)]
          · simp only [good, Bool.false_eq_true, false_and]

/-- **A listing sees nothing but template files.** -/
theorem list_congr (h : s.SameFiles disk disk') (lang : String) :
    s.list disk lang = s.list disk' lang := by
  have hnames := namesOnDisk_congr h fun d (hd : d ∈ (s.chain lang).requested) =>
    isCanonical_of_mem_requested hd
  unfold list
  dsimp only
  generalize namesOnDisk disk s (s.chain lang).requested = r at hnames ⊢
  generalize namesOnDisk disk' s (s.chain lang).requested = r' at hnames ⊢
  cases hnames with
  | error fault => rfl
  | @ok xs ys hsame =>
    have hall : SameNames (xs ++ s.namesInMemory (s.chain lang).requested)
        (ys ++ s.namesInMemory (s.chain lang).requested) := by
      intro n
      rw [List.mem_append, List.mem_append, hsame n]
    dsimp only
    rw [sorted_congr hall]

end congr

/-! ## §5. Names that are refused -/

theorem register_of_refused (s : Store) {name : String} (bad : isName name = false)
    (text lang : String) :
    s.register name text lang = ⟨.error (.invalidName name), s, []⟩ := by
  unfold register checkName
  rw [bad]
  rfl

theorem info_of_refused (disk : FileTree) (s : Store) {name : String}
    (bad : isName name = false) (lang : String) :
    s.info disk name lang = .error (.invalidName name) := by
  unfold info checkName
  rw [bad]
  rfl

/-- **Lookups stay below the root.**  Whatever text is taken for a name or a language, and whatever
the default language of the store is, trees with the same template files below the root cannot be
told apart by any operation of the store.  A text that is empty or has a separator or two dots in a
row is refused by every operation that takes a name, and the store stays as it is. -/
theorem lookups_confined (s : Store) (name lang : String) :
    (∀ disk disk' : FileTree, s.SameFiles disk disk' →
      s.load disk name lang = s.load disk' name lang ∧
      s.isAvailable disk name lang = s.isAvailable disk' name lang ∧
      s.info disk name lang = s.info disk' name lang ∧
      s.list disk lang = s.list disk' lang) ∧
    (Unnameable name → ∀ (disk : FileTree) (text : String),
      s.register name text lang = ⟨.error (.invalidName name), s, []⟩ ∧
      s.load disk name lang = ⟨.error (.invalidName name), s, []⟩ ∧
      s.isAvailable disk name lang = ⟨false, s, []⟩ ∧
      s.info disk name lang = .error (.invalidName name)) := by
  constructor
  · intro disk disk' hsame
    have hload := load_congr hsame name lang
    refine ⟨hload, ?_, info_congr hsame name lang, list_congr hsame lang⟩
    unfold isAvailable
    rw [hload]
  · intro hname disk text
    have bad := isName_eq_false_iff.mpr hname
    have hload : s.load disk name lang = _ := load_of_refused bad
    refine ⟨s.register_of_refused bad text lang, hload, ?_, info_of_refused disk s bad lang⟩
    unfold isAvailable
    rw [hload]
    rfl

end Store

/-! ## §6. Two trees with the same templates -/

/-- The greetings, among other files: a text outside the root, a directory that no language has as
its name, and notes beside a template. -/
def cellar : FileTree :=
  .directory [
    ("secret.xhtml", .file (.text "top secret")),
    ("templates", .directory [
      ("EN", .directory [("welcome.xhtml", .file (.text "HELLO"))]),
      ("en", .directory [
        ("notes.txt", .file (.text "to do")),
        ("welcome.xhtml", .file (.text "Hello"))]),
      ("en-US", .directory [("welcome.xhtml", .file (.text "Howdy"))])])]

/-- Notes are no template. -/
theorem sameTemplates_notes (node : FileTree) (es : List (String × FileTree)) :
    FileTree.SameTemplates (.directory es) (.directory (("notes.txt", node) :: es)) := by
  intro stem
  have hname : "notes.txt" ≠ stem ++ "." ++ fileExtension := by
    intro h
    have hlast := congrArg (fun s => s.toList.getLast?) h
    have hend : fileExtension.toList.getLast? = some 'l' := rfl
    rw [String.toList_append, List.getLast?_append, hend, Option.some_or] at hlast
    exact absurd hlast (by decide)
  have hnodes : FileTree.nodesNamed (stem ++ "." ++ fileExtension) (("notes.txt", node) :: es)
      = FileTree.nodesNamed (stem ++ "." ++ fileExtension) es := by
    unfold FileTree.nodesNamed
    rw [List.filter_cons_of_neg (by simpa using hname)]
  rw [hnodes]
  exact FileTree.SameTemplates.refl (.directory es) stem

/-- The cellar has the same templates as the greetings. -/
theorem sameFiles_cellar (defaultLang : String) :
    (Store.create "templates" defaultLang).SameFiles greetings cellar := by
  intro t ht
  have hcanonical := Language.isCanonical_directory ht
  have hroot : FileTree.IsOpen "templates" := ⟨by decide, by decide⟩
  have hpart := isPart_of_isCanonical hcanonical
  show SameOutcome _ (greetings.find (FileTree.join "templates" t.directory))
    (cellar.find (FileTree.join "templates" t.directory))
  rw [FileTree.find_join _ hroot hpart, FileTree.find_join _ hroot hpart]
  generalize t.directory = d at hcanonical ⊢
  split
  · exact .error _
  split
  · exact .error _
  have hgreetings : greetings.find "templates" = .ok (.directory [
      ("en", .directory [("welcome.xhtml", .file (.text "Hello"))]),
      ("en-US", .directory [("welcome.xhtml", .file (.text "Howdy"))])]) := rfl
  have hcellar : cellar.find "templates" = .ok (.directory [
      ("EN", .directory [("welcome.xhtml", .file (.text "HELLO"))]),
      ("en", .directory [
        ("notes.txt", .file (.text "to do")),
        ("welcome.xhtml", .file (.text "Hello"))]),
      ("en-US", .directory [("welcome.xhtml", .file (.text "Howdy"))])]) := rfl
  have hforeign : (d == "EN") = false := by
    rw [beq_eq_false_iff_ne]
    rintro rfl
    exact absurd hcanonical (by decide)
  rw [hgreetings, hcellar]
  unfold Except.bind FileTree.child
  dsimp only
  split
  · exact .error _
  simp only [List.lookup_cons, hforeign, List.lookup_nil]
  by_cases hen : d = "en"
  · subst hen
    exact .ok (sameTemplates_notes _ _)
  by_cases hus : d = "en-US"
  · subst hus
    exact .ok (FileTree.SameTemplates.refl _)
  · have hen' : (d == "en") = false := by simpa using hen
    have hus' : (d == "en-US") = false := by simpa using hus
    simp only [hen', hus']
    exact .error _

/-- A store with a default language that is no tag serves the greetings from the cellar, and neither
the text beside the root nor the greeting in capitals can be reached. -/
theorem lookups_confined_cellar :
    let s := Store.create "templates" ".."
    s.SameFiles greetings cellar ∧
      s.load cellar "welcome" "EN" = s.load greetings "welcome" "EN" ∧
      s.load cellar "secret" ".." = s.load greetings "secret" ".." ∧
      s.list cellar "en" = s.list greetings "en" ∧
      Unnameable "../secret" ∧
      s.load cellar "../secret" "en" = ⟨.error (.invalidName "../secret"), s, []⟩ := by
  intro s
  have hsame : s.SameFiles greetings cellar := sameFiles_cellar ".."
  have hname : Unnameable "../secret" := Or.inr (Or.inl (by decide))
  obtain ⟨hload, -⟩ :=
    (Store.lookups_confined s "welcome" "EN").1 greetings cellar hsame
  obtain ⟨hsecret, -⟩ := (Store.lookups_confined s "secret" "..").1 greetings cellar hsame
  obtain ⟨-, -, -, hen⟩ := (Store.lookups_confined s "welcome" "en").1 greetings cellar hsame
  obtain ⟨-, hrefused, -⟩ := (Store.lookups_confined s "../secret" "en").2 hname cellar "Hi"
  exact ⟨hsame, hload.symm, hsecret.symm, hen.symm, hname, hrefused⟩

end Template

end LocalizedMail
