import LocalizedMail.FileTree
import LocalizedMail.Table

/-!
# Paths below a directory

The file of a template is reached by a path, and a path is followed from the root of the tree.  What
a lookup can see, though, depends on one directory only: following a path to an entry of a directory
is following the path to the directory and looking for the entry there.

  * `parts_join`: the path of an entry has the parts of its directory and one part more;
  * `walk_concat` and `find_join`: that part is looked for where the other parts lead;
  * `exists_entry_of_isFile`: a file at the path of an entry is listed in its directory.
-/

namespace LocalizedMail.FileTree

/-! ## §1. The parts of a path -/

/-- A text that can name an entry of a directory: one part of a path, and none that stays or goes
up. -/
structure IsPart (name : String) : Prop where
  noSlash : '/' ∉ name.toList
  notEmpty : name ≠ ""
  notHere : name ≠ "."
  notUp : name ≠ ".."

/-- A path of a directory to which a name is joined with a slash. -/
structure IsOpen (path : String) : Prop where
  notEmpty : path ≠ ""
  notClosed : path.toList.getLast? ≠ some '/'

theorem IsOpen.join {path : String} (h : IsOpen path) (name : String) :
    join path name = path ++ "/" ++ name := by
  unfold FileTree.join
  rw [if_neg (not_or.mpr ⟨h.notEmpty, h.notClosed⟩)]

theorem IsOpen.toList_join {path : String} (h : IsOpen path) (name : String) :
    (FileTree.join path name).toList = path.toList ++ '/' :: name.toList := by
  rw [h.join, String.toList_append, String.toList_append, List.append_assoc]
  rfl

/-- A path ends in the name that is joined to it. -/
theorem exists_toList_join (path name : String) :
    ∃ before, (join path name).toList = before ++ name.toList := by
  unfold join
  split
  · exact ⟨path.toList, String.toList_append⟩
  · exact ⟨(path ++ "/").toList, String.toList_append⟩

/-- **The path of an entry has the parts of its directory and one part more.** -/
theorem parts_join {path name : String} (hpath : IsOpen path) (hname : IsPart name) :
    parts (join path name) = parts path ++ [name] := by
  have hsingle : name.toList.splitOn '/' = [name.toList] := by
    apply List.splitOnP_eq_singleton
    intro c hc
    have hne : c ≠ '/' := by
      rintro rfl
      exact hname.noSlash hc
    simpa using hne
  unfold parts Text.cut
  rw [hpath.toList_join]
  unfold List.splitOn
  rw [List.splitOnP_append_cons _ _ rfl, List.map_append]
  congr 1
  show (name.toList.splitOn '/').map String.ofList = [name]
  rw [hsingle, List.map_singleton, String.ofList_toList]

/-! ## §2. The last step -/

/-- What an entry of a node leads to. -/
def child (node : FileTree) (name : String) : Except FileFault FileTree :=
  match node with
  | .file _ => .error .notADirectory
  | .directory entries =>
    if 255 < name.utf8ByteSize then .error .nameTooLong
    else
      match entries.lookup name with
      | some node => .ok node
      | none => .error .notFound

/-- **The last part of a path is looked for where the others lead.** -/
theorem walk_concat {name : String} (hname : IsPart name) (ancestors : List FileTree)
    (here : FileTree) (parts : List String) :
    walk ancestors here (parts ++ [name]) = (walk ancestors here parts).bind (child · name) := by
  have hstay : ¬ (name = "" ∨ name = ".") := not_or.mpr ⟨hname.notEmpty, hname.notHere⟩
  induction parts generalizing ancestors here with
  | nil =>
    show walk ancestors here [name] = child here name
    unfold walk child
    cases here with
    | file c => rfl
    | directory entries =>
      dsimp only
      rw [if_neg hstay, if_neg hname.notUp]
      split
      · rfl
      · cases entries.lookup name with
        | none => rfl
        | some node => rfl
  | cons part rest ih =>
    rw [List.cons_append]
    -- every part but the last one is taken in the same way on both sides
    unfold walk
    cases here with
    | file c => rfl
    | directory entries =>
      dsimp only
      split
      · exact ih ancestors (.directory entries)
      · split
        · cases ancestors with
          | nil => rfl
          | cons parent older => exact ih older parent
        · split
          · rfl
          · cases entries.lookup part with
            | none => rfl
            | some node => exact ih (.directory entries :: ancestors) node

/-- **What is found at the path of an entry** is the entry of what is found at the path of its
directory, unless the path itself is no good. -/
theorem find_join (tree : FileTree) {path name : String} (hpath : IsOpen path)
    (hname : IsPart name) :
    tree.find (join path name)
      = if '\x00' ∈ (join path name).toList then .error .nulInName
        else if pathBound ≤ (join path name).utf8ByteSize then .error .nameTooLong
        else (tree.find path).bind (child · name) := by
  have hsize : path.utf8ByteSize ≤ (join path name).utf8ByteSize := by
    rw [hpath.join, String.utf8ByteSize_append, String.utf8ByteSize_append]
    omega
  have hhead : (join path name).toList.head? = path.toList.head? := by
    have hne : path.toList ≠ [] := by simpa using hpath.notEmpty
    obtain ⟨c, cs, hcons⟩ := List.exists_cons_of_ne_nil hne
    rw [hpath.toList_join, hcons]
    rfl
  have hfull : join path name ≠ "" := by
    intro hnil
    have hlist := hpath.toList_join name
    rw [hnil] at hlist
    exact List.append_ne_nil_of_right_ne_nil _ (List.cons_ne_nil _ _) hlist.symm
  unfold find
  simp only [List.contains_iff_mem]
  by_cases hnul : '\x00' ∈ (join path name).toList
  · rw [if_pos hnul, if_pos hnul]
  have hnul' : '\x00' ∉ path.toList := by
    intro hin
    rw [hpath.toList_join] at hnul
    exact hnul (List.mem_append_left _ hin)
  rw [if_neg hnul, if_neg hnul, if_neg hnul']
  by_cases hlong : pathBound ≤ (join path name).utf8ByteSize
  · rw [if_pos hlong, if_pos hlong]
  have hlong' : ¬ pathBound ≤ path.utf8ByteSize := by omega
  rw [if_neg hlong, if_neg hlong, if_neg hlong', hhead]
  by_cases hroot : path.toList.head? = some '/'
  · rw [if_pos (Or.inr hroot), if_pos (Or.inr hroot)]
    rfl
  · rw [if_neg (not_or.mpr ⟨hfull, hroot⟩), if_neg (not_or.mpr ⟨hpath.notEmpty, hroot⟩),
      parts_join hpath hname]
    exact walk_concat hname [] tree (parts path)

/-! ## §3. Files of a directory -/

/-- **A file at the path of an entry is an entry**: the directory can be listed, and the listing has
its name. -/
theorem exists_entry_of_isFile {tree : FileTree} {path name : String} (hpath : IsOpen path)
    (hname : IsPart name) (h : tree.isFile (join path name) = true) :
    ∃ entries node, tree.entries path = .ok entries ∧ (name, node) ∈ entries := by
  unfold isFile at h
  rw [find_join tree hpath hname] at h
  split at h
  next c hfind =>
    split at hfind
    · cases hfind
    split at hfind
    · cases hfind
    unfold entries
    cases hdirectory : tree.find path with
    | error fault =>
      rw [hdirectory] at hfind
      cases hfind
    | ok here =>
      rw [hdirectory] at hfind
      -- nothing but a directory has an entry to be found
      cases here with
      | file c => cases hfind
      | directory es =>
        replace hfind : child (.directory es) name = .ok (.file c) := hfind
        unfold child at hfind
        dsimp only at hfind
        split at hfind
        · cases hfind
        split at hfind
        next node hlookup => exact ⟨es, node, rfl, mem_of_lookup hlookup⟩
        next => cases hfind
  next => cases h

end LocalizedMail.FileTree
