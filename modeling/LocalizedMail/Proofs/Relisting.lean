import LocalizedMail.Proofs.Confinement
import Mathlib.Data.List.Sort

/-!
# The order in which directories are listed

A directory has the same entries in whatever order they are listed, and the order is nobody's
choice.  Two trees are *relisted* if they differ in nothing else, at any depth.  Whatever looks for
a path sees no difference between them, because an entry is found by its name; only a listing shows
one.

Every order that a ranking of names describes is the order of some relisted tree, so a statement
about all relisted trees is a statement about all orders.

  * `Relisted`: two trees that differ in the order of their listings;
  * `Relisted.readText_eq`, `Relisted.isFile_eq` and `Relisted.entries`: what two relisted trees have
    in common;
  * `exists_relistedAs`: a tree in any order of names.
-/

namespace LocalizedMail.FileTree

/-! ## §1. Relisted trees -/

/-- The second tree is the first one with its directories listed in another order, which fits a
rule. -/
inductive RelistedAs (fits : List String → Prop) : FileTree → FileTree → Prop
  | file (c : Content) : RelistedAs fits (.file c) (.file c)
  | directory {es fs : List (String × FileTree)}
      (names : (fs.map Prod.fst).Perm (es.map Prod.fst)) (listed : fits (fs.map Prod.fst))
      (children : ∀ name t u, es.lookup name = some t → fs.lookup name = some u →
        RelistedAs fits t u) :
      RelistedAs fits (.directory es) (.directory fs)

/-- The second tree is the first one with its directories listed in any other order. -/
def Relisted : FileTree → FileTree → Prop := RelistedAs fun _ => True

/-- Two trees that both have a directory at a path list it in this way. -/
def ListsAs (fits : List String → Prop) (es fs : List (String × FileTree)) : Prop :=
  (fs.map Prod.fst).Perm (es.map Prod.fst) ∧ fits (fs.map Prod.fst)

section relisted

variable {fits : List String → Prop} {t u : FileTree}

/-- A tree that fits a rule is relisted. -/
theorem RelistedAs.relisted (h : RelistedAs fits t u) : Relisted t u := by
  induction h with
  | file c => exact .file c
  | directory names _ _ ih => exact .directory names trivial ih

/-- A tree is relisted as it is. -/
theorem Relisted.refl : ∀ t : FileTree, Relisted t t
  | .file c => .file c
  | .directory es => by
    refine .directory (.refl _) trivial fun name t u ht hu => ?_
    have hmem := mem_of_lookup ht
    rw [ht] at hu
    obtain rfl := Option.some.inj hu
    exact Relisted.refl t
termination_by t => t
decreasing_by
  have hsize := List.sizeOf_lt_of_mem hmem
  simp only [Prod.mk.sizeOf_spec, FileTree.directory.sizeOf_spec] at hsize ⊢
  omega

/-- The entries of a directory can be listed in any order, where their names are distinct. -/
theorem Relisted.of_perm {es fs : List (String × FileTree)} (h : fs.Perm es)
    (distinct : (es.map Prod.fst).Nodup) : Relisted (.directory es) (.directory fs) := by
  refine .directory (h.map Prod.fst) trivial fun name t u ht hu => ?_
  have hsame := List.inj_on_of_nodup_map distinct (mem_of_lookup ht)
    (h.mem_iff.mp (mem_of_lookup hu)) rfl
  obtain ⟨-, rfl⟩ := Prod.mk.inj hsame
  exact Relisted.refl t

/-- A directory with one entry is relisted with the entry. -/
theorem Relisted.below {t u : FileTree} (h : Relisted t u) (name : String) :
    Relisted (.directory [(name, t)]) (.directory [(name, u)]) := by
  refine .directory (.refl _) trivial fun other t' u' ht hu => ?_
  obtain ⟨-, rfl⟩ := Prod.mk.inj (List.mem_singleton.mp (mem_of_lookup ht))
  obtain ⟨-, rfl⟩ := Prod.mk.inj (List.mem_singleton.mp (mem_of_lookup hu))
  exact h

/-- Two listings of one directory know the same names. -/
theorem lookup_isSome_of_perm {es fs : List (String × FileTree)}
    (names : (fs.map Prod.fst).Perm (es.map Prod.fst)) (name : String) :
    (fs.lookup name).isSome = (es.lookup name).isSome := by
  have hknown : ∀ ds : List (String × FileTree),
      (ds.lookup name).isSome ↔ name ∈ ds.map Prod.fst := by
    intro ds
    constructor
    · intro hsome
      obtain ⟨node, hnode⟩ := Option.isSome_iff_exists.mp hsome
      exact List.mem_map_of_mem (mem_of_lookup hnode)
    · intro hmem
      by_contra hnone
      rw [Option.not_isSome_iff_eq_none, List.lookup_eq_none_iff] at hnone
      obtain ⟨e, he, rfl⟩ := List.mem_map.mp hmem
      simpa using hnone e he
  rw [Bool.eq_iff_iff, hknown, hknown, names.mem_iff]

/-! ## §2. What relisted trees have in common -/

/-- **Following the parts of a path leads to relisted nodes**, or fails alike. -/
theorem RelistedAs.walk {ancestors ancestors' : List FileTree}
    (hancestors : List.Forall₂ (RelistedAs fits) ancestors ancestors') (h : RelistedAs fits t u)
    (parts : List String) :
    SameOutcome (RelistedAs fits) (walk ancestors t parts) (walk ancestors' u parts) := by
  induction parts generalizing ancestors ancestors' t u with
  | nil => exact .ok h
  | cons part rest ih =>
    unfold FileTree.walk
    have hhere := h
    cases h with
    | file c => exact .error _
    | @directory es fs names _ children =>
      dsimp only
      split
      · exact ih hancestors hhere
      · split
        · cases hancestors with
          | nil => exact .error _
          | cons hparent holder => exact ih holder hparent
        · split
          · exact .error _
          · have hsome := lookup_isSome_of_perm names part
            cases hes : es.lookup part with
            | none =>
              rw [hes, Option.isSome_none, Option.isSome_eq_false_iff,
                Option.isNone_iff_eq_none] at hsome
              rw [hsome]
              exact .error _
            | some node =>
              rw [hes, Option.isSome_some] at hsome
              obtain ⟨node', hfs⟩ := Option.isSome_iff_exists.mp hsome
              rw [hfs]
              exact ih (.cons hhere hancestors) (children part node node' hes hfs)

/-- **A path leads to relisted nodes**, or fails alike. -/
theorem RelistedAs.find (h : RelistedAs fits t u) (path : String) :
    SameOutcome (RelistedAs fits) (t.find path) (u.find path) := by
  unfold FileTree.find
  split
  · exact .error _
  · split
    · exact .error _
    · split
      · exact .error _
      · exact h.walk .nil (parts path)

/-- A directory is listed in the new order, or cannot be listed in either tree. -/
theorem RelistedAs.entries (h : RelistedAs fits t u) (path : String) :
    SameOutcome (ListsAs fits) (t.entries path) (u.entries path) := by
  have hfind := h.find path
  unfold FileTree.entries
  generalize t.find path = found at hfind ⊢
  generalize u.find path = found' at hfind ⊢
  cases hfind with
  | error fault => exact .error fault
  | ok hnodes =>
    cases hnodes with
    | file c => exact .error _
    | directory names listed _ => exact .ok ⟨names, listed⟩

theorem Relisted.content_eq (h : Relisted t u) (path : String) :
    u.content path = t.content path := by
  have hfind := RelistedAs.find h path
  unfold content
  generalize t.find path = found at hfind ⊢
  generalize u.find path = found' at hfind ⊢
  cases hfind with
  | error fault => rfl
  | ok hnodes =>
    cases hnodes with
    | file c => rfl
    | directory => rfl

/-- **Files read the same in relisted trees.** -/
theorem Relisted.readText_eq (h : Relisted t u) (path : String) :
    u.readText path = t.readText path := by
  unfold readText
  rw [h.content_eq]

theorem Relisted.isFile_eq (h : Relisted t u) (path : String) : u.isFile path = t.isFile path := by
  have hfind := RelistedAs.find h path
  unfold isFile
  generalize t.find path = found at hfind ⊢
  generalize u.find path = found' at hfind ⊢
  cases hfind with
  | error fault => rfl
  | ok hnodes =>
    cases hnodes with
    | file c => rfl
    | directory => rfl

end relisted

/-! ## §3. Trees in a given order -/

/-- Names in the order of a ranking. -/
def RankedBy (rank : String → Nat) (names : List String) : Prop :=
  names.Pairwise fun a b => rank a ≤ rank b

/-- One entry may stand before another in the order of a ranking. -/
def MayPrecede (rank : String → Nat) (e f : String × FileTree) : Prop := rank e.1 ≤ rank f.1

instance (rank : String → Nat) : DecidableRel (MayPrecede rank) :=
  fun e f => inferInstanceAs (Decidable (rank e.1 ≤ rank f.1))

/-- An entry that is put in its place is looked up as if it came first. -/
theorem lookup_orderedInsert (rank : String → Nat) (name : String) (e : String × FileTree)
    (es : List (String × FileTree)) :
    (es.orderedInsert (MayPrecede rank) e).lookup name = (e :: es).lookup name := by
  induction es with
  | nil => rfl
  | cons f es ih =>
    by_cases hrank : MayPrecede rank e f
    · rw [List.orderedInsert_cons_of_le _ _ hrank]
    · rw [List.orderedInsert_of_not_le _ _ hrank, List.lookup_cons, ih, List.lookup_cons,
        List.lookup_cons, List.lookup_cons]
      cases hf : name == f.1 with
      | false => rfl
      | true =>
        -- the two names differ, since their ranks do
        have he : (name == e.1) = false := by
          rw [beq_eq_false_iff_ne]
          rintro rfl
          exact hrank (Nat.le_of_eq (congrArg rank (eq_of_beq hf)))
        rw [he]

/-- Entries of which each can be replaced can be put in order at the same time. -/
theorem exists_ranked {R : FileTree → FileTree → Prop} (rank : String → Nat)
    {es : List (String × FileTree)} (replaced : ∀ e ∈ es, ∃ node, R e.2 node) :
    ∃ fs : List (String × FileTree), ListsAs (RankedBy rank) es fs ∧
      ∀ name t u, es.lookup name = some t → fs.lookup name = some u → R t u := by
  induction es with
  | nil => exact ⟨[], ⟨.nil, .nil⟩, nofun⟩
  | cons e es ih =>
    obtain ⟨node, hnode⟩ := replaced e List.mem_cons_self
    obtain ⟨fs, ⟨names, ranked⟩, children⟩ := ih fun f hf => replaced f (List.mem_cons_of_mem e hf)
    refine ⟨fs.orderedInsert (MayPrecede rank) (e.1, node), ⟨?_, ?_⟩, ?_⟩
    · exact ((List.perm_orderedInsert _ _ fs).map Prod.fst).trans (names.cons e.1)
    · unfold RankedBy at ranked ⊢
      rw [List.pairwise_map] at ranked ⊢
      exact List.Pairwise.orderedInsert (e.1, node) fs ranked
    · intro name t u ht hu
      rw [lookup_orderedInsert, List.lookup_cons] at hu
      rw [List.lookup_cons] at ht
      cases hname : name == e.1 with
      | true =>
        rw [hname] at ht hu
        obtain rfl := Option.some.inj ht
        obtain rfl := Option.some.inj hu
        exact hnode
      | false =>
        rw [hname] at ht hu
        exact children name t u ht hu

/-- **A tree can be listed in the order of any ranking.** -/
theorem exists_relistedAs (rank : String → Nat) :
    ∀ t : FileTree, ∃ u, RelistedAs (RankedBy rank) t u
  | .file c => ⟨.file c, .file c⟩
  | .directory es => by
    have hchildren : ∀ e ∈ es, ∃ node, RelistedAs (RankedBy rank) e.2 node :=
      fun e he => exists_relistedAs rank e.2
    obtain ⟨fs, ⟨names, ranked⟩, children⟩ := exists_ranked rank hchildren
    exact ⟨.directory fs, .directory names ranked children⟩
termination_by t => t
decreasing_by
  have hsize := List.sizeOf_lt_of_mem he
  obtain ⟨name, node⟩ := e
  simp only [Prod.mk.sizeOf_spec, FileTree.directory.sizeOf_spec] at hsize ⊢
  omega

end LocalizedMail.FileTree
