import LocalizedMail.Proofs.Relisting
import LocalizedMail.Proofs.Resolving
import LocalizedMail.Proofs.Tables

/-!
# Subject lines gathered from listed directories

Reading all documents of subject lines goes through the language directories in the order in which
they are listed, and through each document in an order of its own; nobody chooses either.  This file
says how much of the outcome is up to these orders.

A directory is filed under the language that its name means, so several directories can write one
line, and the last of them decides.  The first document that is no good ends the reading, and what
was read before it stays; of several bad names in it the first in its own order is reported.
Nothing else depends on the orders.

Main results:
  * `readSubjectsOf_result` and `get?_readSubjectsOf`: the outcome in terms of the single documents;
  * `readSubjectFiles_relisted`: what is the same in every order, and exactly when everything is;
  * `readSubjectFiles_shows_order`: two spellings of one directory, and a line that shows which of
    them was listed last.
-/

namespace LocalizedMail.Template

/-! ## §1. One document -/

namespace Subjects

/-- What is under a key after lines with different names are filed under one language. -/
theorem get?_putAll {es : List (String × String)} (hnodup : (es.map Prod.fst).Nodup)
    (s : Subjects) (lang : String) (k : Key) :
    (s.putAll lang es).lines.get? k
      = if Language.filedUnder lang s.defaultLang = k.directory then
          (es.lookup k.name).or (s.lines.get? k)
        else s.lines.get? k := by
  induction es generalizing s with
  | nil => rw [List.lookup_nil, Option.none_or, ite_self]; rfl
  | cons e es ih =>
    obtain ⟨name, line⟩ := e
    obtain ⟨directory, n⟩ := k
    rw [List.map_cons, List.nodup_cons] at hnodup
    have hput : (s.put name line lang).lines.get? ⟨directory, n⟩
        = if (⟨directory, n⟩ : Key) = ⟨Language.filedUnder lang s.defaultLang, name⟩ then some line
          else s.lines.get? ⟨directory, n⟩ := s.lines.get?_insert _ _ line
    refine (ih hnodup.2 (s.put name line lang)).trans ?_
    show (if Language.filedUnder lang s.defaultLang = directory then _ else _) = _
    rw [hput, List.lookup_cons]
    by_cases hd : Language.filedUnder lang s.defaultLang = directory
    · by_cases hn : n = name
      · -- the name does not come again
        subst hn
        simp [hd, lookup_eq_none_of_not_mem hnodup.1]
      · have hne : (n == name) = false := by simpa using hn
        simp [hd, hn, hne]
    · have hkey : (⟨directory, n⟩ : Key) ≠ ⟨Language.filedUnder lang s.defaultLang, name⟩ :=
        fun h => hd (Key.mk.inj h).1.symm
      rw [if_neg hd, if_neg hd, if_neg hkey]

theorem defaultLang_putAll (s : Subjects) (lang : String) (es : List (String × String)) :
    (s.putAll lang es).defaultLang = s.defaultLang := by
  rw [putAll_eq]
  rfl

/-- What may be reported of a document: that it cannot be read, or any of its bad names. -/
def faultsOf (disk : FileTree) (path : String) : List Fault :=
  match readDocument disk path with
  | .error fault => [fault]
  | .ok entries => (entries.keys.filter fun name => !isName name).map .invalidName

/-- What a pass reports of a document. -/
def faultOf? (disk : FileTree) (path : String) (pass : Pass) : Option Fault :=
  match readDocument disk path with
  | .error fault => some fault
  | .ok entries => (badName? (pass.order entries.entries)).map .invalidName

/-- The names that a pass goes through are those of the document. -/
theorem mem_names_order (pass : Pass) {entries : Table String String} {name : String} :
    name ∈ (pass.order entries.entries).map Prod.fst ↔ name ∈ entries.keys :=
  ((pass.perm entries.entries).map Prod.fst).mem_iff

theorem mem_faultsOf {disk : FileTree} {path : String} {pass : Pass} {fault : Fault}
    (h : faultOf? disk path pass = some fault) : fault ∈ faultsOf disk path := by
  unfold faultOf? at h
  unfold faultsOf
  cases hread : readDocument disk path with
  | error fault' =>
    rw [hread] at h
    exact List.mem_singleton.mpr (Option.some.inj h).symm
  | ok entries =>
    rw [hread] at h
    obtain ⟨name, hname, rfl⟩ := Option.map_eq_some_iff.mp h
    unfold badName? at hname
    have hbad : (!isName name) = true := List.find?_some (p := fun n => !isName n) hname
    refine List.mem_map_of_mem (List.mem_filter.mpr ⟨?_, hbad⟩)
    exact (mem_names_order pass).mp (List.mem_of_find?_eq_some hname)

/-- Every pass reports something if anything may be reported. -/
theorem faultOf?_eq_none {disk : FileTree} {path : String} (pass : Pass) :
    faultOf? disk path pass = none ↔ faultsOf disk path = [] := by
  unfold faultOf? faultsOf
  cases readDocument disk path with
  | error fault => simp
  | ok entries =>
    dsimp only
    rw [Option.map_eq_none_iff, List.map_eq_nil_iff, List.filter_eq_nil_iff, badName?,
      List.find?_eq_none]
    exact forall_congr' fun name => imp_congr_left (mem_names_order pass)

/-- The pass that goes through the entries of one name first. -/
def Pass.first (name : String) : Pass where
  order es := es.filter (fun e => e.1 = name) ++ es.filter fun e => !decide (e.1 = name)
  perm es := List.filter_append_perm _ es

/-- Whatever may be reported of a document, some pass reports. -/
theorem exists_pass {disk : FileTree} {path : String} {fault : Fault}
    (h : fault ∈ faultsOf disk path) : ∃ pass, faultOf? disk path pass = some fault := by
  unfold faultsOf at h
  unfold faultOf?
  cases hread : readDocument disk path with
  | error fault' =>
    rw [hread] at h
    exact ⟨.asWritten, congrArg some (List.mem_singleton.mp h).symm⟩
  | ok entries =>
    rw [hread] at h
    obtain ⟨name, hname, rfl⟩ := List.mem_map.mp h
    obtain ⟨hmem, hbad⟩ := List.mem_filter.mp hname
    obtain ⟨e, he, rfl⟩ := List.mem_map.mp hmem
    -- the entries of the name come first, and there is one
    have hfirst : ((entries.entries.filter fun f => f.1 = e.1).map Prod.fst).find?
        (fun name => !isName name) = some e.1 := by
      cases hfind : ((entries.entries.filter fun f => f.1 = e.1).map Prod.fst).find? _ with
      | none =>
        refine absurd hbad (List.find?_eq_none.mp hfind e.1 (List.mem_map_of_mem ?_))
        exact List.mem_filter.mpr ⟨he, decide_eq_true rfl⟩
      | some other =>
        obtain ⟨f, hf, rfl⟩ := List.mem_map.mp (List.mem_of_find?_eq_some hfind)
        exact congrArg some (of_decide_eq_true (List.mem_filter.mp hf).2)
    refine ⟨.first e.1, ?_⟩
    show (badName? ((Pass.first e.1).order entries.entries)).map Fault.invalidName = _
    rw [badName?, Pass.first, List.map_append, List.find?_append, hfirst, Option.some_or]
    rfl

/-- A document that is taken over has nothing to report. -/
theorem faultsOf_of_accepted {disk : FileTree} {path : String} {entries : Table String String}
    (h : accepted? disk path = some entries) : faultsOf disk path = [] := by
  rw [← faultOf?_eq_none .asWritten]
  unfold accepted? at h
  unfold faultOf?
  cases hread : readDocument disk path with
  | error fault => rw [hread] at h; cases h
  | ok entries' =>
    rw [hread] at h
    dsimp only at h ⊢
    split at h
    · next hnone => exact Option.map_eq_none_iff.mpr (Option.isNone_iff_eq_none.mp hnone)
    · cases h

/-- **What loading a document comes to** in any pass: the document is taken over, or the pass
reports something. -/
theorem loadDocument_outcome (disk : FileTree) (s : Subjects) (lang path : String) (pass : Pass) :
    (∃ entries, accepted? disk path = some entries ∧
      (s.loadDocument disk lang path pass).result = .ok entries.size ∧
      (s.loadDocument disk lang path pass).state.defaultLang = s.defaultLang ∧
      ∀ k, (s.loadDocument disk lang path pass).state.lines.get? k
        = (if Language.filedUnder lang s.defaultLang = k.directory then entries.get? k.name
            else none).or (s.lines.get? k)) ∨
    ∃ fault, accepted? disk path = none ∧ faultOf? disk path pass = some fault ∧
      (s.loadDocument disk lang path pass).result = .error fault ∧
      (s.loadDocument disk lang path pass).state = s := by
  cases hfault : faultOf? disk path pass with
  | none =>
    have hnone := (faultOf?_eq_none pass).mp hfault
    rw [← faultOf?_eq_none .asWritten] at hnone
    rw [loadDocument_eq_putAll]
    unfold faultOf? at hfault hnone
    unfold accepted?
    cases hread : readDocument disk path with
    | error fault => rw [hread] at hfault; cases hfault
    | ok entries =>
      rw [hread] at hfault hnone
      have hbad := Option.map_eq_none_iff.mp hfault
      have hwritten : badName? entries.entries = none := Option.map_eq_none_iff.mp hnone
      have hnodup : ((pass.order entries.entries).map Prod.fst).Nodup :=
        ((pass.perm entries.entries).map Prod.fst).nodup_iff.mpr entries.nodup
      dsimp only
      rw [hbad, hwritten]
      refine .inl ⟨entries, rfl, rfl, s.defaultLang_putAll lang _, fun k => ?_⟩
      rw [get?_putAll hnodup, lookup_of_perm (pass.perm entries.entries) entries.nodup]
      split
      · rfl
      · exact Option.none_or.symm
  | some fault =>
    have hmem := mem_faultsOf hfault
    rw [loadDocument_eq_putAll]
    refine .inr ⟨fault, ?_, rfl, ?_⟩
    · cases haccepted : accepted? disk path with
      | none => rfl
      | some entries =>
        rw [faultsOf_of_accepted haccepted] at hmem
        cases hmem
    · unfold faultOf? at hfault
      cases hread : readDocument disk path with
      | error fault' =>
        rw [hread] at hfault
        exact ⟨congrArg Except.error (Option.some.inj hfault), rfl⟩
      | ok entries =>
        rw [hread] at hfault
        obtain ⟨name, hname, rfl⟩ := Option.map_eq_some_iff.mp hfault
        dsimp only
        rw [hname]
        exact ⟨rfl, rfl⟩

end Subjects

namespace Engine

open Subjects (Pass)

section documents

variable (disk : FileTree) (root directory : String)

/-- The document of subject lines in a directory below the root. -/
def documentPath : String := FileTree.join (FileTree.join root directory) subjectsFile

/-- The entries of the document of a directory, if it is good. -/
def acceptedIn? : Option (Table String String) :=
  if disk.isFile (documentPath root directory) then accepted? disk (documentPath root directory)
  else none

/-- What may be reported of the document of a directory. -/
def faultsIn : List Fault :=
  if disk.isFile (documentPath root directory) then
    Subjects.faultsOf disk (documentPath root directory)
  else []

/-- What is reported of the document of a directory if it is gone through in the order of a pass. -/
def faultIn? (passes : String → Pass) : Option Fault :=
  if disk.isFile (documentPath root directory) then
    Subjects.faultOf? disk (documentPath root directory) (passes directory)
  else none

/-- The number of lines in the document of a directory. -/
def countIn : Nat := (acceptedIn? disk root directory).elim 0 Table.size

/-- The line that the document of a directory gives for a key. -/
def lineIn? (defaultLang : String) (k : Key) : Option String :=
  (acceptedIn? disk root directory).bind fun entries =>
    if Language.filedUnder directory defaultLang = k.directory then entries.get? k.name else none

variable {disk root directory}

/-- A document that gives a line is good. -/
theorem faultsIn_of_lineIn? {defaultLang line : String} {k : Key}
    (h : lineIn? disk root directory defaultLang k = some line) :
    faultsIn disk root directory = [] := by
  obtain ⟨entries, hentries, -⟩ := Option.bind_eq_some_iff.mp h
  unfold acceptedIn? at hentries
  unfold faultsIn
  split at hentries
  · next hfile => rw [if_pos hfile, Subjects.faultsOf_of_accepted hentries]
  · cases hentries

theorem mem_faultsIn {passes : String → Pass} {fault : Fault}
    (h : faultIn? disk root directory passes = some fault) :
    fault ∈ faultsIn disk root directory := by
  unfold faultIn? at h
  unfold faultsIn
  split at h
  · next hfile =>
    rw [if_pos hfile]
    exact Subjects.mem_faultsOf h
  · cases h

theorem faultIn?_eq_none (passes : String → Pass) :
    faultIn? disk root directory passes = none ↔ faultsIn disk root directory = [] := by
  unfold faultIn? faultsIn
  split
  · exact Subjects.faultOf?_eq_none _
  · simp

theorem exists_passes {fault : Fault} (h : fault ∈ faultsIn disk root directory) :
    ∃ passes, faultIn? disk root directory passes = some fault := by
  unfold faultsIn at h
  unfold faultIn?
  split at h
  · next hfile =>
    obtain ⟨pass, hpass⟩ := Subjects.exists_pass h
    exact ⟨fun _ => pass, by rw [if_pos hfile, hpass]⟩
  · cases h

end documents

/-! ## §2. A reading in terms of its documents -/

/-- Whether the document of a directory does not end a reading. -/
def isGoodIn (disk : FileTree) (root directory : String) : Bool :=
  (faultsIn disk root directory).isEmpty

theorem isGoodIn_of_nil {disk : FileTree} {root directory : String}
    (h : faultsIn disk root directory = []) : isGoodIn disk root directory = true := by
  unfold isGoodIn
  rw [h]
  rfl

theorem isGoodIn_of_mem {disk : FileTree} {root directory : String} {fault : Fault}
    (h : fault ∈ faultsIn disk root directory) : isGoodIn disk root directory = false := by
  unfold isGoodIn
  rw [List.isEmpty_eq_false_iff]
  exact List.ne_nil_of_mem h

/-- The number of lines in the documents of listed directories. -/
def linesIn (disk : FileTree) (root : String) : List String → Nat
  | [] => 0
  | directory :: rest => countIn disk root directory + linesIn disk root rest

theorem linesIn_of_perm {disk : FileTree} {root : String} {names names' : List String}
    (h : names'.Perm names) : linesIn disk root names' = linesIn disk root names := by
  induction h with
  | nil => rfl
  | cons d _ ih => rw [linesIn, linesIn, ih]
  | swap d d' rest =>
    rw [linesIn, linesIn, linesIn, linesIn]
    omega
  | trans _ _ ih ih' => exact ih.trans ih'

/-- What listed directories come to, after some lines before: the first fault, or the number of all
lines. -/
def tally (disk : FileTree) (root : String) (passes : String → Pass) (total : Nat)
    (names : List String) : Except Fault Nat :=
  (names.findSome? fun d => faultIn? disk root d passes).elim
    (.ok (total + linesIn disk root names)) .error

theorem tally_eq_ok {disk : FileTree} {root : String} {passes : String → Pass}
    {names : List String} {n : Nat} :
    tally disk root passes 0 names = .ok n ↔
      (∀ d ∈ names, faultsIn disk root d = []) ∧ linesIn disk root names = n := by
  unfold tally
  simp only [← faultIn?_eq_none passes]
  rw [← List.findSome?_eq_none_iff, Nat.zero_add]
  cases names.findSome? fun d => faultIn? disk root d passes with
  | none => simp
  | some fault => simp

section reading

variable (disk : FileTree) (root : String) (passes : String → Pass)

theorem readSubjectsOf_of_not_isFile {name : String}
    (h : ¬disk.isFile (documentPath root name)) (s : Subjects) (total : Nat) (rest : List String) :
    readSubjectsOf disk root passes s total (name :: rest)
      = readSubjectsOf disk root passes s total rest :=
  if_neg h

theorem readSubjectsOf_of_ok {s : Subjects} {name : String} {n : Nat}
    (h : disk.isFile (documentPath root name))
    (hresult : (s.loadDocument disk name (documentPath root name) (passes name)).result = .ok n)
    (total : Nat) (rest : List String) :
    let step := s.loadDocument disk name (documentPath root name) (passes name)
    let next := readSubjectsOf disk root passes step.state (total + n) rest
    readSubjectsOf disk root passes s total (name :: rest)
      = ⟨next.result, next.state, step.events ++ next.events⟩ := by
  refine (if_pos h).trans ?_
  unfold documentPath at hresult ⊢
  dsimp only
  rw [hresult]

theorem readSubjectsOf_of_error {s : Subjects} {name : String} {fault : Fault}
    (h : disk.isFile (documentPath root name))
    (hresult : (s.loadDocument disk name (documentPath root name) (passes name)).result
      = .error fault) (total : Nat) (rest : List String) :
    let step := s.loadDocument disk name (documentPath root name) (passes name)
    readSubjectsOf disk root passes s total (name :: rest)
      = ⟨.error fault, step.state, step.events⟩ := by
  refine (if_pos h).trans ?_
  unfold documentPath at hresult ⊢
  dsimp only
  rw [hresult]

/-- The outcome of one document at the head of a reading: there is none, it is taken over, or it
ends the reading. -/
theorem readSubjectsOf_cons (s : Subjects) (total : Nat) (name : String) (rest : List String) :
    (∃ s' : Subjects, faultIn? disk root name passes = none ∧
      (readSubjectsOf disk root passes s total (name :: rest)).result
        = (readSubjectsOf disk root passes s' (total + countIn disk root name) rest).result ∧
      (readSubjectsOf disk root passes s total (name :: rest)).state
        = (readSubjectsOf disk root passes s' (total + countIn disk root name) rest).state ∧
      s'.defaultLang = s.defaultLang ∧
      ∀ k, s'.lines.get? k
        = (lineIn? disk root name s.defaultLang k).or (s.lines.get? k)) ∨
    ∃ fault, faultIn? disk root name passes = some fault ∧
      (readSubjectsOf disk root passes s total (name :: rest)).result = .error fault ∧
      (readSubjectsOf disk root passes s total (name :: rest)).state = s := by
  unfold faultIn? countIn lineIn? acceptedIn?
  by_cases hfile : disk.isFile (documentPath root name)
  · simp only [if_pos hfile]
    rcases s.loadDocument_outcome disk name (documentPath root name) (passes name) with
      ⟨entries, haccepted, hresult, hlang, hlines⟩ | ⟨fault, haccepted, hfault, hresult, hstate⟩
    · have hnone := (Subjects.faultOf?_eq_none (passes name)).mpr
        (Subjects.faultsOf_of_accepted haccepted)
      rw [readSubjectsOf_of_ok disk root passes hfile hresult]
      simp only [haccepted, Option.elim_some, Option.bind_some]
      exact .inl ⟨_, hnone, rfl, rfl, hlang, hlines⟩
    · rw [readSubjectsOf_of_error disk root passes hfile hresult]
      exact .inr ⟨fault, hfault, rfl, hstate⟩
  · simp only [if_neg hfile]
    rw [readSubjectsOf_of_not_isFile disk root passes hfile]
    exact .inl ⟨s, trivial, rfl, rfl, rfl, fun k => Option.none_or.symm⟩

/-- **A reading ends at the first document that is no good**, and otherwise counts all lines. -/
theorem readSubjectsOf_result (s : Subjects) (total : Nat) (names : List String) :
    (readSubjectsOf disk root passes s total names).result
      = tally disk root passes total names := by
  induction names generalizing s total with
  | nil => rfl
  | cons name rest ih =>
    unfold tally at ih ⊢
    rw [List.findSome?_cons, linesIn, ← Nat.add_assoc]
    rcases readSubjectsOf_cons disk root passes s total name rest with
      ⟨s', hnone, hresult, -⟩ | ⟨fault, hfault, hresult, -⟩
    · rw [hresult, hnone]
      exact ih s' _
    · rw [hresult, hfault]
      rfl

/-- **What a reading leaves under a key**: the line of the last good document that gives one before
the reading ends, or else what was there. -/
theorem get?_readSubjectsOf (s : Subjects) (total : Nat) (names : List String) (k : Key) :
    (readSubjectsOf disk root passes s total names).state.lines.get? k
      = ((names.takeWhile (isGoodIn disk root)).reverse.findSome?
          fun d => lineIn? disk root d s.defaultLang k).or (s.lines.get? k) := by
  induction names generalizing s total with
  | nil => exact Option.none_or.symm
  | cons name rest ih =>
    rcases readSubjectsOf_cons disk root passes s total name rest with
      ⟨s', hnone, -, hstate, hlang, hlines⟩ | ⟨fault, hfault, -, hstate⟩
    · have hgood := isGoodIn_of_nil ((faultIn?_eq_none passes).mp hnone)
      rw [hstate, ih, hlang, hlines, List.takeWhile_cons_of_pos hgood, List.reverse_cons,
        List.findSome?_append, List.findSome?_singleton, Option.or_assoc]
    · have hbad := isGoodIn_of_mem (mem_faultsIn hfault)
      rw [hstate, List.takeWhile_cons_of_neg (by simp [hbad])]
      exact Option.none_or.symm

end reading

/-! ## §3. One reading after another order -/

/-- The names of the directories and files below the root, as they are listed. -/
def listing (disk : FileTree) (root : String) : List String :=
  match disk.entries root with
  | .ok entries => entries.map Prod.fst
  | .error _ => []

/-- All documents below the root are good. -/
def AllGood (disk : FileTree) (root : String) : Prop :=
  ∀ d ∈ listing disk root, faultsIn disk root d = []

/-- The documents below the root that are no good fail alike: one thing only may be reported of
them all. -/
def FailAlike (disk : FileTree) (root : String) : Prop :=
  ∀ d ∈ listing disk root, ∀ d' ∈ listing disk root,
    ∀ fault ∈ faultsIn disk root d, ∀ fault' ∈ faultsIn disk root d', fault = fault'

/-- The documents below the root that give a line for a key give the same one. -/
def Agree (disk : FileTree) (root defaultLang : String) (k : Key) : Prop :=
  ∀ d ∈ listing disk root, ∀ d' ∈ listing disk root, ∀ line line',
    lineIn? disk root d defaultLang k = some line →
      lineIn? disk root d' defaultLang k = some line' → line = line'

/-- The documents below the root give no line for a key but the one that is registered. -/
def AddNothing (disk : FileTree) (root : String) (s : Subjects) (k : Key) : Prop :=
  ∀ d ∈ listing disk root, ∀ line, lineIn? disk root d s.defaultLang k = some line →
    s.lines.get? k = some line

/-- The outcome of a reading is not up to the order: all documents are good and none contradicts
another, or those that are no good fail alike and the others add nothing. -/
def Orderless (disk : FileTree) (e : Engine) : Prop :=
  (AllGood disk e.store.root ∧ ∀ k, Agree disk e.store.root e.subjects.defaultLang k) ∨
    (¬ AllGood disk e.store.root ∧ FailAlike disk e.store.root ∧
      ∀ k, AddNothing disk e.store.root e.subjects k)

/-- Two readings with one result, after which the same lines are registered. -/
structure SameReading (r r' : Step (Except Fault Nat) Engine) : Prop where
  result : r'.result = r.result
  lines : ∀ k, r'.state.subjects.lines.get? k = r.state.subjects.lines.get? k

section perm

variable {α β : Type} {f : α → Option β} {l m : List α}

/-- A search that can find one value only finds it. -/
theorem findSome?_of_agree {v : β} (found : ∃ a ∈ l, f a = some v)
    (agree : ∀ a ∈ l, ∀ u, f a = some u → u = v) : l.findSome? f = some v := by
  obtain ⟨a, ha, hv⟩ := found
  cases hsearch : l.findSome? f with
  | none =>
    rw [List.findSome?_eq_none_iff.mp hsearch a ha] at hv
    cases hv
  | some u =>
    obtain ⟨b, hb, hu⟩ := List.exists_of_findSome?_eq_some hsearch
    rw [agree b hb u hu]

/-- Two searches that can find one value only, and fail at the same elements, find the same in every
order. -/
theorem findSome?_of_perm {g : α → Option β} (h : m.Perm l)
    (failing : ∀ a ∈ l, g a = none ↔ f a = none)
    (agree : ∀ a ∈ l, ∀ b ∈ l, ∀ u v, f a = some u → g b = some v → u = v) :
    m.findSome? g = l.findSome? f := by
  cases hsearch : l.findSome? f with
  | none =>
    rw [List.findSome?_eq_none_iff] at hsearch ⊢
    exact fun a ha => (failing a (h.mem_iff.mp ha)).mpr (hsearch a (h.mem_iff.mp ha))
  | some v =>
    obtain ⟨b, hb, hv⟩ := List.exists_of_findSome?_eq_some hsearch
    have hfound : g b ≠ none := by
      rw [Ne, failing b hb, hv]
      exact nofun
    obtain ⟨w, hw⟩ := Option.ne_none_iff_exists'.mp hfound
    obtain rfl := agree b hb b hb v w hv hw
    exact findSome?_of_agree ⟨b, h.mem_iff.mpr hb, hw⟩
      fun a ha u hu => (agree b hb a (h.mem_iff.mp ha) _ u hv hu).symm

/-- What nothing else may precede comes first. -/
theorem head?_of_pairwise {R : α → α → Prop} {a : α} (sorted : l.Pairwise R) (ha : a ∈ l)
    (first : ∀ b, R b a → b = a) : l.head? = some a := by
  cases sorted with
  | nil => cases ha
  | cons hrest _ =>
    rcases List.mem_cons.mp ha with rfl | ha
    · rfl
    · rw [first _ (hrest a ha)]
      rfl

/-- What stops a run comes after all of the run. -/
theorem of_mem_takeWhile {R : α → α → Prop} {p : α → Bool} {a b : α} (sorted : l.Pairwise R)
    (ha : a ∈ l.takeWhile p) (hb : b ∈ l) (hstop : p b = false) : R a b := by
  rw [← List.takeWhile_append_dropWhile (p := p) (l := l)] at sorted hb
  refine (List.pairwise_append.mp sorted).2.2 a ha b ?_
  refine (List.mem_append.mp hb).resolve_left fun hrun => ?_
  rw [List.mem_takeWhile_imp hrun] at hstop
  cases hstop

end perm

/-- What reading all documents comes to, where the directories can be listed. -/
theorem readSubjectFiles_result {disk : FileTree} {e : Engine}
    {entries : List (String × FileTree)} (h : disk.entries e.store.root = .ok entries)
    (passes : String → Pass) :
    (e.readSubjectFiles disk passes).result
      = tally disk e.store.root passes 0 (listing disk e.store.root) := by
  unfold readSubjectFiles listing
  rw [h]
  exact readSubjectsOf_result ..

/-- What reading all documents leaves under a key, in any order of their entries. -/
theorem get?_readSubjectFiles (disk : FileTree) (e : Engine) (passes : String → Pass) (k : Key) :
    (e.readSubjectFiles disk passes).state.subjects.lines.get? k
      = (((listing disk e.store.root).takeWhile (isGoodIn disk e.store.root)).reverse.findSome?
          fun d => lineIn? disk e.store.root d e.subjects.defaultLang k).or
        (e.subjects.lines.get? k) := by
  unfold readSubjectFiles listing
  split
  next hentries => rw [hentries]; rfl
  next hentries => rw [hentries]; rfl
  next entries hentries =>
    rw [hentries]
    exact get?_readSubjectsOf ..

/-- A reading goes through all documents that are good. -/
theorem takeWhile_of_allGood {disk : FileTree} {root : String} {names : List String}
    (good : ∀ d ∈ names, faultsIn disk root d = []) :
    names.takeWhile (isGoodIn disk root) = names := by
  rw [List.takeWhile_eq_self_iff]
  exact fun d hd => isGoodIn_of_nil (good d hd)

section relisted

variable {disk disk' : FileTree} (h : disk.Relisted disk')
include h

theorem readDocument_of_relisted (path : String) :
    Subjects.readDocument disk' path = Subjects.readDocument disk path := by
  unfold Subjects.readDocument
  rw [h.readText_eq]

theorem acceptedIn?_of_relisted : acceptedIn? disk' = acceptedIn? disk := by
  funext root d
  unfold acceptedIn? accepted?
  rw [h.isFile_eq, readDocument_of_relisted h]

theorem faultsIn_of_relisted : faultsIn disk' = faultsIn disk := by
  funext root d
  unfold faultsIn Subjects.faultsOf
  rw [h.isFile_eq, readDocument_of_relisted h]

theorem faultIn?_of_relisted : faultIn? disk' = faultIn? disk := by
  funext root d passes
  unfold faultIn? Subjects.faultOf?
  rw [h.isFile_eq, readDocument_of_relisted h]

theorem isGoodIn_of_relisted : isGoodIn disk' = isGoodIn disk := by
  funext root d
  unfold isGoodIn
  rw [faultsIn_of_relisted h]

theorem linesIn_of_relisted : linesIn disk' = linesIn disk := by
  funext root names
  induction names with
  | nil => rfl
  | cons d rest ih =>
    rw [linesIn, linesIn, ih]
    unfold countIn
    rw [acceptedIn?_of_relisted h]

theorem lineIn?_of_relisted : lineIn? disk' = lineIn? disk := by
  funext root d defaultLang k
  unfold lineIn?
  rw [acceptedIn?_of_relisted h]

/-- The same names are listed. -/
theorem listing_of_relisted (root : String) :
    (listing disk' root).Perm (listing disk root) := by
  have hentries := FileTree.RelistedAs.entries h root
  unfold listing
  generalize disk.entries root = listed at hentries ⊢
  generalize disk'.entries root = listed' at hentries ⊢
  cases hentries with
  | error fault => exact .nil
  | ok hlisted => exact hlisted.1

/-- The result is up to the listed names and the passes only. -/
theorem result_of_relisted (e : Engine) (passes passes' : String → Pass) :
    (e.readSubjectFiles disk' passes').result = (e.readSubjectFiles disk passes).result ∨
      (e.readSubjectFiles disk passes).result
          = tally disk e.store.root passes 0 (listing disk e.store.root) ∧
        (e.readSubjectFiles disk' passes').result
          = tally disk e.store.root passes' 0 (listing disk' e.store.root) := by
  have hentries := FileTree.RelistedAs.entries h e.store.root
  cases hlisted : disk.entries e.store.root with
  | error fault =>
    rw [hlisted] at hentries
    refine Or.inl ?_
    unfold readSubjectFiles
    rw [hlisted]
    generalize disk'.entries e.store.root = listed' at hentries
    cases hentries with
    | error => cases fault <;> rfl
  | ok entries =>
    refine Or.inr ⟨readSubjectFiles_result hlisted passes, ?_⟩
    rw [hlisted] at hentries
    generalize hlisted' : disk'.entries e.store.root = listed' at hentries
    cases hentries with
    | ok =>
      rw [readSubjectFiles_result hlisted']
      unfold tally
      rw [faultIn?_of_relisted h, linesIn_of_relisted h]

/-- **A reading succeeds in every order or in none**, and counts the same lines. -/
theorem result_eq_ok_of_relisted (e : Engine) (passes passes' : String → Pass) (n : Nat) :
    (e.readSubjectFiles disk' passes').result = .ok n
      ↔ (e.readSubjectFiles disk passes).result = .ok n := by
  have hnames := listing_of_relisted h e.store.root
  rcases result_of_relisted h e passes passes' with hsame | ⟨hresult, hresult'⟩
  · rw [hsame]
  · rw [hresult, hresult', tally_eq_ok, tally_eq_ok, linesIn_of_perm hnames]
    simp only [hnames.mem_iff]

/-- Where the documents that are no good fail alike, the result is the same in every order. -/
theorem result_of_failAlike {e : Engine} (alike : FailAlike disk e.store.root)
    (passes passes' : String → Pass) :
    (e.readSubjectFiles disk' passes').result = (e.readSubjectFiles disk passes).result := by
  have hnames := listing_of_relisted h e.store.root
  rcases result_of_relisted h e passes passes' with hsame | ⟨hresult, hresult'⟩
  · exact hsame
  · have hfirst := findSome?_of_perm (f := fun d => faultIn? disk e.store.root d passes)
      (g := fun d => faultIn? disk e.store.root d passes') hnames
      (fun d _ => (faultIn?_eq_none passes').trans (faultIn?_eq_none passes).symm)
      fun d hd d' hd' fault fault' hfault hfault' =>
        alike d hd d' hd' fault (mem_faultsIn hfault) fault' (mem_faultsIn hfault')
    rw [hresult, hresult']
    unfold tally
    rw [hfirst, linesIn_of_perm hnames]

/-- Where the documents add nothing, a line stays as it is. -/
theorem get?_of_addNothing {e : Engine} {k : Key}
    (nothing : AddNothing disk e.store.root e.subjects k) (passes : String → Pass) :
    (e.readSubjectFiles disk' passes).state.subjects.lines.get? k
      = e.subjects.lines.get? k := by
  rw [get?_readSubjectFiles, lineIn?_of_relisted h]
  generalize hsearch : List.findSome? _ _ = found
  cases found with
  | none => exact Option.none_or
  | some line =>
    obtain ⟨d, hd, hline⟩ := List.exists_of_findSome?_eq_some hsearch
    have hlisted := (List.takeWhile_prefix _).subset (List.mem_reverse.mp hd)
    rw [nothing d ((listing_of_relisted h _).mem_iff.mp hlisted) line hline, Option.some_or]

/-- Where all documents are good, a line on which they agree is the same in every order. -/
theorem get?_of_agree {e : Engine} {k : Key} (good : AllGood disk e.store.root)
    (agree : Agree disk e.store.root e.subjects.defaultLang k) (passes passes' : String → Pass) :
    (e.readSubjectFiles disk' passes').state.subjects.lines.get? k
      = (e.readSubjectFiles disk passes).state.subjects.lines.get? k := by
  have hnames := listing_of_relisted h e.store.root
  rw [get?_readSubjectFiles, get?_readSubjectFiles, isGoodIn_of_relisted h,
    lineIn?_of_relisted h, takeWhile_of_allGood good,
    takeWhile_of_allGood fun d hd => good d (hnames.mem_iff.mp hd)]
  have hperm := (List.reverse_perm (listing disk' e.store.root)).trans
    (hnames.trans (List.reverse_perm (listing disk e.store.root)).symm)
  rw [findSome?_of_perm hperm (fun _ _ => Iff.rfl) fun a ha b hb u v =>
    agree a (List.mem_reverse.mp ha) b (List.mem_reverse.mp hb) u v]

end relisted

/-! ## §4. Orders that show -/

section orders

variable {disk : FileTree} {e : Engine} {d line : String} {k : Key}

/-- The directories below the root can be listed in the order of any ranking. -/
theorem exists_listing (disk : FileTree) (root : String) (rank : String → Nat) :
    ∃ disk', disk.Relisted disk' ∧ (listing disk' root).Pairwise fun a b => rank a ≤ rank b := by
  obtain ⟨disk', h⟩ := FileTree.exists_relistedAs rank disk
  refine ⟨disk', h.relisted, ?_⟩
  have hentries := h.entries root
  unfold listing
  generalize disk.entries root = listed at hentries
  generalize disk'.entries root = listed' at hentries ⊢
  cases hentries with
  | error fault => exact .nil
  | ok hlisted => exact hlisted.2

/-- A directory can be listed first. -/
theorem exists_listing_first (hd : d ∈ listing disk e.store.root) :
    ∃ disk', disk.Relisted disk' ∧ (listing disk' e.store.root).head? = some d := by
  obtain ⟨disk', h, hranked⟩ := exists_listing disk e.store.root fun x => if x = d then 0 else 1
  refine ⟨disk', h, head?_of_pairwise hranked ((listing_of_relisted h _).mem_iff.mpr hd) ?_⟩
  intro b hb
  by_contra hne
  simp [hne] at hb

/-- Among good documents, the line of any one can be the one that stays: its directory is listed
last. -/
theorem exists_last (good : AllGood disk e.store.root) (hd : d ∈ listing disk e.store.root)
    (hline : lineIn? disk e.store.root d e.subjects.defaultLang k = some line) :
    ∃ disk', disk.Relisted disk' ∧ ∀ passes,
      (e.readSubjectFiles disk' passes).state.subjects.lines.get? k = some line := by
  obtain ⟨disk', h, hranked⟩ := exists_listing disk e.store.root fun x => if x = d then 1 else 0
  refine ⟨disk', h, fun passes => ?_⟩
  have hnames := listing_of_relisted h e.store.root
  have hwhole : (listing disk' e.store.root).takeWhile (isGoodIn disk e.store.root)
      = listing disk' e.store.root :=
    takeWhile_of_allGood fun x hx => good x (hnames.mem_iff.mp hx)
  have hlast : (listing disk' e.store.root).reverse.head? = some d := by
    refine head?_of_pairwise (List.pairwise_reverse.mpr hranked)
      (List.mem_reverse.mpr (hnames.mem_iff.mpr hd)) ?_
    intro b hb
    by_contra hne
    simp [hne] at hb
  obtain ⟨rest, hrest⟩ := List.head?_eq_some_iff.mp hlast
  rw [get?_readSubjectFiles, isGoodIn_of_relisted h, lineIn?_of_relisted h, hwhole, hrest,
    List.findSome?_cons, hline, Option.some_or]

/-- Whatever may be reported of a document, a reading can fail for it and leave all lines as they
were: its directory is listed first, and its entries come in the right order. -/
theorem exists_fault {fault : Fault} (hd : d ∈ listing disk e.store.root)
    (hfault : fault ∈ faultsIn disk e.store.root d) :
    ∃ disk' passes, disk.Relisted disk' ∧
      (e.readSubjectFiles disk' passes).result = .error fault ∧
      ∀ k, (e.readSubjectFiles disk' passes).state.subjects.lines.get? k
        = e.subjects.lines.get? k := by
  obtain ⟨disk', h, hfirst⟩ := exists_listing_first hd
  obtain ⟨passes, hpasses⟩ := exists_passes hfault
  obtain ⟨rest, hrest⟩ := List.head?_eq_some_iff.mp hfirst
  refine ⟨disk', passes, h, ?_, fun k => ?_⟩
  · have hresult : (e.readSubjectFiles disk' passes).result
        = tally disk' e.store.root passes 0 (listing disk' e.store.root) := by
      cases hlisted : disk'.entries e.store.root with
      | error fault =>
        unfold listing at hrest
        rw [hlisted] at hrest
        cases hrest
      | ok entries => exact readSubjectFiles_result hlisted passes
    rw [hresult, hrest]
    unfold tally
    rw [faultIn?_of_relisted h, List.findSome?_cons, hpasses]
    rfl
  · rw [get?_readSubjectFiles, isGoodIn_of_relisted h, hrest,
      List.takeWhile_cons_of_neg (by simp [isGoodIn_of_mem hfault]), List.reverse_nil,
      List.findSome?_nil, Option.none_or]

/-- Where a document is no good, the line of any good one can still be the one that stays: the two
directories are listed first. -/
theorem exists_line_before_fault {b : String} {fault : Fault}
    (hd : d ∈ listing disk e.store.root)
    (hline : lineIn? disk e.store.root d e.subjects.defaultLang k = some line)
    (hb : b ∈ listing disk e.store.root) (hfault : fault ∈ faultsIn disk e.store.root b) :
    ∃ disk', disk.Relisted disk' ∧ ∀ passes,
      (e.readSubjectFiles disk' passes).state.subjects.lines.get? k = some line := by
  have hgood : isGoodIn disk e.store.root d = true := isGoodIn_of_nil (faultsIn_of_lineIn? hline)
  have hbad : isGoodIn disk e.store.root b = false := isGoodIn_of_mem hfault
  have hbd : b ≠ d := by
    rintro rfl
    rw [hbad] at hgood
    cases hgood
  obtain ⟨disk', h, hranked⟩ := exists_listing disk e.store.root
    fun x => if x = d then 0 else if x = b then 1 else 2
  refine ⟨disk', h, fun passes => ?_⟩
  have hnames := listing_of_relisted h e.store.root
  have hfirst : (listing disk' e.store.root).head? = some d := by
    refine head?_of_pairwise hranked (hnames.mem_iff.mpr hd) ?_
    intro x hx
    by_contra hne
    simp only [hne, if_false, if_true] at hx
    split at hx <;> omega
  -- whatever is read before the document that is no good is ranked before it
  have honly : ∀ x ∈ (listing disk' e.store.root).takeWhile (isGoodIn disk e.store.root),
      x = d := by
    intro x hx
    have hxb : x ≠ b := by
      rintro rfl
      rw [List.mem_takeWhile_imp hx] at hbad
      cases hbad
    have hrank := of_mem_takeWhile hranked hx (hnames.mem_iff.mpr hb) hbad
    by_contra hne
    simp [hne, hxb, hbd] at hrank
  obtain ⟨rest, hrest⟩ := List.head?_eq_some_iff.mp hfirst
  have hin : d ∈ (listing disk' e.store.root).takeWhile (isGoodIn disk e.store.root) := by
    rw [hrest, List.takeWhile_cons_of_pos hgood]
    exact List.mem_cons_self
  rw [get?_readSubjectFiles, isGoodIn_of_relisted h, lineIn?_of_relisted h,
    findSome?_of_agree ⟨d, List.mem_reverse.mpr hin, hline⟩ ?_, Option.some_or]
  intro x hx u hu
  rw [honly x (List.mem_reverse.mp hx), hline] at hu
  exact (Option.some.inj hu).symm

end orders

/-- All readings of an engine, in all orders of the listing and of the entries, come to the same. -/
def AlwaysSame (disk : FileTree) (e : Engine) : Prop :=
  ∀ disk' passes passes', disk.Relisted disk' →
    SameReading (e.readSubjectFiles disk passes) (e.readSubjectFiles disk' passes')

/-- Where all documents are good, no two orders differ exactly if the documents agree. -/
theorem agree_of_same {disk : FileTree} {e : Engine} (good : AllGood disk e.store.root)
    (same : AlwaysSame disk e) (k : Key) :
    Agree disk e.store.root e.subjects.defaultLang k := by
  intro d hd d' hd' line line' hline hline'
  obtain ⟨disk₁, h₁, hlast⟩ := exists_last good hd hline
  obtain ⟨disk₂, h₂, hlast'⟩ := exists_last good hd' hline'
  have written : String → Pass := fun _ => .asWritten
  have hlines := ((same disk₁ written written h₁).lines k).trans
    ((same disk₂ written written h₂).lines k).symm
  rw [hlast, hlast'] at hlines
  exact Option.some.inj hlines

/-- Where a document is no good and no two orders differ, all of these fail alike and the others
add nothing. -/
theorem failAlike_of_same {disk : FileTree} {e : Engine} (same : AlwaysSame disk e)
    {b : String} {fault : Fault} (hb : b ∈ listing disk e.store.root)
    (hfault : fault ∈ faultsIn disk e.store.root b) :
    FailAlike disk e.store.root ∧ ∀ k, AddNothing disk e.store.root e.subjects k := by
  constructor
  · intro d hd d' hd' fault₁ hfault₁ fault₂ hfault₂
    obtain ⟨disk₁, passes₁, h₁, hresult₁, -⟩ := exists_fault hd hfault₁
    obtain ⟨disk₂, passes₂, h₂, hresult₂, -⟩ := exists_fault hd' hfault₂
    have hresults := (same disk₁ passes₁ passes₁ h₁).result.trans
      (same disk₂ passes₁ passes₂ h₂).result.symm
    rw [hresult₁, hresult₂] at hresults
    exact Except.error.inj hresults
  · intro k d hd line hline
    obtain ⟨disk₁, passes, h₁, -, huntouched⟩ := exists_fault hb hfault
    obtain ⟨disk₂, h₂, hread⟩ := exists_line_before_fault hd hline hb hfault
    have hlines := ((same disk₁ passes passes h₁).lines k).trans
      ((same disk₂ passes passes h₂).lines k).symm
    rw [huntouched, hread] at hlines
    exact hlines

end Engine

/-! ## §5. What is up to the order -/

open Engine in
/-- **What a reading of all documents owes to the orders it goes in.**  Of the orders in which the
directories below the root, and all others, may be listed, and those in which the entries of a
document may be gone through:

  * a reading succeeds in all of them or in none, and then it counts the same lines;
  * a line is the same after all of them if the documents are good and those that give the line
    agree, or if none gives another line than the one that is registered;
  * the result and all lines are the same in all of them exactly if every document is good and no
    two of them, filed under one language, give a template different lines, or else one thing only
    may be reported of all documents that are no good and the others give nothing but lines that
    are registered. -/
theorem readSubjectFiles_relisted (disk : FileTree) (e : Engine) :
    (∀ disk' passes passes', disk.Relisted disk' →
      (∀ n, (e.readSubjectFiles disk' passes').result = .ok n
        ↔ (e.readSubjectFiles disk passes).result = .ok n) ∧
      ∀ k, (AllGood disk e.store.root ∧ Agree disk e.store.root e.subjects.defaultLang k ∨
          AddNothing disk e.store.root e.subjects k) →
        (e.readSubjectFiles disk' passes').state.subjects.lines.get? k
          = (e.readSubjectFiles disk passes).state.subjects.lines.get? k) ∧
    (AlwaysSame disk e ↔ Orderless disk e) := by
  have hlines : ∀ disk' passes passes', disk.Relisted disk' → ∀ k,
      (AllGood disk e.store.root ∧ Agree disk e.store.root e.subjects.defaultLang k ∨
          AddNothing disk e.store.root e.subjects k) →
        (e.readSubjectFiles disk' passes').state.subjects.lines.get? k
          = (e.readSubjectFiles disk passes).state.subjects.lines.get? k := by
    rintro disk' passes passes' h k (⟨good, agree⟩ | nothing)
    · exact get?_of_agree h good agree passes passes'
    · rw [get?_of_addNothing h nothing, get?_of_addNothing (FileTree.Relisted.refl disk) nothing]
  refine ⟨fun disk' passes passes' h =>
    ⟨result_eq_ok_of_relisted h e passes passes', hlines disk' passes passes' h⟩, ?_, ?_⟩
  · intro same
    by_cases good : AllGood disk e.store.root
    · exact Or.inl ⟨good, agree_of_same good same⟩
    · obtain ⟨b, hb⟩ := not_forall.mp good
      obtain ⟨hmem, hfaults⟩ := Classical.not_imp.mp hb
      obtain ⟨fault, hfault⟩ := List.exists_mem_of_ne_nil _ hfaults
      exact Or.inr ⟨good, failAlike_of_same same hmem hfault⟩
  · rintro (⟨good, agree⟩ | ⟨-, alike, nothing⟩) disk' passes passes' h
    · have halike : FailAlike disk e.store.root := by
        intro d hd _ _ fault hfault
        rw [good d hd] at hfault
        cases hfault
      exact ⟨result_of_failAlike h halike passes passes',
        fun k => hlines disk' passes passes' h k (Or.inl ⟨good, agree k⟩)⟩
    · exact ⟨result_of_failAlike h alike passes passes',
        fun k => hlines disk' passes passes' h k (Or.inr (nothing k))⟩

/-- A directory with one subject line for a greeting. -/
def greetingLine (line : String) : FileTree :=
  .directory [(subjectsFile, .file (.text ("\x7b\"welcome\": \"" ++ line ++ "\"\x7d")))]

/-- French under two spellings, in some order. -/
def frenchTwice (entries : List (String × FileTree)) : FileTree :=
  .directory [("templates", .directory entries)]

/-- **The order shows.**  Two directories are listed in one order and in the other; both readings
take over two lines, and the line for French is that of the directory that comes last. -/
theorem readSubjectFiles_shows_order :
    let upper := ("FR", greetingLine "Salut")
    let lower := ("fr", greetingLine "Bonjour")
    let read := fun disk => (plainEngine "en").readSubjectFiles disk
    (frenchTwice [upper, lower]).Relisted (frenchTwice [lower, upper]) ∧
      (read (frenchTwice [upper, lower])).result = .ok 2 ∧
      (read (frenchTwice [lower, upper])).result = .ok 2 ∧
      (read (frenchTwice [upper, lower])).state.subjects.resolve "welcome" "fr" = "Bonjour" ∧
      (read (frenchTwice [lower, upper])).state.subjects.resolve "welcome" "fr" = "Salut" ∧
      ¬ Engine.SameReading (read (frenchTwice [upper, lower]))
        (read (frenchTwice [lower, upper])) := by
  intro upper lower read
  refine ⟨?_, by decide +kernel, by decide +kernel, by decide +kernel, by decide +kernel, ?_⟩
  · exact (FileTree.Relisted.of_perm (.swap upper lower []) (by decide)).below "templates"
  · intro same
    have hline := same.lines ⟨"fr", "welcome"⟩
    revert hline
    decide +kernel

end LocalizedMail.Template
