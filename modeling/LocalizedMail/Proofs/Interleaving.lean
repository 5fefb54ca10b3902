import LocalizedMail.Proofs.Caching
import Mathlib.Logic.Function.Basic

/-!
# Loads that run at the same time

Many loads of one template for one language run at the same time over one store.  Each makes its
accesses one by one: it asks the memory for one directory, the cache for one directory, reads one
file, or keeps one text.  Between two of them the others may do anything that they do, and the files
may be rewritten.

A text is kept only where none is kept yet, and what is served is what is kept then.  So the first
load that keeps a text decides for all: together they do what one of them would have done alone,
over the files as they were at one moment.

  * `Position.next`: one access of a load; `Pool.turn`: one turn of any of them, or of the files;
  * `Fits`: what is known of a load from where it is, kept by its own accesses (`Fits.next`) and by
    those of the others (`Fits.stays`);
  * `Agreeing`: the same of all loads and the store, kept by every turn and so by every schedule;
  * `Position.cost`: a load is over after so many turns of its own, whatever the others do;
  * `concurrent_loads_agree`: all of it together.
-/

namespace LocalizedMail.Template

open Store (lookup firstIn firstText)

/-! ## §1. One load, access by access -/

/-- The two groups of directories that a load goes through. -/
inductive Group where
  | requested
  | fallback
  deriving DecidableEq, Repr

/-- The directories of a group. -/
def Group.directories (c : Language.Chain) : Group → List String
  | requested => c.requested
  | fallback => c.fallback

/-- Where a load is: what it does next, and which directories are left to do it for. -/
inductive Position where
  | inMemory (g : Group) (left : List String)
  | inCache (g : Group) (left : List String)
  | onDisk (g : Group) (left : List String)
  /-- it has read a text, and is about to keep it -/
  | keeping (directory body : String)
  | ended (result : Except Fault String)
  deriving DecidableEq

namespace Position

/-- Where a load begins. -/
def start (s : Store) (name lang : String) : Position :=
  match checkName name with
  | .error fault => .ended (.error fault)
  | .ok () => .inMemory .requested (s.chain lang).requested

/-- One access of a load to the files and the store: where it is then, and the store after it. -/
def next (disk : FileTree) (s : Store) (name lang : String) : Position → Position × Store
  | inMemory g [] => (.inCache g (g.directories (s.chain lang)), s)
  | inMemory g (d :: left) =>
    match s.memory.get? ⟨d, name⟩ with
    | some body => (.ended (.ok body), s)
    | none => (.inMemory g left, s)
  | inCache g [] => (.onDisk g (g.directories (s.chain lang)), s)
  | inCache g (d :: left) =>
    match s.cache.get? ⟨d, name⟩ with
    | some body => (.ended (.ok body), s)
    | none => (.inCache g left, s)
  | onDisk .requested [] => (.inMemory .fallback (s.chain lang).fallback, s)
  | onDisk .fallback [] =>
    (.ended (.error (.notFound name (Language.orDefault lang s.defaultLang))), s)
  | onDisk g (d :: left) =>
    match disk.readText (s.path d name) with
    | .ok body => (.keeping d body, s)
    | .error _ => (.onDisk g left, s)
  | keeping d body =>
    (.ended (.ok ((s.cache.get? ⟨d, name⟩).getD body)), s.keep ⟨d, name⟩ body)
  | ended result => (.ended result, s)

end Position

/-! ## §2. Many loads -/

/-- A store, its files, and where each of many loads is. -/
structure Pool (ι : Type) where
  store : Store
  disk : FileTree
  loads : ι → Position

/-- A turn: one access of one load, or a change of the files. -/
inductive Turn (ι : Type) where
  | of (i : ι)
  | rewritten (disk : FileTree)

variable {ι : Type} [DecidableEq ι]

/-- Whether a turn belongs to a load. -/
def Turn.isOf (i : ι) : Turn ι → Bool
  | of j => i = j
  | rewritten _ => false

omit [DecidableEq ι] in
/-- The files after a turn, if the turn is theirs. -/
def Turn.version? : Turn ι → Option FileTree
  | of _ => none
  | rewritten disk => some disk

omit [DecidableEq ι] in
/-- All states in which the files are during a schedule, the first one included. -/
def versions (disk : FileTree) (schedule : List (Turn ι)) : List FileTree :=
  disk :: schedule.filterMap Turn.version?

namespace Pool

omit [DecidableEq ι] in
/-- Loads that are about to begin. -/
def opened (s : Store) (disk : FileTree) (name lang : String) : Pool ι :=
  ⟨s, disk, fun _ => .start s name lang⟩

/-- The pool after a turn. -/
def turn (name lang : String) (p : Pool ι) : Turn ι → Pool ι
  | .of i =>
    let (position, store) := (p.loads i).next p.disk p.store name lang
    { p with store, loads := Function.update p.loads i position }
  | .rewritten disk => { p with disk }

/-- The pool after the turns of a schedule, first come first. -/
def after (name lang : String) (p : Pool ι) (schedule : List (Turn ι)) : Pool ι :=
  schedule.foldl (turn name lang) p

end Pool

/-- The same files of a template can be read, whatever their text. -/
def SameReadable (disk disk' : FileTree) (s : Store) (name : String) (ds : List String) : Prop :=
  ∀ d ∈ ds, (s.fileText? disk' name d).isSome = (s.fileText? disk name d).isSome

instance (disk disk' : FileTree) (s : Store) (name : String) (ds : List String) :
    Decidable (SameReadable disk disk' s name ds) :=
  inferInstanceAs (Decidable (∀ d ∈ ds, _))

/-! ## §3. Loads over several versions of the files -/

section versions

variable {vs : List FileTree} {s : Store} {name lang : String}

/-- In all versions the same files of a template can be read. -/
def Rewritten (vs : List FileTree) (s : Store) (name lang : String) : Prop :=
  ∀ v ∈ vs, ∀ w ∈ vs, SameReadable v w s name (s.chain lang).all

/-- What is unreadable in one version is unreadable in all. -/
theorem Rewritten.unreadable (h : Rewritten vs s name lang) {v w : FileTree} (hv : v ∈ vs)
    (hw : w ∈ vs) {d : String} (hd : d ∈ (s.chain lang).all) (hnone : s.fileText? v name d = none) :
    s.fileText? w name d = none := by
  have hsame := h v hv w hw d hd
  rw [hnone] at hsame
  simpa using hsame

/-- What is readable in one version is readable in all. -/
theorem Rewritten.readable (h : Rewritten vs s name lang) {v w : FileTree} (hv : v ∈ vs)
    (hw : w ∈ vs) {d body : String} (hd : d ∈ (s.chain lang).all)
    (hsome : s.fileText? v name d = some body) : ∃ text, s.fileText? w name d = some text := by
  have hsame := h v hv w hw d hd
  rw [hsome] at hsame
  exact Option.isSome_iff_exists.mp hsame

theorem Rewritten.lookup_eq_none (h : Rewritten vs s name lang) {v w : FileTree} (hv : v ∈ vs)
    (hw : w ∈ vs) {ds : List String} (hds : ∀ d ∈ ds, d ∈ (s.chain lang).all)
    (hnone : (lookup v s name ds).result = none) : (lookup w s name ds).result = none := by
  rw [Store.lookup_eq_none] at hnone ⊢
  intro d hd
  obtain ⟨hm, hc, hf⟩ := hnone d hd
  exact ⟨hm, hc, h.unreadable hv hw (hds d hd) hf⟩

theorem mem_all_of_directories {g : Group} {d : String}
    (h : d ∈ g.directories (s.chain lang)) : d ∈ (s.chain lang).all := by
  cases g with
  | requested => exact Language.mem_all.mpr (Or.inl h)
  | fallback => exact Language.mem_all.mpr (Or.inr h)

/-- A search that does not come to the files gives the same over all files. -/
theorem lookup_of_still {v : FileTree} {ds : List String} {body : String}
    (hfound : (lookup v s name ds).result = some body) (hstill : (lookup v s name ds).state = s)
    (w : FileTree) : (lookup w s name ds).result = some body ∧ (lookup w s name ds).state = s := by
  have hspec := Store.lookup_spec v s name ds
  generalize lookup v s name ds = step at hspec hfound hstill
  cases hspec with
  | registered hm =>
    obtain rfl := Option.some.inj hfound
    rw [Store.lookup_of_registered hm]
    exact ⟨rfl, rfl⟩
  | cached hm hc =>
    obtain rfl := Option.some.inj hfound
    rw [Store.lookup_of_cached hm hc]
    exact ⟨rfl, rfl⟩
  | read hm hc hf =>
    obtain ⟨hd, -⟩ := Store.firstText_eq_some hf
    exact absurd hstill (Store.keep_ne (Store.firstText_eq_none.mp hc _ hd) _)
  | missed => cases hfound

/-- **A load that leaves the store alone gives the same over all versions.** -/
theorem Rewritten.load_of_still (h : Rewritten vs s name lang) {v w : FileTree} (hv : v ∈ vs)
    (hw : w ∈ vs) (hstill : (s.load v name lang).state = s) :
    (s.load w name lang).result = (s.load v name lang).result := by
  have hrequested : ∀ d ∈ (s.chain lang).requested, d ∈ (s.chain lang).all :=
    fun d hd => Language.mem_all.mpr (Or.inl hd)
  have hfallback : ∀ d ∈ (s.chain lang).fallback, d ∈ (s.chain lang).all :=
    fun d hd => Language.mem_all.mpr (Or.inr hd)
  -- only a search that comes to the files can tell one version from another, and it keeps a text
  have hspec := Store.load_spec v s name lang
  generalize s.load v name lang = step at hspec hstill ⊢
  cases hspec with
  | refused bad => rw [Store.load_of_refused bad]
  | requested good found =>
    dsimp only at hstill
    exact (Store.load_of_requested good (lookup_of_still found hstill w).1).1
  | fellBack good missed found =>
    dsimp only at hstill
    exact (Store.load_of_fellBack good (h.lookup_eq_none hv hw hrequested missed)
      (lookup_of_still found hstill w).1).1
  | nowhere good missed missedToo =>
    exact Store.load_of_nowhere good (h.lookup_eq_none hv hw hrequested missed)
      (h.lookup_eq_none hv hw hfallback missedToo)

/-- Loads over two versions that leave the same store give the same result. -/
theorem Rewritten.result_of_state (h : Rewritten vs s name lang) {v w : FileTree} (hv : v ∈ vs)
    (hw : w ∈ vs) (hsame : (s.load w name lang).state = (s.load v name lang).state) :
    (s.load w name lang).result = (s.load v name lang).result := by
  rcases Store.load_state v s name lang with hstill | ⟨d, body, -, hresult, hfree, -, hstate⟩
  · exact h.load_of_still hv hw hstill
  · rcases Store.load_state w s name lang with hstill | ⟨e, text, -, hresult', hfree', -, hstate'⟩
    · rw [hstate, hstill] at hsame
      exact absurd hsame.symm (Store.keep_ne hfree body)
    · -- the entry that one of them makes is in the store that the other leaves
      have hentry : ((s.keep ⟨e, name⟩ text).cache.get? ⟨d, name⟩) = some body := by
        rw [← hstate', hsame, hstate, Store.get?_keep hfree, if_pos rfl]
      rw [Store.get?_keep hfree'] at hentry
      split at hentry
      · rw [hresult', hresult, Option.some.inj hentry]
      · rw [hfree] at hentry
        cases hentry

end versions

/-! ## §4. What is known of a load -/

section fits

variable (vs : List FileTree) (s : Store) (name lang : String)

/-- What a load over one of the versions gives and leaves. -/
def Landed (store : Store) (result : Except Fault String) : Prop :=
  ∃ v ∈ vs, (s.load v name lang).result = result ∧ (s.load v name lang).state = store

/-- A load comes to a group of directories only if the groups before it have nothing. -/
def Reached : Group → Prop
  | .requested => isName name = true
  | .fallback => isName name = true ∧
      ∀ v ∈ vs, (lookup v s name (s.chain lang).requested).result = none

/-- What is known of a load from where it is: the directories that are behind it held nothing, and a
load that is over has given what a load over one version gives. -/
def Fits (store : Store) : Position → Prop
  | .inMemory g left => Reached vs s name lang g ∧
      firstIn s.memory name left = firstIn s.memory name (g.directories (s.chain lang))
  | .inCache g left => Reached vs s name lang g ∧
      firstIn s.memory name (g.directories (s.chain lang)) = none ∧
      firstIn s.cache name left = firstIn s.cache name (g.directories (s.chain lang))
  | .onDisk g left => Reached vs s name lang g ∧
      firstIn s.memory name (g.directories (s.chain lang)) = none ∧
      firstIn s.cache name (g.directories (s.chain lang)) = none ∧
      left <:+ g.directories (s.chain lang) ∧
      ∀ v ∈ vs, firstText (s.fileText? v name) left
        = firstText (s.fileText? v name) (g.directories (s.chain lang))
  | .keeping d body => s.cache.get? ⟨d, name⟩ = none ∧
      (∀ v ∈ vs, ∃ text, (s.load v name lang).result = .ok text ∧
        (s.load v name lang).state = s.keep ⟨d, name⟩ text) ∧
      ∃ v ∈ vs, (s.load v name lang).result = .ok body ∧
        (s.load v name lang).state = s.keep ⟨d, name⟩ body
  | .ended result => Landed vs s name lang store result

/-- The store as it was, or as a load over one of the versions leaves it. -/
def Sound (store : Store) : Prop := store = s ∨ ∃ result, Landed vs s name lang store result

variable {vs s name lang} {store : Store}

/-- A group that a load came to decides what the load gives. -/
theorem Reached.load {g : Group} (h : Reached vs s name lang g) {v : FileTree} (hv : v ∈ vs)
    {body : String} (found : (lookup v s name (g.directories (s.chain lang))).result = some body) :
    (s.load v name lang).result = .ok body ∧
      (s.load v name lang).state = (lookup v s name (g.directories (s.chain lang))).state := by
  cases g with
  | requested => exact Store.load_of_requested h found
  | fallback => exact Store.load_of_fellBack h.1 (h.2 v hv) found

/-- If no load changes the store, then the store is as it was. -/
theorem Sound.eq_of_still (h : Sound vs s name lang store)
    (hstill : ∀ v ∈ vs, (s.load v name lang).state = s) : store = s := by
  rcases h with h | ⟨result, v, hv, -, hstate⟩
  · exact h
  · rw [← hstate, hstill v hv]

theorem Sound.sameShelf (h : Sound vs s name lang store) : Store.SameShelf s store := by
  rcases h with rfl | ⟨result, v, hv, -, hstate⟩
  · exact .refl _
  · rw [← hstate]
    have hqueried : Store.Queried v s (s.load v name lang).state := .loaded name lang
    exact hqueried.sameShelf

theorem Sound.path (h : Sound vs s name lang store) (d : String) :
    store.path d name = s.path d name :=
  Store.path_congr h.sameShelf.root d name

/-- What is cached was cached before, or is what a load over one of the versions gives. -/
theorem Sound.cached (h : Sound vs s name lang store) {key : Key} {body : String}
    (hbody : store.cache.get? key = some body) :
    s.cache.get? key = some body ∨ Landed vs s name lang store (.ok body) := by
  -- a load adds one entry at most, and that entry is what it gives
  rcases h with rfl | ⟨result, v, hv, hresult, rfl⟩
  · exact Or.inl hbody
  · rcases Store.load_state v s name lang with hstill | ⟨d, text, -, htext, hfree, -, hstate⟩
    · rw [hstill] at hbody
      exact Or.inl hbody
    · rw [hstate, Store.get?_keep hfree] at hbody
      split at hbody
      · obtain rfl := Option.some.inj hbody
        exact Or.inr ⟨v, hv, htext, rfl⟩
      · exact Or.inl hbody

/-- What is not cached was not cached before. -/
theorem Sound.uncached (h : Sound vs s name lang store) {key : Key}
    (hnone : store.cache.get? key = none) : s.cache.get? key = none := by
  rcases h with rfl | ⟨result, v, hv, hresult, rfl⟩
  · exact hnone
  · rcases Store.load_state v s name lang with hstill | ⟨d, text, -, -, hfree, -, hstate⟩
    · rw [hstill] at hnone
      exact hnone
    · rw [hstate, Store.get?_keep hfree] at hnone
      split at hnone
      · cases hnone
      · exact hnone

/-- A search that misses one directory is a search of the others. -/
theorem firstIn_of_missed {t : Table Key String} {d : String} {left ds : List String}
    (hleft : firstIn t name (d :: left) = firstIn t name ds) (hmissed : t.get? ⟨d, name⟩ = none) :
    firstIn t name left = firstIn t name ds := by
  rw [← hleft, Store.firstIn_eq, Store.firstIn_eq, Store.firstText_cons_none left hmissed]

/-! ## §5. One access -/

/-- What an access leaves of the store: nothing changes, or the first text is kept. -/
inductive Kept (vs : List FileTree) (s : Store) (name lang : String) (store : Store) : Store → Prop
  | same : Kept vs s name lang store store
  | first {after : Store} (before : store = s)
      (changes : ∀ v ∈ vs, (s.load v name lang).state ≠ s)
      (result : ∃ r, Landed vs s name lang after r) : Kept vs s name lang store after

theorem Kept.sound {after : Store} (h : Kept vs s name lang store after)
    (hstore : Sound vs s name lang store) : Sound vs s name lang after := by
  cases h with
  | same => exact hstore
  | first _ _ hresult => exact Or.inr hresult

/-- What is known of a load stays known when another one makes an access. -/
theorem Fits.stays {after : Store} {position : Position} (h : Fits vs s name lang store position)
    (hkept : Kept vs s name lang store after) : Fits vs s name lang after position := by
  cases hkept with
  | same => exact h
  | first hbefore hchanges _ =>
    cases position with
    | inMemory g left => exact h
    | inCache g left => exact h
    | onDisk g left => exact h
    | keeping d body => exact h
    | ended result =>
      -- a load that is over has left its store, and this one keeps no text
      obtain ⟨v, hv, -, hstate⟩ := h
      rw [hbefore] at hstate
      exact absurd hstate (hchanges v hv)

section access

variable {disk : FileTree}

/-- A load is over that comes to the same over all files and leaves the store as it was. -/
theorem landed_of_still {result : Except Fault String} (hdisk : disk ∈ vs)
    (hstore : Sound vs s name lang store)
    (hloads : ∀ v ∈ vs, (s.load v name lang).result = result ∧ (s.load v name lang).state = s) :
    Landed vs s name lang store result := by
  refine ⟨disk, hdisk, (hloads disk hdisk).1, ?_⟩
  rw [hstore.eq_of_still fun v hv => (hloads v hv).2]
  exact (hloads disk hdisk).2

/-- A load that comes to a text that was registered or cached before is over. -/
theorem landed_of_served {g : Group} {body : String} {es : List Event} (hdisk : disk ∈ vs)
    (hstore : Sound vs s name lang store) (hg : Reached vs s name lang g)
    (hlook : ∀ v, lookup v s name (g.directories (s.chain lang)) = ⟨some body, s, es⟩) :
    Landed vs s name lang store (.ok body) := by
  refine landed_of_still hdisk hstore fun v hv => ?_
  have hload := hg.load hv (congrArg Step.result (hlook v))
  rw [hlook] at hload
  exact hload

/-- A load that has gone through all directories is over. -/
theorem landed_of_nowhere (hdisk : disk ∈ vs) (hstore : Sound vs s name lang store)
    (hg : Reached vs s name lang .fallback)
    (hmissed : ∀ v ∈ vs, (lookup v s name (s.chain lang).fallback).result = none) :
    Landed vs s name lang store
      (.error (.notFound name (Language.orDefault lang s.defaultLang))) := by
  refine landed_of_still hdisk hstore fun v hv => ?_
  have hload := Store.load_of_nowhere hg.1 (hg.2 v hv) (hmissed v hv)
  exact ⟨hload, Store.load_state_of_error hload⟩

/-- A group of directories that holds nothing is missed. -/
theorem missed_of_unreadable {g : Group} {v : FileTree}
    (hm : firstIn s.memory name (g.directories (s.chain lang)) = none)
    (hc : firstIn s.cache name (g.directories (s.chain lang)) = none)
    (hf : firstText (s.fileText? v name) (g.directories (s.chain lang)) = none) :
    (lookup v s name (g.directories (s.chain lang))).result = none := by
  rw [Store.firstIn_eq, Store.firstText_eq_none] at hm hc
  rw [Store.firstText_eq_none] at hf
  exact Store.lookup_eq_none.mpr fun d hd => ⟨hm d hd, hc d hd, hf d hd⟩

/-- A load that has read a text is about to keep it. -/
theorem fits_keeping {g : Group} {d body : String} {left : List String}
    (h : Rewritten vs s name lang) (hdisk : disk ∈ vs)
    (hfits : Fits vs s name lang store (.onDisk g (d :: left)))
    (hread : s.fileText? disk name d = some body) :
    Fits vs s name lang store (.keeping d body) := by
  obtain ⟨hg, hm, hc, hleft, hfirst⟩ := hfits
  have hd : d ∈ g.directories (s.chain lang) := hleft.subset List.mem_cons_self
  have hkeeps : ∀ v ∈ vs, ∀ text, s.fileText? v name d = some text →
      (s.load v name lang).result = .ok text ∧
        (s.load v name lang).state = s.keep ⟨d, name⟩ text := by
    intro v hv text htext
    have hf := hfirst v hv
    rw [Store.firstText_cons_some left htext] at hf
    obtain ⟨hresult, hstate⟩ := Store.lookup_of_read hm hc hf.symm
    obtain ⟨hresult', hstate'⟩ := hg.load hv hresult
    exact ⟨hresult', hstate'.trans hstate⟩
  refine ⟨Store.firstText_eq_none.mp hc d hd, ?_, disk, hdisk, hkeeps disk hdisk body hread⟩
  intro v hv
  obtain ⟨text, htext⟩ := h.readable hdisk hv (mem_all_of_directories hd) hread
  exact ⟨text, hkeeps v hv text htext⟩

/-- A load that cannot read a file goes on with the others. -/
theorem fits_onDisk {g : Group} {d : String} {left : List String}
    (h : Rewritten vs s name lang) (hdisk : disk ∈ vs)
    (hfits : Fits vs s name lang store (.onDisk g (d :: left)))
    (hunread : s.fileText? disk name d = none) : Fits vs s name lang store (.onDisk g left) := by
  obtain ⟨hg, hm, hc, hleft, hfirst⟩ := hfits
  have hd : d ∈ g.directories (s.chain lang) := hleft.subset List.mem_cons_self
  refine ⟨hg, hm, hc, (List.suffix_cons d left).trans hleft, fun v hv => ?_⟩
  rw [← hfirst v hv, Store.firstText_cons_none left
    (h.unreadable hdisk hv (mem_all_of_directories hd) hunread)]

/-- Keeping a text that was read ends a load: the first text that is kept is the result. -/
theorem fits_ended {d body : String} (hstore : Sound vs s name lang store)
    (hfits : Fits vs s name lang store (.keeping d body)) :
    Fits vs s name lang (store.keep ⟨d, name⟩ body)
        (.ended (.ok ((store.cache.get? ⟨d, name⟩).getD body))) ∧
      Kept vs s name lang store (store.keep ⟨d, name⟩ body) := by
  obtain ⟨hfree, hkeeps, v, hv, hresult, hstate⟩ := hfits
  have hchanges : ∀ w ∈ vs, (s.load w name lang).state ≠ s := by
    intro w hw
    obtain ⟨text, -, hstate'⟩ := hkeeps w hw
    rw [hstate']
    exact Store.keep_ne hfree text
  -- every load that comes here changes the store, so a store that is as it was has no text kept
  rcases hstore with rfl | ⟨result, w, hw, -, hafter⟩
  · have hlanded : Landed vs store name lang (store.keep ⟨d, name⟩ body) (.ok body) :=
      ⟨v, hv, hresult, hstate⟩
    rw [hfree]
    exact ⟨hlanded, .first rfl hchanges ⟨_, hlanded⟩⟩
  · -- another load kept its text before
    obtain ⟨text, hresult', hstate'⟩ := hkeeps w hw
    have hentry : store.cache.get? ⟨d, name⟩ = some text := by
      rw [← hafter, hstate', Store.get?_keep hfree, if_pos rfl]
    have hsame : store.keep ⟨d, name⟩ body = store := by
      unfold Store.keep
      rw [Table.contains, hentry]
      rfl
    rw [hsame, hentry]
    exact ⟨⟨w, hw, hresult', hafter⟩, .same⟩

/-- **Step lemma**: after an access of a load the same is known of it. -/
theorem Fits.next {position : Position} (h : Rewritten vs s name lang) (hdisk : disk ∈ vs)
    (hstore : Sound vs s name lang store) (hfits : Fits vs s name lang store position) :
    Fits vs s name lang (position.next disk store name lang).2
        (position.next disk store name lang).1 ∧
      Kept vs s name lang store (position.next disk store name lang).2 := by
  have hshelf := hstore.sameShelf
  cases position with
  | inMemory g left =>
    obtain ⟨hg, hm⟩ := hfits
    cases left with
    | nil =>
      simp only [Position.next, hshelf.chain]
      exact ⟨⟨hg, hm.symm, rfl⟩, .same⟩
    | cons d left =>
      have hnext : (Position.inMemory g (d :: left)).next disk store name lang
          = match s.memory.get? ⟨d, name⟩ with
            | some body => (.ended (.ok body), store)
            | none => (.inMemory g left, store) := by
        rw [← hshelf.memory]
        rfl
      rw [hnext]
      cases hentry : s.memory.get? ⟨d, name⟩ with
      | some body =>
        rw [Store.firstIn_eq, Store.firstText_cons_some left hentry] at hm
        exact ⟨landed_of_served hdisk hstore hg fun _ => Store.lookup_of_registered hm.symm, .same⟩
      | none => exact ⟨⟨hg, firstIn_of_missed hm hentry⟩, .same⟩
  | inCache g left =>
    obtain ⟨hg, hm, hc⟩ := hfits
    cases left with
    | nil =>
      simp only [Position.next, hshelf.chain]
      exact ⟨⟨hg, hm, hc.symm, List.suffix_rfl, fun v hv => rfl⟩, .same⟩
    | cons d left =>
      have hnext : (Position.inCache g (d :: left)).next disk store name lang
          = match store.cache.get? ⟨d, name⟩ with
            | some body => (.ended (.ok body), store)
            | none => (.inCache g left, store) := rfl
      rw [hnext]
      cases hentry : store.cache.get? ⟨d, name⟩ with
      | some body =>
        -- the text was cached before, or it is the one that was kept first
        rcases hstore.cached hentry with hold | hlanded
        · rw [Store.firstIn_eq, Store.firstText_cons_some left hold] at hc
          exact ⟨landed_of_served hdisk hstore hg fun _ => Store.lookup_of_cached hm hc.symm, .same⟩
        · exact ⟨hlanded, .same⟩
      | none => exact ⟨⟨hg, hm, firstIn_of_missed hc (hstore.uncached hentry)⟩, .same⟩
  | onDisk g left =>
    cases left with
    | nil =>
      obtain ⟨hg, hm, hc, -, hfirst⟩ := hfits
      have hmissed : ∀ v ∈ vs, (lookup v s name (g.directories (s.chain lang))).result = none :=
        fun v hv => missed_of_unreadable hm hc (hfirst v hv).symm
      cases g with
      | requested =>
        simp only [Position.next, hshelf.chain]
        exact ⟨⟨⟨hg, hmissed⟩, rfl⟩, .same⟩
      | fallback =>
        simp only [Position.next, hshelf.defaultLang]
        exact ⟨landed_of_nowhere hdisk hstore hg hmissed, .same⟩
    | cons d left =>
      have hnext : (Position.onDisk g (d :: left)).next disk store name lang
          = match disk.readText (s.path d name) with
            | .ok body => (.keeping d body, store)
            | .error _ => (.onDisk g left, store) := by
        rw [← hstore.path]
        cases g <;> rfl
      rw [hnext]
      cases hread : disk.readText (s.path d name) with
      | ok body =>
        exact ⟨fits_keeping h hdisk hfits (Store.fileText?_eq_some.mpr hread), .same⟩
      | error fault =>
        have hunread : s.fileText? disk name d = none := by
          unfold Store.fileText?
          rw [hread]
          rfl
        exact ⟨fits_onDisk h hdisk hfits hunread, .same⟩
  | keeping d body => exact fits_ended hstore hfits
  | ended result => exact ⟨hfits, .same⟩

end access

/-- What is known of a load that is about to begin. -/
theorem fits_start {disk : FileTree} (hdisk : disk ∈ vs) :
    Fits vs s name lang s (.start s name lang) := by
  unfold Position.start checkName
  by_cases hname : isName name
  · rw [if_pos hname]
    exact ⟨hname, rfl⟩
  · rw [if_neg hname]
    have hload : s.load disk name lang = ⟨.error (.invalidName name), s, []⟩ :=
      Store.load_of_refused (by simpa using hname)
    exact ⟨disk, hdisk, by rw [hload], by rw [hload]⟩

end fits

/-! ## §6. All loads -/

section pool

variable {vs : List FileTree} {s : Store} {name lang : String}

omit [DecidableEq ι] in
/-- What is known of a pool: the files are as in one of the versions, the store is as it was or as
one load leaves it, and each load is where it can be. -/
structure Agreeing (vs : List FileTree) (s : Store) (name lang : String) (p : Pool ι) : Prop where
  disk : p.disk ∈ vs
  store : Sound vs s name lang p.store
  loads : ∀ i, Fits vs s name lang p.store (p.loads i)

omit [DecidableEq ι] in
theorem Agreeing.opened {disk : FileTree} (hdisk : disk ∈ vs) :
    Agreeing vs s name lang (Pool.opened s disk name lang : Pool ι) where
  disk := hdisk
  store := Or.inl rfl
  loads _ := fits_start hdisk

/-- **Step lemma**: every turn keeps what is known. -/
theorem Agreeing.turn {p : Pool ι} (h : Agreeing vs s name lang p) (hv : Rewritten vs s name lang)
    {t : Turn ι} (ht : ∀ disk, t.version? = some disk → disk ∈ vs) :
    Agreeing vs s name lang (p.turn name lang t) := by
  cases t with
  | rewritten disk => exact ⟨ht disk rfl, h.store, h.loads⟩
  | of i =>
    obtain ⟨hfits, hkept⟩ := (h.loads i).next hv h.disk h.store
    refine ⟨h.disk, hkept.sound h.store, fun j => ?_⟩
    show Fits vs s name lang _ (Function.update p.loads i _ j)
    by_cases hj : j = i
    · subst hj
      rw [Function.update_self]
      exact hfits
    · rw [Function.update_of_ne hj]
      exact (h.loads j).stays hkept

/-- **Run lemma**: every schedule keeps what is known. -/
theorem Agreeing.after {p : Pool ι} (h : Agreeing vs s name lang p) (hv : Rewritten vs s name lang)
    {schedule : List (Turn ι)} (ht : ∀ t ∈ schedule, ∀ disk, t.version? = some disk → disk ∈ vs) :
    Agreeing vs s name lang (p.after name lang schedule) := by
  induction schedule generalizing p with
  | nil => exact h
  | cons t rest ih =>
    obtain ⟨hfirst, hrest⟩ := List.forall_mem_cons.mp ht
    exact ih (h.turn hv hfirst) hrest

omit [DecidableEq ι] in
/-- **One load speaks for all**: what all loads give and leave is what a load over one version gives
and leaves. -/
theorem Agreeing.exists_version {p : Pool ι} (h : Agreeing vs s name lang p)
    (hv : Rewritten vs s name lang) :
    ∃ v ∈ vs,
      (∀ i result, p.loads i = .ended result →
        result = (s.load v name lang).result ∧ p.store = (s.load v name lang).state) ∧
      (p.store = s ∨ p.store = (s.load v name lang).state) := by
  -- any load that is over gives the version; the others leave the same store, and so give the same
  by_cases hended : ∃ i result, p.loads i = .ended result
  · obtain ⟨i, result, hi⟩ := hended
    have hfits := h.loads i
    rw [hi] at hfits
    obtain ⟨v, hmem, -, hstate⟩ := hfits
    refine ⟨v, hmem, fun j other hj => ?_, Or.inr hstate.symm⟩
    have hfits' := h.loads j
    rw [hj] at hfits'
    obtain ⟨w, hmem', hresult', hstate'⟩ := hfits'
    exact ⟨hresult'.symm.trans (hv.result_of_state hmem hmem' (hstate'.trans hstate.symm)),
      hstate.symm⟩
  · rcases h.store with hsame | ⟨result, v, hmem, -, hstate⟩
    · exact ⟨p.disk, h.disk, fun i result hi => absurd ⟨i, result, hi⟩ hended, Or.inl hsame⟩
    · exact ⟨v, hmem, fun i result hi => absurd ⟨i, result, hi⟩ hended, Or.inr hstate.symm⟩

end pool

/-! ## §7. Every load comes to its end -/

/-- How many accesses a load still makes at most when it is through with a group. -/
def Group.afterwards (c : Language.Chain) : Group → Nat
  | .requested => 3 * (c.fallback.length + 1)
  | .fallback => 0

/-- How many accesses a load still makes at most. -/
def Position.cost (c : Language.Chain) : Position → Nat
  | .inMemory g left => left.length + 1 + 2 * ((g.directories c).length + 1) + g.afterwards c
  | .inCache g left => left.length + 1 + ((g.directories c).length + 1) + g.afterwards c
  | .onDisk g left => left.length + 1 + g.afterwards c
  | .keeping _ _ => 1
  | .ended _ => 0

/-- How many turns of a schedule belong to a load. -/
def turns (i : ι) (schedule : List (Turn ι)) : Nat := schedule.countP (Turn.isOf i)

section progress

variable {name lang : String}

theorem Position.ended_of_cost {c : Language.Chain} {position : Position}
    (h : position.cost c = 0) : ∃ result, position = .ended result := by
  cases position with
  | ended result => exact ⟨result, rfl⟩
  | inMemory g left => simp [Position.cost] at h
  | inCache g left => simp [Position.cost] at h
  | onDisk g left => simp [Position.cost] at h
  | keeping d body => simp [Position.cost] at h

/-- Each access of a load leaves fewer of them. -/
theorem Position.cost_next (disk : FileTree) (s : Store) (name lang : String)
    (position : Position) :
    (position.next disk s name lang).1.cost (s.chain lang) ≤ position.cost (s.chain lang) - 1 := by
  cases position with
  | inMemory g left =>
    cases left with
    | nil => simp only [Position.next, Position.cost, List.length_nil]; omega
    | cons d left =>
      simp only [Position.next]
      split <;> simp only [Position.cost, List.length_cons] <;> omega
  | inCache g left =>
    cases left with
    | nil => simp only [Position.next, Position.cost, List.length_nil]; omega
    | cons d left =>
      simp only [Position.next]
      split <;> simp only [Position.cost, List.length_cons] <;> omega
  | onDisk g left =>
    cases left with
    | nil =>
      cases g with
      | requested =>
        simp only [Position.next, Position.cost, Group.directories, Group.afterwards,
          List.length_nil]
        omega
      | fallback => simp only [Position.next, Position.cost, Nat.zero_le]
    | cons d left =>
      simp only [Position.next]
      split <;> simp only [Position.cost, List.length_cons] <;> omega
  | keeping d body => simp only [Position.next, Position.cost, Nat.zero_le]
  | ended result => simp only [Position.next, Position.cost, Nat.zero_le]

/-- No access changes where a store looks. -/
theorem Position.next_chain (disk : FileTree) (s : Store) (name lang : String)
    (position : Position) :
    (position.next disk s name lang).2.chain lang = s.chain lang := by
  cases position with
  | inMemory g left =>
    cases left with
    | nil => rfl
    | cons d left => simp only [Position.next]; split <;> rfl
  | inCache g left =>
    cases left with
    | nil => rfl
    | cons d left => simp only [Position.next]; split <;> rfl
  | onDisk g left =>
    cases left with
    | nil => cases g <;> rfl
    | cons d left => simp only [Position.next]; split <;> rfl
  | keeping d body => exact Store.keep_chain s _ _ lang
  | ended result => rfl

theorem Pool.turn_chain (p : Pool ι) (t : Turn ι) :
    (p.turn name lang t).store.chain lang = p.store.chain lang := by
  cases t with
  | of i => exact Position.next_chain p.disk p.store name lang (p.loads i)
  | rewritten disk => rfl

/-- A turn of a load leaves it fewer accesses, and no other turn gives it more. -/
theorem Pool.cost_turn (name lang : String) (p : Pool ι) (i : ι) (t : Turn ι) :
    ((p.turn name lang t).loads i).cost (p.store.chain lang)
      ≤ (p.loads i).cost (p.store.chain lang) - turns i [t] := by
  cases t with
  | rewritten disk => exact Nat.le_refl _
  | of j =>
    show (Function.update p.loads j _ i).cost _ ≤ _
    by_cases hi : i = j
    · subst hi
      have hown : turns i [Turn.of i] = 1 := by simp [turns, Turn.isOf]
      rw [Function.update_self, hown]
      exact Position.cost_next p.disk p.store name lang (p.loads i)
    · have hother : turns i [Turn.of j] = 0 := by simp [turns, Turn.isOf, hi]
      rw [Function.update_of_ne hi, hother]
      exact Nat.le_refl _

/-- A schedule leaves a load as many accesses fewer as it has turns for it. -/
theorem Pool.cost_after (name lang : String) (p : Pool ι) (i : ι) (schedule : List (Turn ι)) :
    ((p.after name lang schedule).loads i).cost (p.store.chain lang)
      ≤ (p.loads i).cost (p.store.chain lang) - turns i schedule := by
  induction schedule generalizing p with
  | nil => exact Nat.le_refl _
  | cons t rest ih =>
    have hrest := ih (p.turn name lang t)
    rw [p.turn_chain] at hrest
    have hfirst := p.cost_turn name lang i t
    have hcount : turns i (t :: rest) = turns i [t] + turns i rest := by
      rw [turns, ← List.singleton_append, List.countP_append]
      rfl
    show (((p.turn name lang t).after name lang rest).loads i).cost _ ≤ _
    omega

/-- A load that begins makes three accesses for each directory, and three more for each group. -/
theorem Position.cost_start (s : Store) (name lang : String) :
    (Position.start s name lang).cost (s.chain lang) ≤ 3 * (s.chain lang).all.length + 6 := by
  unfold Position.start
  split
  · exact Nat.zero_le _
  · simp only [Position.cost, Group.directories, Group.afterwards, Language.Chain.all,
      List.length_append]
    omega

/-- **Every load comes to its end**, whatever the others do in between. -/
theorem Pool.ended_after (s : Store) (disk : FileTree) (name lang : String) (i : ι)
    {schedule : List (Turn ι)} (h : 3 * (s.chain lang).all.length + 6 ≤ turns i schedule) :
    ∃ result,
      ((Pool.opened s disk name lang).after name lang schedule).loads i = .ended result := by
  have hchain : (Pool.opened s disk name lang : Pool ι).store.chain lang = s.chain lang := rfl
  have hload : (Pool.opened s disk name lang : Pool ι).loads i = .start s name lang := rfl
  have hcost := Pool.cost_after name lang (Pool.opened s disk name lang) i schedule
  rw [hchain, hload] at hcost
  have hstart := Position.cost_start s name lang
  exact Position.ended_of_cost (c := s.chain lang) (by omega)

end progress

/-! ## §8. Concurrent loads agree -/

/-- **Concurrent loads agree.**  However the accesses of many loads of one template are mixed, with
changes of the files in between that leave the same files readable: one load alone, over the files
as they were at one moment, gives what each of them gives and leaves the store as they leave it.  So
all that are over have given the same, and the cache has at most one text more than before, under a
key that was free, which is the text that they gave.  A load is over after three turns of its own
for each directory and three more for each group. -/
theorem concurrent_loads_agree (s : Store) (disk : FileTree) (name lang : String)
    (schedule : List (Turn ι))
    (same : ∀ version ∈ versions disk schedule,
      SameReadable disk version s name (s.chain lang).all) :
    let now := (Pool.opened s disk name lang).after name lang schedule
    (∃ version ∈ versions disk schedule,
      let alone := s.load version name lang
      (∀ i result, now.loads i = .ended result →
        result = alone.result ∧ now.store = alone.state) ∧
      (now.store = s ∨ ∃ d body, alone.result = .ok body ∧ s.cache.get? ⟨d, name⟩ = none ∧
        now.store = { s with cache := s.cache.insert ⟨d, name⟩ body })) ∧
    (∀ i j first second, now.loads i = .ended first → now.loads j = .ended second →
      first = second) ∧
    ∀ i, 3 * (s.chain lang).all.length + 6 ≤ turns i schedule →
      ∃ result, now.loads i = .ended result := by
  have hv : Rewritten (versions disk schedule) s name lang := by
    intro v hv w hw d hd
    rw [same w hw d hd, same v hv d hd]
  have hopened : Agreeing (versions disk schedule) s name lang
      (Pool.opened s disk name lang : Pool ι) := Agreeing.opened List.mem_cons_self
  have hlisted : ∀ t ∈ schedule, ∀ version, t.version? = some version →
      version ∈ versions disk schedule := fun t ht version hversion =>
    List.mem_cons_of_mem _ (List.mem_filterMap.mpr ⟨t, ht, hversion⟩)
  have hagreeing := hopened.after hv hlisted
  obtain ⟨version, hmem, hended, hstore⟩ := hagreeing.exists_version hv
  refine ⟨⟨version, hmem, hended, ?_⟩, fun i j first second hi hj => ?_,
    fun i hi => Pool.ended_after s disk name lang i hi⟩
  · rcases hstore with hsame | hstate
    · exact Or.inl hsame
    · rcases Store.load_adds version s name lang with
        ⟨-, hstill⟩ | ⟨-, d, body, -, hresult, hfree, -, hadds⟩
      · exact Or.inl (hstate.trans hstill)
      · exact Or.inr ⟨d, body, hresult, hfree, hstate.trans hadds⟩
  · rw [(hended i first hi).1, (hended j second hj).1]

/-- An English greeting, and nothing else. -/
def greeting (text : String) : FileTree :=
  .directory [("templates", .directory [
    ("en", .directory [("welcome.xhtml", .file (.text text))])])]

/-- Two loads find nothing kept.  One reads the greeting, which is then rewritten; the other reads
it and keeps it, and only then the first one comes to keep what it read. -/
def overtaken : List (Turn Bool) :=
  List.replicate 20 (.of true) ++ [.rewritten (greeting "Good day")]
    ++ List.replicate 24 (.of false) ++ List.replicate 4 (.of true)

/-- A load that is overtaken gives what the other one kept, and not what it read itself. -/
theorem concurrent_loads_agree_overtaken :
    let s := Store.create "templates" "en"
    let now := (Pool.opened s (greeting "Hello") "welcome" "de").after "welcome" "de" overtaken
    (∀ version ∈ versions (greeting "Hello") overtaken,
      SameReadable (greeting "Hello") version s "welcome" (s.chain "de").all) ∧
    ((Pool.opened s (greeting "Hello") "welcome" "de").after "welcome" "de"
      (overtaken.take 20)).loads true = .keeping "en" "Hello" ∧
    now.loads false = .ended (.ok "Good day") ∧ now.loads true = .ended (.ok "Good day") ∧
    now.store.cache.get? ⟨"en", "welcome"⟩ = some "Good day" := by
  intro s now
  have same : ∀ version ∈ versions (greeting "Hello") overtaken,
      SameReadable (greeting "Hello") version s "welcome" (s.chain "de").all := by decide +kernel
  have first : now.loads false = .ended (.ok "Good day") := by decide +kernel
  have kept : now.store.cache.get? ⟨"en", "welcome"⟩ = some "Good day" := by decide +kernel
  have long : 3 * (s.chain "de").all.length + 6 ≤ turns true overtaken := by decide +kernel
  have agree := concurrent_loads_agree s (greeting "Hello") "welcome" "de" overtaken same
  have hnow : now = (Pool.opened s (greeting "Hello") "welcome" "de").after "welcome" "de"
    overtaken := rfl
  rw [← hnow] at agree
  clear_value now
  obtain ⟨-, hagree, hended⟩ := agree
  obtain ⟨result, hresult⟩ := hended true long
  refine ⟨same, by decide +kernel, first, ?_, kept⟩
  rw [hresult, hagree false true _ _ first hresult]

end LocalizedMail.Template
