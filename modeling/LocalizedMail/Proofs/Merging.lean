import LocalizedMail.Settings.Environment

/-!
# Putting single values into settings

A variable holds a *single* value: a truth value, a number or a text.  A single value replaces what
it is put on, and the tables on the way to it are made where they are missing.

Two layers that differ only in one such value lead to settings that differ only at its path.  This
is said by *forgetting*: `forget p v` is `v` without the single value at the end of the path `p`, if
there is one.

  * `setAt_entry_cons`: a step of `setAt` for single values;
  * `forget_setAt`: what is put on top later does not depend on what is forgotten;
  * `forget_overlay_congr`: the same for a whole layer;
  * `forget_setAt_self`: which single value is put at the path that is forgotten does not matter.
-/

namespace LocalizedMail.Settings.Value

/-! ## §1. Single values -/

/-- Whether a value is neither empty nor made of others. -/
def isSingle : Value → Bool
  | bool _ _ | whole _ _ | float _ _ | text _ _ => true
  | nothing _ | list _ _ | table _ _ => false

theorem isSingle_ofVariable (s : String) : (ofVariable s).isSingle := by
  unfold ofVariable
  dsimp only
  split
  · rfl
  · rfl
  · split
    · rfl
    · split <;> rfl

/-! ## §2. Entries -/

theorem entries_replaceEntry (name : String) (value here : Value) :
    (replaceEntry name value here).entries
      = putEntry (Text.toLowerCase name) value here.entries := by
  cases here <;> rfl

theorem put_of_isSingle {value : Value} (h : value.isSingle) (name : String) (here : Value) :
    put name here value = replaceEntry name value here := by
  cases value with
  | table o es => cases h
  | _ => rw [put]; simp

/-- A single value is put at the end of a path in the same way at each step. -/
theorem setAt_entry_cons {value : Value} (h : value.isSingle) (name : String) (rest : List Place)
    (here : Value) :
    setAt value (.entry name :: rest) here
      = replaceEntry name (setAt value rest ((here.entry? name).getD (nothing none))) here := by
  cases rest with
  | nil => rw [setAt, setAt, put_of_isSingle h]
  | cons place rest => rw [setAt]; simp

/-- A list of entries with the value of one name changed. -/
def changeEntry (name : String) (f : Value → Value) (es : List (String × Value)) :
    List (String × Value) :=
  es.map fun e => (e.1, if e.1 = name then f e.2 else e.2)

variable {name : String} {f : Value → Value} {es : List (String × Value)}

theorem changeEntry_cons (e : String × Value) :
    changeEntry name f (e :: es)
      = (e.1, if e.1 = name then f e.2 else e.2) :: changeEntry name f es :=
  rfl

theorem lookup_changeEntry (x : String) :
    (changeEntry name f es).lookup x
      = if x = name then (es.lookup x).map f else es.lookup x := by
  induction es with
  | nil => simp [changeEntry]
  | cons e es ih =>
    rw [changeEntry_cons, List.lookup_cons, List.lookup_cons, ih]
    by_cases hx : x = e.1
    · subst hx
      simp only [BEq.rfl, Option.map_some]
      split <;> rfl
    · have hb : (x == e.1) = false := by simpa using hx
      simp only [hb]

theorem changeEntry_putEntry (key : String) (value : Value) :
    changeEntry name f (putEntry key value es)
      = putEntry key (if key = name then f value else value) (changeEntry name f es) := by
  induction es with
  | nil => rfl
  | cons e es ih =>
    by_cases hk : e.1 = key
    · subst hk
      rw [changeEntry_cons, putEntry, putEntry, if_pos rfl, if_pos rfl, changeEntry_cons]
    · rw [changeEntry_cons, putEntry, putEntry, if_neg hk, if_neg hk, changeEntry_cons, ih]

theorem changeEntry_changeEntry (h : ∀ v, f (f v) = f v) :
    changeEntry name f (changeEntry name f es) = changeEntry name f es := by
  induction es with
  | nil => rfl
  | cons e es ih =>
    rw [changeEntry_cons, changeEntry_cons, ih]
    by_cases he : e.1 = name <;> simp [he, h]

/-! ## §3. Forgetting a single value -/

/-- A value without the single value at the end of a path of names in lower case. -/
def forget : List String → Value → Value
  | [], v => if v.isSingle then text none "" else v
  | name :: path, table o es => table o (changeEntry name (forget path) es)
  | _ :: _, v => v

theorem forget_nothing (path : List String) (o : Option String) :
    forget path (nothing o) = nothing o := by
  cases path <;> simp [forget, isSingle]

theorem isSingle_forget (path : List String) (v : Value) :
    (forget path v).isSingle = v.isSingle := by
  cases path <;> cases v <;> rfl

/-- Which entries are single values does not depend on what is forgotten. -/
theorem forall_isSingle_changeEntry (path : List String) :
    (∀ e ∈ changeEntry name (forget path) es, e.2.isSingle) ↔ ∀ e ∈ es, e.2.isSingle := by
  unfold changeEntry
  rw [List.forall_mem_map]
  refine forall₂_congr fun e _ => ?_
  by_cases he : e.1 = name
  · rw [if_pos he, isSingle_forget]
  · rw [if_neg he]

theorem forget_forget (path : List String) (v : Value) :
    forget path (forget path v) = forget path v := by
  induction path generalizing v with
  | nil => cases v <;> rfl
  | cons name path ih =>
    cases v with
    | table o es => simp only [forget, changeEntry_changeEntry ih]
    | _ => rfl

/-- Items of lists are never forgotten. -/
theorem changeItem_forget (path : List String) (index : Int) (g : Value → Value) (v : Value) :
    changeItem index g (forget path v) = changeItem index g v := by
  cases path <;> cases v <;> rfl

theorem entries_forget_cons (name : String) (path : List String) (v : Value) :
    (forget (name :: path) v).entries = changeEntry name (forget path) v.entries := by
  cases v <;> rfl

theorem entry?_forget_cons (name : String) (path : List String) (v : Value) (x : String) :
    entry? (forget (name :: path) v) x
      = if Text.toLowerCase x = name then (v.entry? x).map (forget path) else v.entry? x := by
  unfold entry?
  rw [entries_forget_cons, lookup_changeEntry]

/-- A table with one more entry is forgotten entry by entry. -/
theorem forget_cons_replaceEntry (name : String) (path : List String) (x : String)
    (value v : Value) :
    forget (name :: path) (replaceEntry x value v)
      = replaceEntry x (if Text.toLowerCase x = name then forget path value else value)
          (forget (name :: path) v) := by
  cases v with
  | table o es => simp only [replaceEntry, forget, changeEntry_putEntry]
  | _ => rfl

/-- A table takes the place of a single value, whichever it was. -/
theorem replaceEntry_forget_nil (x : String) (value v : Value) :
    replaceEntry x value (forget [] v) = replaceEntry x value v ∧
      entry? (forget [] v) x = entry? v x := by
  cases v <;> exact ⟨rfl, rfl⟩

theorem forget_getD (path : List String) (v : Option Value) :
    (v.map (forget path)).getD (nothing none) = forget path (v.getD (nothing none)) := by
  cases v with
  | none => exact (forget_nothing path none).symm
  | some v => rfl

/-- What a later single value leads to does not depend on what is forgotten. -/
theorem forget_setAt {value : Value} (h : value.isSingle) (path : List String)
    (places : List Place) (v : Value) :
    forget path (setAt value places (forget path v)) = forget path (setAt value places v) := by
  -- along the path of the later value; what is left of the other path is general, because the two
  -- can run together for a while and then part
  induction places generalizing path v with
  | nil => rw [setAt, setAt]
  | cons place rest ih =>
    cases place with
    | item index => rw [setAt, setAt, changeItem_forget]
    | entry x =>
      rw [setAt_entry_cons h, setAt_entry_cons h]
      cases path with
      | nil =>
        obtain ⟨hreplace, hentry⟩ := replaceEntry_forget_nil x
          (setAt value rest ((v.entry? x).getD (nothing none))) v
        rw [hentry, hreplace]
      | cons name path =>
        rw [forget_cons_replaceEntry, forget_cons_replaceEntry, forget_forget, entry?_forget_cons]
        by_cases hx : Text.toLowerCase x = name
        · -- the later value goes into the entry of which something is forgotten
          rw [if_pos hx, if_pos hx, if_pos hx, forget_getD, ih]
        · rw [if_neg hx, if_neg hx, if_neg hx]

/-- Values that only differ in what is forgotten still do so under a layer of single values. -/
theorem forget_overlay_congr {layer : List (String × Value)} (h : ∀ e ∈ layer, e.2.isSingle)
    {path : List String} {v w : Value} (hvw : forget path v = forget path w) :
    forget path (v.overlay layer) = forget path (w.overlay layer) := by
  induction layer generalizing v w with
  | nil => exact hvw
  | cons e layer ih =>
    refine ih (fun e' he' => h e' (List.mem_cons_of_mem e he')) ?_
    have hsingle : e.2.isSingle := h e List.mem_cons_self
    calc forget path (v.setNamed e.1 e.2)
        = forget path ((forget path v).setNamed e.1 e.2) := (forget_setAt hsingle path _ v).symm
      _ = forget path ((forget path w).setNamed e.1 e.2) := by rw [hvw]
      _ = forget path (w.setNamed e.1 e.2) := forget_setAt hsingle path _ w

/-- Which single value is at the end of the path does not matter to what is left. -/
theorem forget_setAt_self {value other : Value} (hvalue : value.isSingle) (hother : other.isSingle)
    (names : List String) (v : Value) :
    forget (names.map Text.toLowerCase) (setAt value (names.map .entry) v)
      = forget (names.map Text.toLowerCase) (setAt other (names.map .entry) v) := by
  induction names generalizing v with
  | nil => simp only [List.map_nil, setAt, forget, hvalue, hother, if_true]
  | cons x names ih =>
    simp only [List.map_cons]
    rw [setAt_entry_cons hvalue, setAt_entry_cons hother, forget_cons_replaceEntry,
      forget_cons_replaceEntry, if_pos rfl, if_pos rfl, ih]

end LocalizedMail.Settings.Value
