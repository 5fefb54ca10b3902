import LocalizedMail.Proofs.Merging

/-!
# One value more below the others

A single value is put at the end of a path, and other single values are put on top of it.  This file
says how far the outcome can be from the one without the first value, whatever the others are and in
whatever order they come.

The two outcomes stand *beside* each other along the path: at each step they agree in all entries but
one, and that one stands beside the other again.  A value that is put on top later may end on the
path, or may ask there for the item of a list; such a value *cuts* the path, and below the cut the
two are the same.  Only where a table gives way to a list can they stay apart, if a list was there in
the first place; the relation allows that at the last step alone.

Main results:
  * `Beside.setAt`: one more value on top;
  * `Beside.overlay`: a whole layer on top;
  * `Beside.replaceEntry`: how two values come to stand beside each other.
-/

namespace LocalizedMail.Settings.Value

/-! ## §1. What is under a name -/

/-- Whether a value is a list. -/
def isList : Value → Bool
  | list _ _ => true
  | _ => false

/-- What a name in lower case leads to; it is empty if nothing is there. -/
def held (name : String) (v : Value) : Value := (v.entries.lookup name).getD (nothing none)

theorem entries_of_isList {v : Value} (h : v.isList) : v.entries = [] := by
  cases v with
  | list o vs => rfl
  | _ => cases h

theorem lookup_of_held {name : String} {v w : Value} (h : held name v = w)
    (hw : w ≠ nothing none) : v.entries.lookup name = some w := by
  unfold held at h
  cases hlookup : v.entries.lookup name with
  | none =>
    rw [hlookup] at h
    exact absurd h.symm hw
  | some u =>
    rw [hlookup] at h
    exact congrArg some h

theorem held_replaceEntry (x name : String) (value v : Value) :
    held x (replaceEntry name value v)
      = if x = Text.toLowerCase name then value else held x v := by
  unfold held
  rw [entries_replaceEntry, Table.lookup_putEntry]
  split <;> rfl

theorem isList_replaceEntry (name : String) (value v : Value) :
    (replaceEntry name value v).isList = false := by
  cases v <;> rfl

/-- A single value is put at the end of a path in the same way at each step. -/
theorem setAt_held {value : Value} (h : value.isSingle) (name : String) (rest : List Place)
    (v : Value) :
    setAt value (.entry name :: rest) v
      = replaceEntry name (setAt value rest (held (Text.toLowerCase name) v)) v :=
  setAt_entry_cons h name rest v

/-- A list, like a table without entries, gives way to a table where an entry is put. -/
theorem setAt_entry_of_isList {value : Value} (h : value.isSingle) (name : String)
    (rest : List Place) {v : Value} (hv : v = emptyTable ∨ v.isList) :
    setAt value (.entry name :: rest) v
      = table none [(Text.toLowerCase name, setAt value rest (nothing none))] := by
  rw [setAt_held h]
  rcases hv with rfl | hlist
  · rfl
  · cases v with
    | list o vs => rfl
    | _ => cases hlist

theorem isList_changeItem (index : Int) (f : Value → Value) (v : Value) :
    (changeItem index f v).isList :=
  rfl

/-- A value that is no list is as good as any other where an item is asked for. -/
theorem changeItem_congr {v w : Value} (hv : v.isList = false) (hw : w.isList = false)
    (index : Int) (f : Value → Value) : changeItem index f v = changeItem index f w := by
  cases v with
  | list o vs => cases hv
  | _ => cases w with
    | list o vs => cases hw
    | _ => rfl

/-- Where a value is put, something is. -/
theorem setAt_ne_nothing {value : Value} (h : value.isSingle) (places : List Place) (v : Value) :
    setAt value places v ≠ nothing none := by
  intro heq
  cases places with
  | nil =>
    rw [setAt] at heq
    rw [heq] at h
    cases h
  | cons place rest =>
    cases place with
    | item index =>
      rw [setAt] at heq
      exact absurd (heq ▸ isList_changeItem index _ v) (by decide)
    | entry name =>
      rw [setAt_held h] at heq
      cases v <;> cases heq

/-! ## §2. Entries but one -/

/-- A list of entries without the first one of a name. -/
def without (name : String) (es : List (String × Value)) : List (String × Value) :=
  es.eraseP fun e => e.1 = name

variable {name : String} {es : List (String × Value)}

theorem without_cons (e : String × Value) :
    without name (e :: es) = if e.1 = name then es else e :: without name es := by
  unfold without
  by_cases he : e.1 = name <;> simp [he]

theorem without_putEntry_self (value : Value) :
    without name (putEntry name value es) = without name es := by
  induction es with
  | nil => simp [putEntry, without]
  | cons e es ih =>
    unfold putEntry
    by_cases he : e.1 = name
    · rw [if_pos he, without_cons, without_cons, if_pos rfl, if_pos he]
    · rw [if_neg he, without_cons, without_cons, if_neg he, if_neg he, ih]

theorem without_putEntry_of_ne {key : String} (h : key ≠ name) (value : Value) :
    without name (putEntry key value es) = putEntry key value (without name es) := by
  induction es with
  | nil => simp [putEntry, without, h]
  | cons e es ih =>
    by_cases hkey : e.1 = key
    · have hname : e.1 ≠ name := hkey ▸ h
      rw [putEntry, if_pos hkey, without_cons, without_cons, if_neg hname, putEntry, if_pos hkey,
        if_neg h]
    · rw [putEntry, if_neg hkey, without_cons, without_cons, ih]
      by_cases hname : e.1 = name
      · rw [if_pos hname, if_pos hname]
      · rw [if_neg hname, if_neg hname, putEntry, if_neg hkey]

theorem lookup_without {x : String} (h : x ≠ name) :
    (without name es).lookup x = es.lookup x := by
  induction es with
  | nil => rfl
  | cons e es ih =>
    rw [without_cons]
    by_cases he : e.1 = name
    · have hb : (x == e.1) = false := by simpa [he] using h
      rw [if_pos he, List.lookup_cons, hb]
    · rw [if_neg he, List.lookup_cons, List.lookup_cons, ih]

theorem mem_without {e : String × Value} (h : e ∈ es) :
    e ∈ without name es ∨ es.lookup name = some e.2 := by
  induction es with
  | nil => cases h
  | cons e' es ih =>
    rw [without_cons, List.lookup_cons]
    by_cases he : e'.1 = name
    · rw [if_pos he, he, BEq.rfl]
      rcases List.mem_cons.1 h with rfl | h
      · exact .inr rfl
      · exact .inl h
    · have hb : (name == e'.1) = false := by simpa using Ne.symm he
      rw [if_neg he, hb]
      rcases List.mem_cons.1 h with rfl | h
      · exact .inl List.mem_cons_self
      · exact (ih h).imp_left (List.mem_cons_of_mem e')

/-! ## §3. Values beside each other -/

/-- Whether a value that is put at the end of some places cuts a path: it ends on the path, or asks
for the item of a list there. -/
def cuts : List Place → List String → Bool
  | [], _ => true
  | .item _ :: _, path => !path.isEmpty
  | .entry name :: rest, x :: path => Text.toLowerCase name = x && cuts rest path
  | .entry _ :: _, [] => false

/-- Two values that differ below a path: at the end of it they are related, unless the path was cut,
which may be allowed or not. -/
inductive Beside (allowed : Prop) (Related : Value → Value → Prop) :
    List String → Value → Value → Prop
  | here {v w : Value} (related : Related v w) : Beside allowed Related [] v w
  | inside {name : String} {path : List String} {v w : Value} (table : ∃ o es, w = .table o es)
      (others : without name w.entries = without name v.entries)
      (last : v.isList → path = [])
      (inner : Beside allowed Related path (held name v) (held name w)) :
      Beside allowed Related (name :: path) v w
  | lists {name : String} {v w : Value} (cut : allowed) (left : v.isList) (right : w.isList) :
      Beside allowed Related [name] v w
  | same {path : List String} {v : Value} (cut : allowed) (present : v ≠ nothing none) :
      Beside allowed Related path v v

namespace Beside

variable {allowed allowed' : Prop} {Related Related' : Value → Value → Prop} {path : List String}
  {v w : Value}

theorem imp (h : Beside allowed Related path v w) (hallowed : allowed → allowed')
    (hrelated : ∀ v w, Related v w → Related' v w) : Beside allowed' Related' path v w := by
  induction h with
  | here related => exact .here (hrelated _ _ related)
  | inside table others last _ ih => exact .inside table others last ih
  | lists cut left right => exact .lists (hallowed cut) left right
  | same cut present => exact .same (hallowed cut) present

/-- Entries of other names are the same. -/
theorem lookup (h : Beside allowed Related (name :: path) v w) {x : String} (hx : x ≠ name) :
    w.entries.lookup x = v.entries.lookup x := by
  cases h with
  | inside table others last inner => rw [← lookup_without hx, others, lookup_without hx]
  | lists cut left right => rw [entries_of_isList left, entries_of_isList right]
  | same cut present => rfl

/-- There is something on the right. -/
theorem ne_nothing (h : Beside allowed Related (name :: path) v w) : w ≠ nothing none := by
  rintro rfl
  cases h with
  | inside table others last inner =>
    obtain ⟨o, es, heq⟩ := table
    cases heq
  | lists cut left right => cases right
  | same cut present => exact present rfl

/-- Values come to stand beside each other where the right one gets an entry that stands beside what
was there. -/
theorem replaceEntry {x : String} {value : Value} (hname : Text.toLowerCase x = name)
    (hlast : v.isList → path = []) (h : Beside allowed Related path (held name v) value) :
    Beside allowed Related (name :: path) v (replaceEntry x value v) := by
  refine .inside ?_ ?_ hlast ?_
  · cases v <;> exact ⟨_, _, rfl⟩
  · rw [entries_replaceEntry, hname, without_putEntry_self]
  · rw [held_replaceEntry, if_pos hname.symm]
    exact h

section Single

variable {value : Value} (hvalue : value.isSingle)
  (stable : ∀ value : Value, value.isSingle → ∀ place rest v w, Related v w →
    Related (setAt value (place :: rest) v) (setAt value (place :: rest) w))

include hvalue stable

/-- **Step lemma**: a single value on top of both leaves them beside each other, and if it cuts the
path they are no longer related at its end. -/
theorem setAt (h : Beside allowed Related path v w) (places : List Place) :
    Beside (allowed ∨ cuts places path) (fun v w => cuts places path = false ∧ Related v w) path
      (Value.setAt value places v) (Value.setAt value places w) := by
  -- along the path; the places run with it until they leave it or cut it
  induction h generalizing places with
  | same cut present => exact .same (.inl cut) (setAt_ne_nothing hvalue places _)
  | here related =>
    cases places with
    | nil =>
      rw [Value.setAt, Value.setAt]
      exact .same (.inr rfl) (by rintro rfl; cases hvalue)
    | cons place rest =>
      have hcuts : cuts (place :: rest) [] = false := by cases place <;> rfl
      exact .here ⟨hcuts, stable value hvalue place rest _ _ related⟩
  | lists cut left right =>
    cases places with
    | nil =>
      rw [Value.setAt, Value.setAt]
      exact .same (.inl cut) (by rintro rfl; cases hvalue)
    | cons place rest =>
      cases place with
      | item index =>
        rw [Value.setAt, Value.setAt]
        exact .lists (.inl cut) (isList_changeItem index _ _) (isList_changeItem index _ _)
      | entry x =>
        -- both lists give way to the same table
        rw [setAt_entry_of_isList hvalue x rest (.inr left),
          setAt_entry_of_isList hvalue x rest (.inr right)]
        exact .same (.inl cut) (fun h => by cases h)
  | @inside name path v w table others last inner ih =>
    obtain ⟨o, es, rfl⟩ := table
    cases places with
    | nil =>
      rw [Value.setAt, Value.setAt]
      exact .same (.inr rfl) (by rintro rfl; cases hvalue)
    | cons place rest =>
      cases place with
      | item index =>
        rw [Value.setAt, Value.setAt]
        by_cases hlist : v.isList
        · obtain rfl := last hlist
          exact .lists (.inr rfl) (isList_changeItem index _ _) (isList_changeItem index _ _)
        · rw [changeItem_congr (Bool.eq_false_iff.2 hlist) (w := .table o es) rfl]
          refine .same (.inr rfl) fun h => ?_
          exact absurd (h ▸ isList_changeItem index _ _) (by decide)
      | entry x =>
        rw [setAt_held hvalue, setAt_held hvalue]
        by_cases hx : Text.toLowerCase x = name
        · have hcuts : cuts (.entry x :: rest) (name :: path) = cuts rest path := by
            simp [cuts, hx]
          rw [hcuts]
          refine .inside ⟨_, _, rfl⟩ ?_ (fun h => ?_) ?_
          · rw [entries_replaceEntry, entries_replaceEntry, hx, without_putEntry_self,
              without_putEntry_self, others]
          · rw [isList_replaceEntry] at h
            cases h
          · rw [held_replaceEntry, held_replaceEntry, if_pos hx.symm, if_pos hx.symm, hx]
            exact ih rest
        · have hcuts : cuts (.entry x :: rest) (name :: path) = false := by
            simp [cuts, hx]
          have hheld : held (Text.toLowerCase x) (.table o es) = held (Text.toLowerCase x) v := by
            unfold held
            rw [← lookup_without hx, others, lookup_without hx]
          rw [hcuts, hheld]
          refine .inside ⟨_, _, rfl⟩ ?_ (fun h => ?_) ?_
          · rw [entries_replaceEntry, entries_replaceEntry, without_putEntry_of_ne hx,
              without_putEntry_of_ne hx, others]
          · rw [isList_replaceEntry] at h
            cases h
          · rw [held_replaceEntry, held_replaceEntry, if_neg (Ne.symm hx), if_neg (Ne.symm hx)]
            exact inner.imp .inl fun _ _ h => ⟨rfl, h⟩

end Single

/-- **Run lemma**: so does a layer of single values. -/
theorem overlay {layer : List (String × Value)} (hlayer : ∀ e ∈ layer, e.2.isSingle)
    (stable : ∀ value : Value, value.isSingle → ∀ place rest v w, Related v w →
      Related (Value.setAt value (place :: rest) v) (Value.setAt value (place :: rest) w))
    (h : Beside allowed Related path v w) :
    Beside (allowed ∨ ∃ e ∈ layer, cuts (pathOf e.1) path)
      (fun v w => (∀ e ∈ layer, cuts (pathOf e.1) path = false) ∧ Related v w) path
      (v.overlay layer) (w.overlay layer) := by
  induction layer generalizing allowed Related v w with
  | nil => exact h.imp .inl fun _ _ h => ⟨List.forall_mem_nil _, h⟩
  | cons e layer ih =>
    have hstep := h.setAt (hlayer e List.mem_cons_self) stable (pathOf e.1)
    have hrun := ih (fun e' he' => hlayer e' (List.mem_cons_of_mem e he'))
      (fun value hvalue place rest v w h => ⟨h.1, stable value hvalue place rest v w h.2⟩) hstep
    refine hrun.imp ?_ fun v w h => ⟨?_, h.2.2⟩
    · rintro ((hallowed | hcut) | ⟨e', he', hcut⟩)
      · exact .inl hallowed
      · exact .inr ⟨e, List.mem_cons_self, hcut⟩
      · exact .inr ⟨e', List.mem_cons_of_mem e he', hcut⟩
    · rw [List.forall_mem_cons]
      exact ⟨h.2.1, h.1⟩

end Beside

end LocalizedMail.Settings.Value
