import LocalizedMail.Proofs.Merging

/-!
# What merged settings hold

Whether something is at the end of a path of names is changed by a merge in one direction only: what
is put elsewhere leaves it as it was, and what is put there makes it so.  Which value is there does
not matter, and neither does the order of what is put.

  * `has`: whether a value holds something at the end of a path;
  * `has_put_table`: a table that is merged adds what its entries add;
  * `has_setAt_of_parts`: a path that parts from another one leads elsewhere;
  * `has_overlay`: a layer adds what its entries add.
-/

namespace LocalizedMail.Settings

/-- A fold in which every step adds its part to what holds. -/
theorem foldl_adds {α β : Type} (holds : β → Prop) {adds : α → Prop} {step : β → α → β}
    {xs : List α} (h : ∀ x ∈ xs, ∀ b, holds (step b x) ↔ holds b ∨ adds x) (b : β) :
    holds (xs.foldl step b) ↔ holds b ∨ ∃ x ∈ xs, adds x := by
  induction xs generalizing b with
  | nil => simp
  | cons x xs ih =>
    rw [List.foldl_cons, ih (fun y hy => h y (List.mem_cons_of_mem x hy)), h x List.mem_cons_self,
      or_assoc]
    simp only [List.mem_cons, exists_eq_or_imp]

namespace Value

/-! ## §1. Paths of names -/

/-- Whether a value holds something at the end of a path of names in lower case. -/
def has : List String → Value → Bool
  | [], _ => true
  | name :: path, v => (v.entries.lookup name).any (has path)

theorem has_nothing {path : List String} (h : path ≠ []) (o : Option String) :
    has path (nothing o) = false := by
  cases path with
  | nil => exact absurd rfl h
  | cons name path => rfl

theorem has_emptyTable {path : List String} (h : path ≠ []) : has path emptyTable = false := by
  cases path with
  | nil => exact absurd rfl h
  | cons name path => rfl

/-- What an entry holds is what the whole holds below its name; an entry that is missing may be
taken for any value that holds nothing. -/
theorem has_getD {path : List String} {instead : Value} (h : has path instead = false)
    (name : String) (v : Value) :
    has path ((v.entry? name).getD instead) = has (Text.toLowerCase name :: path) v := by
  unfold entry?
  rw [has]
  cases v.entries.lookup (Text.toLowerCase name) with
  | none => exact h
  | some w => rfl

theorem has_replaceEntry (name : String) (path : List String) (x : String) (value v : Value) :
    has (name :: path) (replaceEntry x value v)
      = if Text.toLowerCase x = name then has path value else has (name :: path) v := by
  rw [has, has, entries_replaceEntry, Table.lookup_putEntry]
  split
  · next h => rw [if_pos h.symm]; rfl
  · next h => rw [if_neg (Ne.symm h)]

/-! ## §2. What is put under a name -/

section Put

variable {name x : String} {path : List String}

/-- What is put under one name leaves the others alone. -/
theorem has_put_of_ne (h : Text.toLowerCase x ≠ name) (value v : Value) :
    has (name :: path) (put x v value) = has (name :: path) v := by
  cases value <;> simp only [put, has_replaceEntry, if_neg h]

/-- Whatever is put under a name, something is there. -/
theorem has_put (x : String) (value v : Value) : has [Text.toLowerCase x] (put x v value) := by
  cases value <;> rw [put, has_replaceEntry, if_pos rfl, has] <;> simp

/-- Which value is put under a name does not matter to what is there. -/
theorem has_put_last (name : String) (e : String × Value) (v : Value) :
    has [name] (put e.1 v e.2) ↔ has [name] v ∨ Text.toLowerCase e.1 = name := by
  by_cases h : Text.toLowerCase e.1 = name
  · simp [← h, has_put]
  · simp [has_put_of_ne h, h]

theorem putAll_eq_foldl (v : Value) (es : List (String × Value)) :
    putAll v es = es.foldl (fun v e => put e.1 v e.2) v := by
  induction es generalizing v with
  | nil => rw [putAll, List.foldl_nil]
  | cons e es ih => rw [putAll, ih, List.foldl_cons]

/-- **A table that is merged adds what its entries add.** -/
theorem has_put_table (es : List (String × Value)) {adds : String × Value → Prop}
    (hpath : path ≠ [])
    (h : ∀ e ∈ es, ∀ v, has path (put e.1 v e.2) ↔ has path v ∨ adds e) (o : Option String)
    (x : String) (v : Value) :
    has (Text.toLowerCase x :: path) (put x v (table o es))
      ↔ has (Text.toLowerCase x :: path) v ∨ ∃ e ∈ es, adds e := by
  rw [put, has_replaceEntry, if_pos rfl, putAll_eq_foldl,
    foldl_adds (fun v => has path v) h, has_getD (has_emptyTable hpath)]

end Put

/-! ## §3. What is put at the end of a path -/

/-- Whether a path leaves a path of names at an entry of another name. -/
def PartsFrom : List Place → List String → Prop
  | .entry x :: places, name :: path => Text.toLowerCase x ≠ name ∨ PartsFrom places path
  | _, _ => False

theorem PartsFrom.ne_nil {places : List Place} {path : List String} (h : PartsFrom places path) :
    path ≠ [] := by
  rintro rfl
  cases places <;> simp [PartsFrom] at h

/-- **What is put elsewhere leaves the end of the path as it was.** -/
theorem has_setAt_of_parts {places : List Place} {path : List String} (h : PartsFrom places path)
    (value v : Value) : has path (setAt value places v) = has path v := by
  induction places generalizing path v with
  | nil => exact absurd h (by simp [PartsFrom])
  | cons place rest ih =>
    match place, path with
    | .item index, path => exact absurd h (by simp [PartsFrom])
    | .entry x, [] => exact absurd h (by simp [PartsFrom])
    | .entry x, name :: path =>
      cases rest with
      | nil =>
        rw [setAt]
        exact has_put_of_ne (h.resolve_right (by simp [PartsFrom])) value v
      | cons place rest =>
        have hset : setAt value (.entry x :: place :: rest) v = replaceEntry x
            (setAt value (place :: rest) ((v.entry? x).getD (nothing none))) v := by
          rw [setAt]
          simp
        rw [hset, has_replaceEntry]
        split
        · next hx =>
          have hrest : PartsFrom (place :: rest) path := h.resolve_left (absurd hx)
          rw [ih hrest, has_getD (has_nothing hrest.ne_nil none), hx]
        · rfl

/-- What is put at the end of the path is there. -/
theorem has_setAt_of_isSingle {value : Value} (h : value.isSingle) (names : List String)
    (v : Value) :
    has (names.map Text.toLowerCase) (setAt value (names.map .entry) v) := by
  induction names generalizing v with
  | nil => rfl
  | cons x names ih =>
    simp only [List.map_cons]
    rw [setAt_entry_cons h, has_replaceEntry, if_pos rfl]
    exact ih _

/-- A path does not part from its own names. -/
theorem not_partsFrom_self (names : List String) :
    ¬PartsFrom (names.map .entry) (names.map Text.toLowerCase) := by
  induction names with
  | nil => exact id
  | cons x names ih =>
    rintro (h | h)
    · exact h rfl
    · exact ih h

/-! ## §4. Layers -/

/-- **A layer adds what its entries add.** -/
theorem has_overlay {path : List String} {layer : List (String × Value)}
    {adds : String × Value → Prop}
    (h : ∀ e ∈ layer, ∀ v, has path (v.setNamed e.1 e.2) ↔ has path v ∨ adds e) (v : Value) :
    has path (v.overlay layer) ↔ has path v ∨ ∃ e ∈ layer, adds e :=
  foldl_adds (fun v => has path v) h v

end Value

end LocalizedMail.Settings
