/-!
# Finite tables

A table holds at most one value per key and keeps its keys in the order in which they first came
in.  Registrations, caches, subject lines, default values and variables are all tables; a reader
should think of one as a partial function with a size.

  * the view is `get?`; `get?_insert`, `get?_erase`, `get?_merge` and `get?_empty` say what each
    operation does to it;
  * the order law is `keys_insert`: an old key keeps its place, a new one goes to the end.
-/

namespace LocalizedMail

/-- A list without the repetitions of earlier items. -/
def distinct {α : Type} [DecidableEq α] (xs : List α) : List α := xs.eraseDups

variable {κ α : Type} [DecidableEq κ]

/-! ## §1. Association lists -/

/-- An association list in which `k` has the value `v`; an old entry is replaced where it stands. -/
def putEntry (k : κ) (v : α) : List (κ × α) → List (κ × α)
  | [] => [(k, v)]
  | e :: es => if e.1 = k then (k, v) :: es else e :: putEntry k v es

theorem mem_keys_putEntry {k x : κ} {v : α} {es : List (κ × α)} :
    x ∈ (putEntry k v es).map Prod.fst ↔ x = k ∨ x ∈ es.map Prod.fst := by
  induction es with
  | nil => simp [putEntry]
  | cons e es ih =>
    unfold putEntry
    split
    · next h => subst h; simp
    · simp only [List.map_cons, List.mem_cons, ih]
      constructor
      · rintro (h | h | h)
        · exact Or.inr (Or.inl h)
        · exact Or.inl h
        · exact Or.inr (Or.inr h)
      · rintro (h | h | h)
        · exact Or.inr (Or.inl h)
        · exact Or.inl h
        · exact Or.inr (Or.inr h)

theorem nodup_putEntry {k : κ} {v : α} {es : List (κ × α)} (h : (es.map Prod.fst).Nodup) :
    ((putEntry k v es).map Prod.fst).Nodup := by
  induction es with
  | nil => simp [putEntry]
  | cons e es ih =>
    rw [List.map_cons, List.nodup_cons] at h
    unfold putEntry
    split
    · next hk => subst hk; rw [List.map_cons, List.nodup_cons]; exact h
    · next hk =>
      rw [List.map_cons, List.nodup_cons, mem_keys_putEntry]
      refine ⟨?_, ih h.2⟩
      rintro (he | hm)
      · exact hk he
      · exact h.1 hm

theorem mem_putEntry {k : κ} {v : α} {es : List (κ × α)} {e : κ × α} (h : e ∈ putEntry k v es) :
    e = (k, v) ∨ e ∈ es := by
  induction es with
  | nil => exact .inl (List.mem_singleton.1 h)
  | cons e' es ih =>
    unfold putEntry at h
    split at h
    · exact (List.mem_cons.1 h).imp_right (List.mem_cons_of_mem e')
    · rcases List.mem_cons.1 h with rfl | h
      · exact .inr List.mem_cons_self
      · exact (ih h).imp_right (List.mem_cons_of_mem e')

/-- Of two values for one key the later one is left. -/
theorem putEntry_putEntry (k : κ) (v u : α) (es : List (κ × α)) :
    putEntry k v (putEntry k u es) = putEntry k v es := by
  induction es with
  | nil => simp [putEntry]
  | cons e es ih =>
    by_cases he : e.1 = k
    · simp [putEntry, he]
    · simp [putEntry, he, ih]

/-- A new key goes to the end. -/
theorem putEntry_of_not_mem {k : κ} {v : α} {es : List (κ × α)} (h : k ∉ es.map Prod.fst) :
    putEntry k v es = es ++ [(k, v)] := by
  induction es with
  | nil => rfl
  | cons e es ih =>
    rw [List.map_cons, List.mem_cons, not_or] at h
    rw [putEntry, if_neg (Ne.symm h.1), ih h.2, List.cons_append]

theorem lookup_eq_none_of_not_mem {k : κ} {es : List (κ × α)} (h : k ∉ es.map Prod.fst) :
    es.lookup k = none := by
  rw [List.lookup_eq_none_iff]
  intro e he
  have hne : k ≠ e.1 := by
    rintro rfl
    exact h (List.mem_map_of_mem he)
  simpa using hne

theorem mem_of_lookup {k : κ} {v : α} {es : List (κ × α)} (h : es.lookup k = some v) :
    (k, v) ∈ es := by
  obtain ⟨before, after, rfl, -⟩ := List.lookup_eq_some_iff.mp h
  simp

/-- In a list whose keys are all different, an entry is what its key leads to. -/
theorem lookup_of_mem {es : List (κ × α)} (h : (es.map Prod.fst).Nodup) {e : κ × α}
    (he : e ∈ es) : es.lookup e.1 = some e.2 := by
  induction es with
  | nil => cases he
  | cons e' es ih =>
    obtain ⟨hnew, hrest⟩ := List.nodup_cons.1 h
    rw [List.lookup_cons]
    rcases List.mem_cons.1 he with rfl | he
    · rw [BEq.rfl]
    · have hne : (e.1 == e'.1) = false := by
        rw [beq_eq_false_iff_ne]
        rintro heq
        exact hnew (heq ▸ List.mem_map_of_mem he)
      rw [hne]
      exact ih hrest he

/-! ## §2. Tables -/

/-- A finite partial function, its keys in the order in which they came in. -/
structure Table (κ α : Type) where
  entries : List (κ × α)
  nodup : (entries.map Prod.fst).Nodup
  deriving DecidableEq

namespace Table

/-- The table without entries. -/
def empty : Table κ α := ⟨[], List.nodup_nil⟩

instance : Inhabited (Table κ α) := ⟨empty⟩

/-- The value of a key. -/
def get? (t : Table κ α) (k : κ) : Option α := t.entries.lookup k

/-- Whether a key has a value. -/
def contains (t : Table κ α) (k : κ) : Bool := (t.get? k).isSome

/-- The number of keys. -/
def size (t : Table κ α) : Nat := t.entries.length

/-- The keys, oldest first. -/
def keys (t : Table κ α) : List κ := t.entries.map Prod.fst

/-- The table in which `k` has the value `v`. -/
def insert (t : Table κ α) (k : κ) (v : α) : Table κ α :=
  ⟨putEntry k v t.entries, nodup_putEntry t.nodup⟩

/-- The table in which `k` has no value. -/
def erase (t : Table κ α) (k : κ) : Table κ α :=
  ⟨t.entries.filter (fun e => e.1 ≠ k), by
    have h : (t.entries.filter (fun e => e.1 ≠ k)).map Prod.fst
        = (t.entries.map Prod.fst).filter (fun x => x ≠ k) := by
      rw [List.filter_map]; rfl
    rw [h]
    exact t.nodup.filter _⟩

/-- The first table with the entries of the second put on top of it. -/
def merge (t u : Table κ α) : Table κ α :=
  u.entries.foldl (fun t e => t.insert e.1 e.2) t

/-- The table of a list of entries, a later one replacing an earlier one of the same key. -/
def ofList (es : List (κ × α)) : Table κ α :=
  es.foldl (fun t e => t.insert e.1 e.2) empty

/-! ## §3. What each operation does to the view -/

omit [DecidableEq κ] in
theorem ext {t u : Table κ α} (h : t.entries = u.entries) : t = u := by
  cases t; cases u; cases h; rfl

@[simp] theorem get?_empty (k : κ) : (empty : Table κ α).get? k = none := rfl

omit [DecidableEq κ] in
@[simp] theorem size_empty : (empty : Table κ α).size = 0 := rfl

theorem lookup_putEntry (k x : κ) (v : α) (es : List (κ × α)) :
    (putEntry k v es).lookup x = if x = k then some v else es.lookup x := by
  induction es with
  | nil =>
    by_cases h : x = k
    · simp [putEntry, h]
    · have hb : (x == k) = false := by simpa using h
      simp [putEntry, List.lookup_cons, h, hb]
  | cons e es ih =>
    obtain ⟨a, b⟩ := e
    unfold putEntry
    by_cases hk : a = k
    · subst hk
      by_cases hx : x = a
      · simp [hx]
      · have hb : (x == a) = false := by simpa using hx
        simp [List.lookup_cons, hx, hb]
    · by_cases hxa : x = a
      · subst hxa; simp [hk]
      · have hb : (x == a) = false := by simpa using hxa
        simp [hk, List.lookup_cons, hb, ih]

theorem get?_insert (t : Table κ α) (k x : κ) (v : α) :
    (t.insert k v).get? x = if x = k then some v else t.get? x :=
  lookup_putEntry k x v t.entries

@[simp] theorem get?_insert_self (t : Table κ α) (k : κ) (v : α) :
    (t.insert k v).get? k = some v := by
  simp [get?_insert]

theorem lookup_filter_ne (k x : κ) (es : List (κ × α)) :
    (es.filter (fun e => e.1 ≠ k)).lookup x = if x = k then none else es.lookup x := by
  induction es with
  | nil => simp
  | cons e es ih =>
    obtain ⟨a, b⟩ := e
    by_cases hk : a = k
    · subst hk
      by_cases hx : x = a
      · subst hx; simpa using ih
      · have : (x == a) = false := by simpa using hx
        simpa [List.lookup_cons, this, hx] using ih
    · by_cases hx : x = a
      · subst hx; simp [hk]
      · have : (x == a) = false := by simpa using hx
        simpa [hk, List.lookup_cons, this] using ih

theorem get?_isSome_iff {t : Table κ α} {k : κ} : (t.get? k).isSome ↔ k ∈ t.keys := by
  constructor
  · intro h
    obtain ⟨v, hv⟩ := Option.isSome_iff_exists.mp h
    exact List.mem_map_of_mem (mem_of_lookup hv)
  · intro h
    obtain ⟨e, he, rfl⟩ := List.mem_map.mp h
    exact Option.isSome_iff_exists.mpr ⟨e.2, lookup_of_mem t.nodup he⟩

theorem get?_erase (t : Table κ α) (k x : κ) :
    (t.erase k).get? x = if x = k then none else t.get? x :=
  lookup_filter_ne k x t.entries

theorem get?_foldl_insert {es : List (κ × α)} (h : (es.map Prod.fst).Nodup) (t : Table κ α)
    (k : κ) :
    (es.foldl (fun t e => t.insert e.1 e.2) t).get? k = (es.lookup k).or (t.get? k) := by
  induction es generalizing t with
  | nil => rfl
  | cons e es ih =>
    obtain ⟨a, b⟩ := e
    rw [List.map_cons, List.nodup_cons] at h
    rw [List.foldl_cons, ih h.2, get?_insert]
    by_cases hk : k = a
    · -- the key does not come again
      subst hk
      simp [lookup_eq_none_of_not_mem h.1]
    · have hb : (k == a) = false := by simpa using hk
      simp [List.lookup_cons, hk, hb]

theorem entries_insert_of_not_mem {t : Table κ α} {k : κ} (h : k ∉ t.keys) (v : α) :
    (t.insert k v).entries = t.entries ++ [(k, v)] :=
  putEntry_of_not_mem h

theorem ofList_concat (es : List (κ × α)) (k : κ) (v : α) :
    ofList (es ++ [(k, v)]) = (ofList es).insert k v := by
  unfold ofList
  rw [List.foldl_append]
  rfl

theorem mem_foldl_insert {es : List (κ × α)} {t : Table κ α} {e : κ × α}
    (h : e ∈ (es.foldl (fun t e => t.insert e.1 e.2) t).entries) : e ∈ t.entries ∨ e ∈ es := by
  induction es generalizing t with
  | nil => exact .inl h
  | cons e' es ih =>
    rcases ih h with h | h
    · rcases mem_putEntry h with rfl | h
      · exact .inr List.mem_cons_self
      · exact .inl h
    · exact .inr (List.mem_cons_of_mem e' h)

/-- A table made of a list holds nothing else. -/
theorem mem_of_mem_ofList {es : List (κ × α)} {e : κ × α} (h : e ∈ (ofList es).entries) :
    e ∈ es :=
  (mem_foldl_insert h).resolve_left List.not_mem_nil

theorem mem_keys_foldl_insert {es : List (κ × α)} {t : Table κ α} {k : κ} :
    k ∈ (es.foldl (fun t e => t.insert e.1 e.2) t).keys ↔ k ∈ t.keys ∨ k ∈ es.map Prod.fst := by
  induction es generalizing t with
  | nil => simp
  | cons e es ih =>
    rw [List.foldl_cons, ih, List.map_cons, List.mem_cons]
    show k ∈ (putEntry e.1 e.2 t.entries).map Prod.fst ∨ _ ↔ _
    rw [mem_keys_putEntry, or_assoc, or_left_comm]
    rfl

theorem mem_keys_ofList {es : List (κ × α)} {k : κ} :
    k ∈ (ofList es).keys ↔ k ∈ es.map Prod.fst := by
  unfold ofList
  rw [mem_keys_foldl_insert]
  simp [keys, empty]

/-- What is put on top of a table covers it key by key. -/
theorem get?_merge (t u : Table κ α) (k : κ) : (t.merge u).get? k = (u.get? k).or (t.get? k) :=
  get?_foldl_insert u.nodup t k

/-- An old key keeps its place, a new one goes to the end. -/
theorem keys_insert (t : Table κ α) (k : κ) (v : α) :
    (t.insert k v).keys = if k ∈ t.keys then t.keys else t.keys ++ [k] := by
  obtain ⟨es, h⟩ := t
  show (putEntry k v es).map Prod.fst
    = if k ∈ es.map Prod.fst then es.map Prod.fst else es.map Prod.fst ++ [k]
  clear h
  induction es with
  | nil => simp [putEntry]
  | cons e es ih =>
    unfold putEntry
    by_cases hk : e.1 = k
    · simp [hk]
    · have hk' : k ≠ e.1 := fun h => hk h.symm
      simp only [hk, if_false, List.map_cons, List.mem_cons, hk', false_or, ih]
      split <;> simp

end Table

end LocalizedMail
