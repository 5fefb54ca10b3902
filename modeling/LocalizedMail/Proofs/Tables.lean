import LocalizedMail.Proofs.Distinct
import Mathlib.Data.List.Induction
import Mathlib.Data.List.Nodup

/-!
# Tables and lists

A table made of a list has the last value of each key, and the order of its entries shows in no
lookup: tables with the same values have the same entries, in some order.
-/

namespace LocalizedMail

/-- The order of entries whose keys are all different shows in no lookup. -/
theorem lookup_of_perm {κ α : Type} [DecidableEq κ] {es fs : List (κ × α)} (h : fs.Perm es)
    (hnodup : (es.map Prod.fst).Nodup) (k : κ) : fs.lookup k = es.lookup k := by
  have hnodup' : (fs.map Prod.fst).Nodup := (h.map Prod.fst).nodup_iff.mpr hnodup
  cases hk : es.lookup k with
  | some v => exact lookup_of_mem hnodup' (h.mem_iff.mpr (mem_of_lookup hk))
  | none =>
    cases hk' : fs.lookup k with
    | none => rfl
    | some v =>
      have hmem := lookup_of_mem hnodup (h.mem_iff.mp (mem_of_lookup hk'))
      rw [hk] at hmem
      cases hmem

namespace Table

variable {κ α : Type} [DecidableEq κ]

/-- A table made of a list has the last value of each key. -/
theorem get?_ofList (es : List (κ × α)) (k : κ) : (ofList es).get? k = es.reverse.lookup k := by
  induction es using List.reverseRecOn with
  | nil => rfl
  | append_singleton es e ih =>
    obtain ⟨a, v⟩ := e
    rw [ofList_concat, get?_insert, ih, List.reverse_concat, List.lookup_cons]
    by_cases hk : k = a
    · simp [hk]
    · simp [hk, beq_eq_false_iff_ne.mpr hk]

/-- A table made of a list has as many entries as the list has keys. -/
theorem size_ofList (es : List (κ × α)) :
    (ofList es).size = (distinct (es.map Prod.fst)).length := by
  have hsame : (ofList es).keys.Perm (distinct (es.map Prod.fst)) := by
    refine (List.perm_ext_iff_of_nodup (ofList es).nodup (nodup_distinct _)).mpr ?_
    intro k
    rw [mem_distinct]
    exact mem_keys_ofList
  have hlength := hsame.length_eq
  unfold keys at hlength
  rw [List.length_map] at hlength
  exact hlength

/-- An entry, and a table without it. -/
theorem split_of_get? {t : Table κ α} {k : κ} {v : α} (h : t.get? k = some v) :
    ∃ before after, t.entries = before ++ (k, v) :: after ∧
      (t.erase k).entries = before ++ after := by
  obtain ⟨before, after, hsplit, -⟩ := List.lookup_eq_some_iff.mp h
  refine ⟨before, after, hsplit, ?_⟩
  have hnodup := t.nodup
  rw [hsplit, List.map_append, List.map_cons, List.nodup_middle, List.nodup_cons,
    List.mem_append] at hnodup
  have hkeep (es : List (κ × α)) (hes : k ∉ es.map Prod.fst) :
      es.filter (fun e => e.1 ≠ k) = es := by
    refine List.filter_eq_self.2 fun e he => ?_
    have hne : e.1 ≠ k := fun heq => hes (heq ▸ List.mem_map_of_mem he)
    simpa using hne
  show t.entries.filter (fun e => e.1 ≠ k) = _
  rw [hsplit, List.filter_append, hkeep before fun hmem => hnodup.1 (.inl hmem),
    List.filter_cons_of_neg (by simp), hkeep after fun hmem => hnodup.1 (.inr hmem)]

theorem perm_cons_erase {t : Table κ α} {k : κ} {v : α} (h : t.get? k = some v) :
    t.entries.Perm ((k, v) :: (t.erase k).entries) := by
  obtain ⟨before, after, hsplit, herase⟩ := split_of_get? h
  rw [hsplit, herase]
  exact List.perm_middle

theorem erase_of_get?_eq_none {t : Table κ α} {k : κ} (h : t.get? k = none) : t.erase k = t := by
  refine ext (List.filter_eq_self.2 fun e he => ?_)
  have hne : e.1 ≠ k := by
    rintro rfl
    rw [get?, lookup_of_mem t.nodup he] at h
    cases h
  simpa using hne

/-- Tables with the same values have the same entries, in some order. -/
theorem perm_of_get? {t u : Table κ α} (h : ∀ k, t.get? k = u.get? k) :
    t.entries.Perm u.entries := by
  refine (List.perm_ext_iff_of_nodup (List.Nodup.of_map _ t.nodup) (List.Nodup.of_map _ u.nodup)).2 fun e => ?_
  have hmem (t : Table κ α) : e ∈ t.entries ↔ t.get? e.1 = some e.2 :=
    ⟨lookup_of_mem t.nodup, mem_of_lookup⟩
  rw [hmem t, hmem u, h]

end Table

end LocalizedMail
