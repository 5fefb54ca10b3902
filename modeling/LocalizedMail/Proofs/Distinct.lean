import LocalizedMail.Table
import Mathlib.Data.List.Basic

/-!
# Lists without repetitions

`distinct` keeps the first occurrence of every item: the same items are there, each once, in the
order in which they first came.  Leaving out items and leaving out repetitions can be done in either
order.
-/

namespace LocalizedMail

variable {α : Type} [DecidableEq α]

@[simp] theorem distinct_nil : distinct ([] : List α) = [] := rfl

/-- The first item stays, and its repetitions go. -/
theorem distinct_cons (x : α) (xs : List α) :
    distinct (x :: xs) = x :: distinct (xs.filter fun y => !y == x) :=
  List.eraseDups_cons

@[simp] theorem mem_distinct {x : α} {xs : List α} : x ∈ distinct xs ↔ x ∈ xs :=
  List.mem_eraseDups

@[simp] theorem head?_distinct (xs : List α) : (distinct xs).head? = xs.head? := by
  cases xs with
  | nil => rfl
  | cons x xs => rw [distinct_cons]; rfl

theorem nodup_distinct (xs : List α) : (distinct xs).Nodup := by
  induction h : xs.length using Nat.strongRecOn generalizing xs with
  | ind n ih =>
    cases xs with
    | nil => exact List.nodup_nil
    | cons x xs =>
      rw [distinct_cons, List.nodup_cons]
      constructor
      · simp
      · have hlen : (xs.filter fun y => !y == x).length ≤ xs.length := List.length_filter_le _ _
        exact ih _ (by simp only [List.length_cons] at h; omega) _ rfl

/-- Of two items that are kept, the one that comes first is the one that came first. -/
theorem idxOf_lt_of_filter {p : α → Bool} {x y : α} (hx : p x) (hy : p y) {xs : List α}
    (h : (xs.filter p).idxOf x < (xs.filter p).idxOf y) : xs.idxOf x < xs.idxOf y := by
  induction xs with
  | nil => cases h
  | cons z xs ih =>
    by_cases hzy : z = y
    · subst hzy
      rw [List.filter_cons_of_pos hy, List.idxOf_cons_self] at h
      cases h
    · by_cases hzx : z = x
      · subst hzx
        rw [List.idxOf_cons_self, List.idxOf_cons_ne _ hzy]
        exact Nat.succ_pos _
      · rw [List.idxOf_cons_ne _ hzx, List.idxOf_cons_ne _ hzy]
        by_cases hz : p z
        · rw [List.filter_cons_of_pos hz, List.idxOf_cons_ne _ hzx, List.idxOf_cons_ne _ hzy] at h
          exact Nat.succ_lt_succ (ih (Nat.lt_of_succ_lt_succ h))
        · rw [List.filter_cons_of_neg hz] at h
          exact Nat.succ_lt_succ (ih h)

/-- The items stay in the order in which they first came. -/
theorem pairwise_idxOf_distinct (xs : List α) :
    (distinct xs).Pairwise fun x y => xs.idxOf x < xs.idxOf y := by
  induction h : xs.length using Nat.strongRecOn generalizing xs with
  | ind n ih =>
    cases xs with
    | nil => exact List.Pairwise.nil
    | cons x xs =>
      have hlen : (xs.filter fun y => !y == x).length ≤ xs.length := List.length_filter_le _ _
      have hrest := ih _ (by simp only [List.length_cons] at h; omega)
        (xs.filter fun y => !y == x) rfl
      have hne : ∀ y ∈ distinct (xs.filter fun y => !y == x), x ≠ y := by
        rintro y hy rfl
        simp at hy
      rw [distinct_cons, List.pairwise_cons]
      constructor
      · intro y hy
        rw [List.idxOf_cons_self, List.idxOf_cons_ne _ (hne y hy)]
        exact Nat.succ_pos _
      · refine hrest.imp_of_mem ?_
        intro y z hy hz hlt
        rw [List.idxOf_cons_ne _ (hne y hy), List.idxOf_cons_ne _ (hne z hz)]
        have hlt' := idxOf_lt_of_filter (by simpa using Ne.symm (hne y hy))
          (by simpa using Ne.symm (hne z hz)) hlt
        exact Nat.succ_lt_succ hlt'

/-- Items can be left out before or after their repetitions. -/
theorem filter_distinct (p : α → Bool) (xs : List α) :
    (distinct xs).filter p = distinct (xs.filter p) := by
  induction h : xs.length using Nat.strongRecOn generalizing xs with
  | ind n ih =>
    cases xs with
    | nil => rfl
    | cons x xs =>
      have hlen : (xs.filter fun y => !y == x).length ≤ xs.length := List.length_filter_le _ _
      have hrest := ih _ (by simp only [List.length_cons] at h; omega)
        (xs.filter fun y => !y == x) rfl
      rw [List.filter_filter] at hrest
      rw [distinct_cons]
      by_cases hx : p x
      · rw [List.filter_cons_of_pos hx, List.filter_cons_of_pos hx, distinct_cons, hrest,
          List.filter_filter]
        simp only [Bool.and_comm]
      · -- the repetitions of an item that is left out are left out too
        have hsame : ∀ y ∈ xs, (p y && !y == x) = p y := by
          intro y _
          by_cases hyx : y = x
          · subst hyx
            simpa using hx
          · simp [hyx]
        rw [List.filter_cons_of_neg hx, List.filter_cons_of_neg hx, hrest, List.filter_congr hsame]

end LocalizedMail
