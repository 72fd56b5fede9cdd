import Mathlib.Tactic.Common

/-!
Reading the items of a list.

A list is read if each of its items is. So a list that was put together from
several parts is read part by part, by rewriting with what is known of single
items.

* `mapM_eq_some_iff`: what reading all items comes to;
* `mapM_eq_some_map`: reading items that each have something to be read as.
-/

namespace BitProbe

/-- Reading the items of a list one after another gives just what each of
them is read as. -/
lemma mapM_eq_some_iff {α β : Type} {read : α → Option β} {xs : List α}
    {ys : List β} : xs.mapM read = some ys ↔ xs.map read = ys.map some := by
  induction xs generalizing ys with
  | nil =>
      rw [List.mapM_nil, Option.pure_def, Option.some_inj, List.map_nil,
        eq_comm, eq_comm (a := []), List.map_eq_nil_iff]
  | cons x xs ih =>
      cases ys with
      | nil => simp [List.mapM_cons, Option.bind_eq_some_iff]
      | cons y ys => simp [List.mapM_cons, Option.bind_eq_some_iff, ih]

/-- A list is read if it is known what each of its items is read as. -/
lemma mapM_eq_some_map {α β : Type} {read : α → Option β} {f : α → β}
    {xs : List α} (h : ∀ x ∈ xs, read x = some (f x)) :
    xs.mapM read = some (xs.map f) := by
  rw [mapM_eq_some_iff, List.map_map]
  exact List.map_congr_left h

end BitProbe
