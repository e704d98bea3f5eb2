/-!
This module contains the search for the first repetition in a list.
-/

namespace Catalog

def firstRepeated? {α : Type} [DecidableEq α] (xs : List α) : Option α :=
  go [] xs
where
  go (seen : List α) : List α → Option α
    | [] => none
    | x :: xs => if x ∈ seen then some x else go (x :: seen) xs

theorem firstRepeated?.go_eq_none_iff {α : Type} [DecidableEq α] (seen xs : List α) :
    go seen xs = none ↔ xs.Nodup ∧ ∀ x ∈ xs, x ∉ seen := by
  induction xs generalizing seen with
  | nil => simp [go]
  | cons x xs ih =>
    by_cases hx : x ∈ seen
    · simp [go, hx]
    · simp only [go, hx, ↓reduceIte, ih, List.mem_cons, List.nodup_cons, not_or]
      grind

theorem firstRepeated?_eq_none_iff {α : Type} [DecidableEq α] {xs : List α} :
    firstRepeated? xs = none ↔ xs.Nodup := by
  simp [firstRepeated?, firstRepeated?.go_eq_none_iff]

end Catalog
