/-
# NetworkArena.Foundation.Latest -- records of the latest entries

A record with room for so many entries drops its oldest one to take in another. It then always holds
the latest entries of all that were ever put into it, in order.
-/
import Mathlib.Data.List.DropRight
import Mathlib.Tactic.Common

namespace NetworkArena.Foundation

universe u

variable {α : Type u}

/-! ## The latest entries -/

/-- Take an entry into a record that has room for `limit` of them. -/
def pushLatest (limit : ℕ) (record : List α) (entry : α) : List α :=
  (if record.length ≥ limit then record.drop 1 else record) ++ [entry]

/-- **A record of the latest entries** stays one. -/
theorem pushLatest_rtake {limit : ℕ} (h : 0 < limit) (all : List α) (entry : α) :
    pushLatest limit (all.rtake limit) entry = (all ++ [entry]).rtake limit := by
  obtain ⟨limit, rfl⟩ : ∃ k, limit = k + 1 := ⟨limit - 1, by omega⟩
  rw [List.rtake_concat_succ, pushLatest]
  congr 1
  simp only [List.rtake, List.length_drop]
  split
  · rw [List.drop_drop]
    congr 1
    omega
  · rw [show all.length - (limit + 1) = 0 by omega, show all.length - limit = 0 by omega]

/-- The latest of the latest. -/
theorem rtake_rtake {m n : ℕ} (h : m ≤ n) (all : List α) : (all.rtake n).rtake m = all.rtake m := by
  simp only [List.rtake, List.length_drop, List.drop_drop]
  congr 1
  omega

theorem map_rtake {β : Type*} (f : α → β) (all : List α) (n : ℕ) :
    (all.rtake n).map f = (all.map f).rtake n := by
  rw [List.rtake, List.rtake, List.map_drop, List.length_map]

end NetworkArena.Foundation
