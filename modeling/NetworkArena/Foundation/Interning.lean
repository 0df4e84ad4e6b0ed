/-
# NetworkArena.Foundation.Interning -- tables in which like things have one index

A table takes a thing in unless it has one like it already, and answers with the index of either.
Indices stay what they are while the table grows. When likeness is an equivalence, no two entries
are alike, so that two indices are the same exactly if they were given for like things.
-/
import Mathlib.Data.List.Basic
import Mathlib.Data.List.Infix
import Mathlib.Tactic.Common

namespace NetworkArena.Foundation

universe u

variable {α : Type u} (like : α → α → Prop)

/-! ## Tables -/

/-- Take a thing into a table, unless something like it is there. -/
def intern [DecidableRel like] (table : List α) (x : α) : ℕ × List α :=
  match table.findIdx? fun known => like known x with
  | some index => (index, table)
  | none => (table.length, table ++ [x])

/-- Under an index stands something like the thing. -/
def RefersTo (table : List α) (index : ℕ) (x : α) : Prop :=
  ∃ known, table[index]? = some known ∧ like known x

/-- No two entries are alike. -/
def NoTwoAlike (table : List α) : Prop := table.Pairwise fun known later => ¬ like known later

/-- What interning a thing does to a table. -/
structure Interned (table : List α) (x : α) (index : ℕ) (table' : List α) : Prop where
  grows : table <+: table'
  refers : RefersTo like table' index x
  distinct : NoTwoAlike like table → NoTwoAlike like table'
  only : ∀ known ∈ table', known ∈ table ∨ known = x
  length : table'.length ≤ table.length + 1

variable {like} {table table' : List α} {index : ℕ} {x y : α}

theorem RefersTo.lt (h : RefersTo like table index x) : index < table.length := by
  obtain ⟨known, hknown, -⟩ := h
  exact (List.getElem?_eq_some_iff.mp hknown).1

/-- An index keeps what it refers to. -/
theorem RefersTo.mono (h : RefersTo like table index x) (hgrows : table <+: table') :
    RefersTo like table' index x := by
  obtain ⟨rest, rfl⟩ := hgrows
  obtain ⟨known, hknown, hlike⟩ := h
  refine ⟨known, ?_, hlike⟩
  rw [List.getElem?_append_left (List.getElem?_eq_some_iff.mp hknown).1, hknown]

/-- The thing itself is in the table, or something like it that came first. -/
theorem intern_interned [DecidableRel like] (hrefl : ∀ x, like x x) (table : List α) (x : α) :
    Interned like table x (intern like table x).1 (intern like table x).2 := by
  unfold intern
  cases hfind : table.findIdx? fun known => like known x with
  | some index =>
      obtain ⟨hlt, hlike, -⟩ := List.findIdx?_eq_some_iff_getElem.mp hfind
      exact ⟨List.prefix_refl _, ⟨table[index], List.getElem?_eq_getElem hlt, by simpa using hlike⟩,
        id, fun known hknown => Or.inl hknown, Nat.le_succ _⟩
  | none =>
      have hnew : ∀ known ∈ table, ¬ like known x := by
        simpa [List.findIdx?_eq_none_iff] using hfind
      refine ⟨List.prefix_append _ _, ⟨x, by simp, hrefl x⟩, ?_, ?_, by simp⟩
      · intro hdistinct
        refine List.pairwise_append.mpr ⟨hdistinct, List.pairwise_singleton _ _, ?_⟩
        intro known hknown later hlater
        rw [List.mem_singleton.mp hlater]
        exact hnew known hknown
      · intro known hknown
        simpa using hknown

/-- **One index for like things**, and only for these. -/
theorem NoTwoAlike.index_eq_iff (h : NoTwoAlike like table) (hlike : Equivalence like) {i j : ℕ}
    (hi : RefersTo like table i x) (hj : RefersTo like table j y) : i = j ↔ like x y := by
  obtain ⟨known, hknown, hx⟩ := hi
  obtain ⟨known', hknown', hy⟩ := hj
  constructor
  · rintro rfl
    obtain rfl : known = known' := Option.some.inj (hknown.symm.trans hknown')
    exact hlike.trans (hlike.symm hx) hy
  · intro hxy
    have hboth : like known known' := hlike.trans hx (hlike.trans hxy (hlike.symm hy))
    obtain ⟨hlt, rfl⟩ := List.getElem?_eq_some_iff.mp hknown
    obtain ⟨hlt', rfl⟩ := List.getElem?_eq_some_iff.mp hknown'
    rcases lt_trichotomy i j with hless | heq | hmore
    · exact absurd hboth (List.pairwise_iff_getElem.mp h i j hlt hlt' hless)
    · exact heq
    · exact absurd (hlike.symm hboth) (List.pairwise_iff_getElem.mp h j i hlt' hlt hmore)

end NetworkArena.Foundation
