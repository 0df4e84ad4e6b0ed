/-
# NetworkArena.Foundation.Reordering -- what does not depend on the order of a list

A hash map is visited in an order that nobody promises, so a program that visits one should compute
the same in every order. Four ways to do that: look for the one element with a property, sort by a
key that is not shared, apply changes that commute, and collect what a symmetric function says about
every pair of elements.
-/
import Mathlib.Data.List.Sort

namespace NetworkArena.Foundation

variable {α β γ : Type} {l l' : List α}

/-! ## Looking for one element -/

/-- **Where one element at most has a property**, every order finds the same. -/
theorem find?_eq_of_perm (h : l.Perm l') {p : α → Bool}
    (hone : ∀ a ∈ l, ∀ b ∈ l, p a = true → p b = true → a = b) : l.find? p = l'.find? p := by
  cases hfound : l.find? p with
  | none =>
      have hnone := List.find?_eq_none.mp hfound
      symm
      apply List.find?_eq_none.mpr
      intro a ha
      exact hnone a (h.mem_iff.mpr ha)
  | some a =>
      have ha := List.mem_of_find?_eq_some hfound
      have hpa : p a = true := List.find?_some hfound
      cases hfound' : l'.find? p with
      | none => exact absurd hpa (List.find?_eq_none.mp hfound' a (h.mem_iff.mp ha))
      | some b =>
          have hb := h.mem_iff.mpr (List.mem_of_find?_eq_some hfound')
          rw [hone a ha b hb hpa (List.find?_some hfound')]

/-! ## Sorting -/

/-- **Where no two elements are equivalent**, every order is sorted into the same list. -/
theorem insertionSort_eq_of_perm (h : l.Perm l') (r : α → α → Prop) [DecidableRel r] [Std.Total r]
    [IsTrans α r] (hantisymm : ∀ a ∈ l, ∀ b ∈ l, r a b → r b a → a = b) :
    l.insertionSort r = l'.insertionSort r := by
  have hsame : (l.insertionSort r).Perm (l'.insertionSort r) :=
    (List.perm_insertionSort r l).trans (h.trans (List.perm_insertionSort r l').symm)
  apply hsame.eq_of_pairwise
  · intro a b ha hb
    have ha' : a ∈ l := (List.perm_insertionSort r l).mem_iff.mp ha
    have hb' : b ∈ l' := (List.perm_insertionSort r l').mem_iff.mp hb
    exact hantisymm a ha' b (h.mem_iff.mpr hb')
  · exact List.pairwise_insertionSort r l
  · exact List.pairwise_insertionSort r l'

/-! ## Changes that commute -/

/-- Apply changes one after the other. -/
def applyChanges (changes : List (α → α)) (a : α) : α := changes.foldl (fun a change => change a) a

/-- **Changes that commute** have one result. -/
theorem applyChanges_eq_of_perm {changes changes' : List (α → α)} (h : changes.Perm changes')
    (hcommute : ∀ f ∈ changes, ∀ g ∈ changes, ∀ a, g (f a) = f (g a)) (a : α) :
    applyChanges changes a = applyChanges changes' a :=
  h.foldl_eq' hcommute a

/-- Changes that keep a relation keep it together. -/
theorem applyChanges_related {R : α → α → Prop} {changes : List (α → α)}
    (hkeep : ∀ f ∈ changes, ∀ a b, R a b → R (f a) (f b)) {a b : α} (h : R a b) :
    R (applyChanges changes a) (applyChanges changes b) := by
  induction changes generalizing a b with
  | nil => exact h
  | cons f changes ih =>
      apply ih
      · intro g hg
        exact hkeep g (List.mem_cons_of_mem f hg)
      · exact hkeep f (by simp) a b h

/-! ## Pairs -/

/-- What `f` says of every pair of elements, the earlier one first. -/
def pairsWith (f : α → α → Option β) : List α → List β
  | [] => []
  | a :: l => l.filterMap (f a) ++ pairsWith f l

/-- **A symmetric function** says the same of the pairs in every order. -/
theorem pairsWith_perm (f : α → α → Option β) (hsymm : ∀ a b, f a b = f b a) (h : l.Perm l') :
    (pairsWith f l).Perm (pairsWith f l') := by
  induction h with
  | nil => exact List.Perm.refl _
  | cons a hperm ih => exact (hperm.filterMap (f a)).append ih
  | trans _ _ ih ih' => exact ih.trans ih'
  | swap a b l =>
      -- the pair of the two heads stays in front, and their rows change places
      simp only [pairsWith, List.filterMap_cons, hsymm b a]
      have hrows : (l.filterMap (f b) ++ (l.filterMap (f a) ++ pairsWith f l)).Perm
          (l.filterMap (f a) ++ (l.filterMap (f b) ++ pairsWith f l)) := by
        rw [← List.append_assoc, ← List.append_assoc]
        exact List.perm_append_comm.append_right _
      cases f a b with
      | none => exact hrows
      | some c => exact hrows.cons c

end NetworkArena.Foundation
