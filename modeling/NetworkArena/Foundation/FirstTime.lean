/-
# NetworkArena.Foundation.FirstTime -- the first time something happens in a window

An event detector looks at a closed window of time and returns the first instant at which its event
happens, or nothing. `IsFirstTime` says that a result is that one. There is only one such result,
and the results of two windows that follow each other make the result of both together: a sweep
over consecutive windows that stops at the first hit finds the first time of the whole.
-/
import Mathlib.Algebra.Order.Group.Defs
import Mathlib.Algebra.Order.Sub.Basic
import Mathlib.Order.Bounds.Basic

namespace NetworkArena.Foundation

section Windows

variable {T : Type} [LinearOrder T] {P Q : T → Prop} {u v w t : T} {result result' : Option T}

/-- The instants from `u` to `w` at which `P` holds. -/
def timesIn (P : T → Prop) (u w : T) : Set T := {s | u ≤ s ∧ s ≤ w ∧ P s}

/-- A result that is the first of the instants, or nothing if there are none. -/
def IsFirstTime (P : T → Prop) (u w : T) : Option T → Prop
  | some t => IsLeast (timesIn P u w) t
  | none => timesIn P u w = ∅

theorem isFirstTime_some : IsFirstTime P u w (some t) ↔
    (u ≤ t ∧ t ≤ w ∧ P t) ∧ ∀ s, u ≤ s → s ≤ w → P s → t ≤ s := by
  constructor
  · rintro ⟨hmem, hleast⟩
    exact ⟨hmem, fun s hu hw hs => hleast ⟨hu, hw, hs⟩⟩
  · rintro ⟨hmem, hleast⟩
    exact ⟨hmem, fun s hs => hleast s hs.1 hs.2.1 hs.2.2⟩

theorem isFirstTime_none : IsFirstTime P u w none ↔ ∀ s, u ≤ s → s ≤ w → ¬ P s := by
  constructor
  · intro h s hu hw hs
    have hmem : s ∈ timesIn P u w := ⟨hu, hw, hs⟩
    rw [h] at hmem
    exact hmem
  · intro h
    apply Set.eq_empty_of_forall_notMem
    rintro s ⟨hu, hw, hs⟩
    exact h s hu hw hs

/-- **There is one result at most.** -/
theorem IsFirstTime.unique (h : IsFirstTime P u w result) (h' : IsFirstTime P u w result') :
    result = result' := by
  cases result with
  | none =>
      cases result' with
      | none => rfl
      | some t' =>
          have hmem := h'.1
          rw [h] at hmem
          exact hmem.elim
  | some t =>
      cases result' with
      | none =>
          have hmem := h.1
          rw [h'] at hmem
          exact hmem.elim
      | some t' => rw [IsLeast.unique h h']

/-- The result that is right is the one for which the right thing can be said. -/
theorem IsFirstTime.eq_some_iff (h : IsFirstTime P u w result) :
    result = some t ↔ IsLeast (timesIn P u w) t := by
  constructor
  · rintro rfl
    exact h
  · intro hleast
    exact h.unique (show IsFirstTime P u w (some t) from hleast)

theorem IsFirstTime.eq_none_iff (h : IsFirstTime P u w result) :
    result = none ↔ timesIn P u w = ∅ := by
  constructor
  · rintro rfl
    exact h
  · intro hempty
    exact h.unique (show IsFirstTime P u w none from hempty)

/-- Only what happens in the window counts. -/
theorem IsFirstTime.congr (h : IsFirstTime P u w result)
    (hiff : ∀ s, u ≤ s → s ≤ w → (P s ↔ Q s)) : IsFirstTime Q u w result := by
  have htimes : timesIn P u w = timesIn Q u w := by
    ext s
    constructor
    · rintro ⟨hu, hw, hs⟩
      exact ⟨hu, hw, (hiff s hu hw).mp hs⟩
    · rintro ⟨hu, hw, hs⟩
      exact ⟨hu, hw, (hiff s hu hw).mpr hs⟩
  cases result with
  | none =>
      show timesIn Q u w = ∅
      rw [← htimes]
      exact h
  | some t =>
      show IsLeast (timesIn Q u w) t
      rw [← htimes]
      exact h

/-- A hit in the first of two windows is the first of both. -/
theorem IsFirstTime.append_some (h : IsFirstTime P u v (some t)) (hvw : v ≤ w) :
    IsFirstTime P u w (some t) := by
  rw [isFirstTime_some] at h ⊢
  obtain ⟨⟨hu, hv, ht⟩, hleast⟩ := h
  refine ⟨⟨hu, hv.trans hvw, ht⟩, ?_⟩
  intro s hus _ hs
  by_cases hsv : s ≤ v
  · exact hleast s hus hsv hs
  · exact hv.trans (not_le.mp hsv).le

/-- Without a hit in the first window, the second decides. -/
theorem IsFirstTime.append_none (h : IsFirstTime P u v none) (huv : u ≤ v)
    (h' : IsFirstTime P v w result) : IsFirstTime P u w result := by
  rw [isFirstTime_none] at h
  -- whatever happens, happens in the second window
  have hlater : ∀ s, u ≤ s → P s → v ≤ s := by
    intro s hus hs
    by_contra hbefore
    exact h s hus (not_le.mp hbefore).le hs
  cases result with
  | none =>
      rw [isFirstTime_none] at h' ⊢
      intro s hus hsw hs
      exact h' s (hlater s hus hs) hsw hs
  | some t =>
      rw [isFirstTime_some] at h' ⊢
      obtain ⟨⟨hvt, htw, ht⟩, hleast⟩ := h'
      refine ⟨⟨huv.trans hvt, htw, ht⟩, ?_⟩
      intro s hus hsw hs
      exact hleast s (hlater s hus hs) hsw hs

end Windows

section Shift

variable {T : Type} [AddCommGroup T] [LinearOrder T] [IsOrderedAddMonoid T] {P : T → Prop}
  {u v : T} {result : Option T}

/-- A window may be looked at on a clock that starts with it. -/
theorem IsFirstTime.shift (h : IsFirstTime (fun s => P (u + s)) 0 (v - u) result) :
    IsFirstTime P u v (result.map (u + ·)) := by
  cases result with
  | none =>
      rw [isFirstTime_none] at h
      rw [Option.map_none, isFirstTime_none]
      intro s hus hsv hs
      apply h (s - u) (sub_nonneg.mpr hus) (sub_le_sub_right hsv u)
      rwa [add_sub_cancel]
  | some t =>
      rw [isFirstTime_some] at h
      rw [Option.map_some, isFirstTime_some]
      obtain ⟨⟨hnonneg, hle, ht⟩, hleast⟩ := h
      refine ⟨⟨le_add_of_nonneg_right hnonneg, le_sub_iff_add_le'.mp hle, ht⟩, ?_⟩
      intro s hus hsv hs
      rw [← le_sub_iff_add_le']
      apply hleast (s - u) (sub_nonneg.mpr hus) (sub_le_sub_right hsv u)
      rwa [add_sub_cancel]

end Shift

end NetworkArena.Foundation
