/-
# NetworkArena.Foundation.Argmax -- the first of the largest elements of a list

`List.argmax` is where a register ends up that keeps an element until a larger one comes. What it
holds is the element that splits the list into smaller ones before it and none larger behind it.
From this form one reads off which elements a list can lose, gain or exchange without changing its
first largest one.
-/
import Mathlib.Data.List.MinMax
import Mathlib.Tactic.Common

namespace NetworkArena.Foundation

variable {α β : Type*} [LinearOrder β] {f : α → β} {l l' : List α} {m : α}

/-- **The first of the largest elements** has smaller ones before it, and none larger behind it. -/
theorem argmax_eq_some_iff_split : l.argmax f = some m ↔
    ∃ before after, l = before ++ m :: after ∧ (∀ a ∈ before, f a < f m) ∧
      ∀ a ∈ after, f a ≤ f m := by
  induction l using List.reverseRecOn generalizing m with
  | nil => simp
  | append_singleton l last ih =>
      rw [List.argmax_concat]
      constructor
      · intro h
        cases hmax : l.argmax f with
        | none =>
            rw [hmax] at h
            obtain rfl : last = m := Option.some.inj h
            rw [List.argmax_eq_none] at hmax
            subst hmax
            exact ⟨[], [], rfl, nofun, nofun⟩
        | some c =>
            rw [hmax] at h
            obtain ⟨before, after, rfl, hbefore, hafter⟩ := ih.mp hmax
            dsimp only at h
            split at h
            · next hlarger =>
                obtain rfl : last = m := Option.some.inj h
                refine ⟨before ++ c :: after, [], by simp, ?_, nofun⟩
                intro a ha
                rcases List.mem_append.mp ha with ha | ha
                · exact (hbefore a ha).trans hlarger
                · rcases List.mem_cons.mp ha with rfl | ha
                  · exact hlarger
                  · exact (hafter a ha).trans_lt hlarger
            · next hlarger =>
                obtain rfl : c = m := Option.some.inj h
                refine ⟨before, after ++ [last], by simp, hbefore, ?_⟩
                intro a ha
                rcases List.mem_append.mp ha with ha | ha
                · exact hafter a ha
                · rw [List.mem_singleton.mp ha]
                  exact not_lt.mp hlarger
      · rintro ⟨before, after, heq, hbefore, hafter⟩
        -- the last element is `m` itself, or it lies behind `m`
        induction after using List.reverseRecOn with
        | nil =>
            obtain ⟨rfl, hlast⟩ := List.append_inj' heq rfl
            obtain rfl : last = m := List.head_eq_of_cons_eq hlast
            cases hmax : l.argmax f with
            | none => rfl
            | some c => exact if_pos (hbefore c (List.argmax_mem hmax))
        | append_singleton after last' _ =>
            rw [← List.cons_append, ← List.append_assoc] at heq
            obtain ⟨hinit, hlast⟩ := List.append_inj' heq rfl
            obtain rfl : last = last' := List.head_eq_of_cons_eq hlast
            have hmax : l.argmax f = some m := ih.mpr ⟨before, after, hinit, hbefore,
              fun a ha => hafter a (List.mem_append_left _ ha)⟩
            rw [hmax]
            exact if_neg (not_lt.mpr (hafter last (List.mem_append_right _ List.mem_cons_self)))

/-- What is larger than the largest element is larger than all. -/
theorem argmax_lt_iff {c : β} : (∀ m ∈ l.argmax f, f m < c) ↔ ∀ a ∈ l, f a < c := by
  constructor
  · intro h a ha
    cases hmax : l.argmax f with
    | none =>
        rw [List.argmax_eq_none.mp hmax] at ha
        cases ha
    | some m => exact (List.le_of_mem_argmax ha hmax).trans_lt (h m hmax)
  · intro h m hm
    exact h m (List.argmax_mem hm)

/-- An element that all others stay below is the largest, wherever it stands and however often. -/
theorem argmax_eq_of_lt (hm : m ∈ l) (hlt : ∀ a ∈ l, a = m ∨ f a < f m) : l.argmax f = some m := by
  cases hmax : l.argmax f with
  | none =>
      rw [List.argmax_eq_none.mp hmax] at hm
      cases hm
  | some a =>
      rcases hlt a (List.argmax_mem hmax) with rfl | hless
      · rfl
      · exact absurd (List.le_of_mem_argmax hm hmax) (not_le.mpr hless)

/-- **Some larger element makes an element superfluous**, wherever either stands. -/
theorem argmax_insert {before after : List α} {a larger : α} (hlarger : larger ∈ before ++ after)
    (hlt : f a < f larger) : (before ++ a :: after).argmax f = (before ++ after).argmax f := by
  cases hmax : (before ++ after).argmax f with
  | none =>
      rw [List.argmax_eq_none.mp hmax] at hlarger
      cases hlarger
  | some m =>
      have hsmaller : f a < f m := hlt.trans_le (List.le_of_mem_argmax hlarger hmax)
      obtain ⟨front, back, heq, hfront, hback⟩ := argmax_eq_some_iff_split.mp hmax
      rw [argmax_eq_some_iff_split]
      -- it is put in before the largest element, or behind it
      rcases List.append_eq_append_iff.mp heq with ⟨gap, hgap, hafter⟩ | ⟨gap, hgap, hafter⟩
      · refine ⟨before ++ a :: gap, back, by simp [hafter], ?_, hback⟩
        intro b hb
        rcases List.mem_append.mp hb with hb | hb
        · exact hfront b (hgap ▸ List.mem_append_left _ hb)
        · rcases List.mem_cons.mp hb with rfl | hb
          · exact hsmaller
          · exact hfront b (hgap ▸ List.mem_append_right _ hb)
      · cases gap with
        | nil =>
            refine ⟨before ++ [a], back, by simp_all, ?_, hback⟩
            intro b hb
            rcases List.mem_append.mp hb with hb | hb
            · rw [hgap, List.append_nil] at hb
              exact hfront b hb
            · rw [List.mem_singleton.mp hb]
              exact hsmaller
        | cons first gap =>
            obtain ⟨rfl, rfl⟩ := List.cons_eq_cons.mp hafter
            refine ⟨front, gap ++ a :: after, by simp [hgap], hfront, ?_⟩
            intro b hb
            rcases List.mem_append.mp hb with hb | hb
            · exact hback b (List.mem_append_left _ hb)
            · rcases List.mem_cons.mp hb with rfl | hb
              · exact hsmaller.le
              · exact hback b (List.mem_append_right _ hb)

/-- **The same largest element.** If the elements of a list have different values, then a list has
the same largest element if it has all of them, and besides them only smaller ones. -/
theorem argmax_eq_of_subset (hvalues : ∀ a ∈ l, ∀ b ∈ l, f a = f b → a = b) (hsubset : l ⊆ l')
    (hothers : ∀ a ∈ l', a ∈ l ∨ ∃ larger ∈ l, f a < f larger) : l'.argmax f = l.argmax f := by
  cases hmax : l.argmax f with
  | none =>
      obtain rfl := List.argmax_eq_none.mp hmax
      rw [List.argmax_eq_none, List.eq_nil_iff_forall_not_mem]
      intro a ha
      rcases hothers a ha with hin | ⟨larger, hin, -⟩
      · cases hin
      · cases hin
  | some m =>
      apply argmax_eq_of_lt (hsubset (List.argmax_mem hmax))
      intro a ha
      rcases hothers a ha with hin | ⟨larger, hin, hlt⟩
      -- an element of the list with the value of the largest is the largest itself
      · rcases (List.le_of_mem_argmax hin hmax).eq_or_lt with heq | hlt
        · exact Or.inl (hvalues a hin m (List.argmax_mem hmax) heq)
        · exact Or.inr hlt
      · exact Or.inr (hlt.trans_le (List.le_of_mem_argmax hin hmax))

end NetworkArena.Foundation
