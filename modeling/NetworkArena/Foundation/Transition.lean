/-
# NetworkArena.Foundation.Transition -- runs of a system driven by events

A system is a partial step function: `step s e` is the state after event `e`, or `none` when `e`
cannot happen in `s`. A run folds the step over a list of events. What one step preserves, every
run preserves (`runFrom_induction`); a property that must hold in every state on the way, not only
in the last, is the same statement about every prefix of the events (`Throughout`). A condition on
the steps of a run is said of the state before each step and of its event (`EachStep`). What the
steps bring forth on the way is collected in `outputs`.
-/
import Mathlib.Data.List.Induction
import Mathlib.Tactic.Common

namespace NetworkArena.Foundation

universe u v

variable {S : Type u} {E : Type v}

/-- The state after the events of a list, or `none` as soon as one of them cannot happen. -/
def runFrom (step : S → E → Option S) (s : S) : List E → Option S
  | [] => some s
  | e :: events => (step s e).bind fun s' => runFrom step s' events

section Runs

variable {step : S → E → Option S}

@[simp]
theorem runFrom_nil (s : S) : runFrom step s [] = some s := rfl

@[simp]
theorem runFrom_cons (s : S) (e : E) (events : List E) :
    runFrom step s (e :: events) = (step s e).bind fun s' => runFrom step s' events := rfl

theorem runFrom_append (s : S) (before after : List E) :
    runFrom step s (before ++ after) =
      (runFrom step s before).bind fun s' => runFrom step s' after := by
  induction before generalizing s with
  | nil => rfl
  | cons e before ih =>
      simp only [List.cons_append, runFrom_cons]
      cases step s e with
      | none => rfl
      | some s' => exact ih s'

theorem runFrom_concat (s : S) (events : List E) (e : E) :
    runFrom step s (events ++ [e]) = (runFrom step s events).bind fun s' => step s' e := by
  rw [runFrom_append]
  congr 1
  funext s'
  simp

/-- **The invariant rule.** What holds initially and is preserved by every step holds after every
run. -/
theorem runFrom_induction {P : S → Prop} (hstep : ∀ s e s', P s → step s e = some s' → P s')
    {s s' : S} {events : List E} (hs : P s) (hrun : runFrom step s events = some s') : P s' := by
  induction events generalizing s with
  | nil =>
      cases hrun
      exact hs
  | cons e events ih =>
      rw [runFrom_cons, Option.bind_eq_some_iff] at hrun
      obtain ⟨s₁, hone, hrest⟩ := hrun
      exact ih (hstep s e s₁ hs hone) hrest

/-- The invariant rule for a property of the state and of the events that led to it. -/
theorem runFrom_induction_events {P : List E → S → Prop} {s₀ : S} (hs : P [] s₀)
    (hstep : ∀ events s e s', P events s → step s e = some s' → P (events ++ [e]) s')
    {events : List E} {s : S} (hrun : runFrom step s₀ events = some s) : P events s := by
  induction events using List.reverseRecOn generalizing s with
  | nil =>
      cases hrun
      exact hs
  | append_singleton events e ih =>
      rw [runFrom_concat, Option.bind_eq_some_iff] at hrun
      obtain ⟨s₁, hfirst, hlast⟩ := hrun
      exact hstep events s₁ e s (ih hfirst) hlast

/-- **The measure rule.** If every step of one kind lowers a measure by one and no other step
changes it, a run has as many steps of this kind as the measure has come down. -/
theorem runFrom_countP {I : S → Prop} (measure : S → ℕ) {p : E → Bool}
    (hstep : ∀ s e s', I s → step s e = some s' →
      I s' ∧ measure s' + (if p e then 1 else 0) = measure s)
    {s s' : S} {events : List E} (hs : I s) (hrun : runFrom step s events = some s') :
    I s' ∧ measure s' + events.countP p = measure s := by
  induction events generalizing s with
  | nil =>
      cases hrun
      exact ⟨hs, rfl⟩
  | cons e events ih =>
      rw [runFrom_cons, Option.bind_eq_some_iff] at hrun
      obtain ⟨s₁, hone, hrest⟩ := hrun
      obtain ⟨hs₁, hfirst⟩ := hstep s e s₁ hs hone
      obtain ⟨hs', hlast⟩ := ih hs₁ hrest
      rw [List.countP_cons]
      exact ⟨hs', by omega⟩

end Runs

/-! ## What the steps of a run bring forth -/

section Outputs

variable {A : Type*}

/-- What the steps of a run bring forth, one after the other. -/
def outputs (step : S → E → Option S) (out : S → E → List A) (s : S) : List E → List A
  | [] => []
  | e :: events => out s e ++ (step s e).elim [] fun s' => outputs step out s' events

end Outputs

/-! ## Every state, every step -/

section Along

variable (step : S → E → Option S)

/-- The states a run goes through all have a property. -/
def Throughout (P : S → Prop) (s : S) (events : List E) : Prop :=
  ∀ before s', before <+: events → runFrom step s before = some s' → P s'

/-- The steps of a run are all taken under a condition. -/
def EachStep (C : S → E → Prop) (s : S) (events : List E) : Prop :=
  ∀ before e s₁ s₂, before ++ [e] <+: events → runFrom step s before = some s₁ →
    step s₁ e = some s₂ → C s₁ e

variable {step} {P : S → Prop} {C : S → E → Prop} {s : S} {e : E} {events : List E}

theorem throughout_nil : Throughout step P s [] ↔ P s := by
  constructor
  · intro h
    exact h [] s (List.prefix_refl _) rfl
  · intro hs before s' hbefore hrun
    rw [List.prefix_nil] at hbefore
    subst hbefore
    cases hrun
    exact hs

theorem throughout_cons : Throughout step P s (e :: events) ↔
    P s ∧ ∀ s', step s e = some s' → Throughout step P s' events := by
  constructor
  · intro h
    refine ⟨h [] s List.nil_prefix rfl, fun s' hstep before s'' hbefore hrun => ?_⟩
    refine h (e :: before) s'' (List.cons_prefix_cons.mpr ⟨rfl, hbefore⟩) ?_
    rw [runFrom_cons, hstep]
    exact hrun
  · rintro ⟨hs, h⟩ before s'' hbefore hrun
    cases before with
    | nil =>
        cases hrun
        exact hs
    | cons first before =>
        obtain ⟨rfl, hrest⟩ := List.cons_prefix_cons.mp hbefore
        rw [runFrom_cons, Option.bind_eq_some_iff] at hrun
        obtain ⟨s', hstep, hrun⟩ := hrun
        exact h s' hstep before s'' hrest hrun

theorem eachStep_nil : EachStep step C s [] := by
  intro before e _ _ hbefore
  rw [List.prefix_nil] at hbefore
  simp at hbefore

theorem eachStep_cons : EachStep step C s (e :: events) ↔
    ∀ s', step s e = some s' → C s e ∧ EachStep step C s' events := by
  constructor
  · intro h s' hstep
    refine ⟨h [] e s s' (List.cons_prefix_cons.mpr ⟨rfl, List.nil_prefix⟩) rfl hstep, ?_⟩
    intro before e' s₁ s₂ hbefore hrun hnext
    refine h (e :: before) e' s₁ s₂ (List.cons_prefix_cons.mpr ⟨rfl, hbefore⟩) ?_ hnext
    rw [runFrom_cons, hstep]
    exact hrun
  · intro h before e' s₁ s₂ hbefore hrun hnext
    cases before with
    | nil =>
        obtain ⟨rfl, -⟩ := List.cons_prefix_cons.mp hbefore
        cases hrun
        exact (h s₂ hnext).1
    | cons first before =>
        obtain ⟨rfl, hrest⟩ := List.cons_prefix_cons.mp hbefore
        rw [runFrom_cons, Option.bind_eq_some_iff] at hrun
        obtain ⟨s', hstep, hrun⟩ := hrun
        exact (h s' hstep).2 before e' s₁ s₂ hrest hrun hnext

instance EachStep.decidable [∀ s e, Decidable (C s e)] :
    (events : List E) → (s : S) → Decidable (EachStep step C s events)
  | [], _ => isTrue eachStep_nil
  | e :: events, s =>
    match hstep : step s e with
    | none => isTrue (eachStep_cons.mpr fun s' hsome => by rw [hstep] at hsome; cases hsome)
    | some s' =>
      have := EachStep.decidable events s'
      decidable_of_iff (C s e ∧ EachStep step C s' events) <| by
        rw [eachStep_cons]
        exact ⟨fun h s'' hsome => by rw [hstep] at hsome; cases hsome; exact h, fun h => h s' hstep⟩

/-- **The invariant rule under a condition on steps.** -/
theorem EachStep.throughout {I : S → Prop} (h : EachStep step C s events) (hP : ∀ s, I s → P s)
    (hkeeps : ∀ s e s', I s → step s e = some s' → C s e → I s') (hs : I s) :
    Throughout step P s events := by
  induction events generalizing s with
  | nil => exact throughout_nil.mpr (hP s hs)
  | cons e events ih =>
      refine throughout_cons.mpr ⟨hP s hs, fun s' hstep => ?_⟩
      obtain ⟨hC, hlater⟩ := eachStep_cons.mp h s' hstep
      exact ih hlater (hkeeps s e s' hs hstep hC)

/-- **A property of states against a condition on steps.** An invariant implies the property; a step
under the condition keeps the invariant, and a step against it loses the property. Then the runs
that never lose the property are those whose steps all meet the condition. -/
theorem throughout_iff_eachStep {I : S → Prop} (hP : ∀ s, I s → P s)
    (hkeeps : ∀ s e s', I s → step s e = some s' → C s e → I s')
    (hbreaks : ∀ s e s', I s → step s e = some s' → ¬ C s e → ¬ P s') (hs : I s) :
    Throughout step P s events ↔ EachStep step C s events := by
  refine ⟨fun h => ?_, fun h => h.throughout hP hkeeps hs⟩
  induction events generalizing s with
  | nil => exact eachStep_nil
  | cons e events ih =>
      rw [eachStep_cons]
      intro s' hstep
      have hlater := (throughout_cons.mp h).2 s' hstep
      have hC : C s e := by
        by_contra hC
        exact hbreaks s e s' hs hstep hC (hlater [] s' List.nil_prefix rfl)
      exact ⟨hC, ih (hkeeps s e s' hs hstep hC) hlater⟩

end Along

end NetworkArena.Foundation
