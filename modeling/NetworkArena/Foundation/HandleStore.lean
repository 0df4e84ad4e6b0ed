/-
# NetworkArena.Foundation.HandleStore -- stores that give out handles

A store takes things in and answers with a handle for each, under which the thing is found until it
is taken out again. Whoever keeps a handle for longer relies on two facts (`NeverAliases`): no
handle is given out twice, and a handle finds the thing it was given out for or nothing.

Both follow from what single calls do (`Issues`). Handles are numbered, and the store knows a number
above all it has given out; whatever it accepts gets a handle from there on. So a handle that is new
is known to nobody, and one that is known stays what it was (`Issues.find_later`).
-/
import Mathlib.Data.List.Basic
import Mathlib.Data.List.Induction
import Mathlib.Tactic.Common

namespace NetworkArena.Foundation

variable {S η α : Type*}

/-! ## Stores -/

/-- The operations of a store with states `S`, handles `η` and things `α`. What is put in may be
missing; a store answers with an invalid handle if it refuses. -/
structure HandleStore (S η α : Type*) where
  start : S
  isValid : η → Bool
  add : S → Option α → η × S
  remove : S → η → S
  clear : S → S
  find : S → η → Option α

/-- The calls that change a store. -/
inductive StoreCall (η α : Type*) where
  | add (thing : Option α)
  | remove (handle : η)
  | clear
  deriving DecidableEq, Repr

namespace HandleStore

section Runs

variable (store : HandleStore S η α)

def step (s : S) : StoreCall η α → S
  | .add thing => (store.add s thing).2
  | .remove handle => store.remove s handle
  | .clear => store.clear s

def runFrom (s : S) (calls : List (StoreCall η α)) : S := calls.foldl store.step s

def run (calls : List (StoreCall η α)) : S := store.runFrom store.start calls

/-- The handle a call returns, if it is one of `add`. -/
def reply (s : S) : StoreCall η α → List η
  | .add thing => [(store.add s thing).1]
  | _ => []

def returnedFrom (s : S) : List (StoreCall η α) → List η
  | [] => []
  | call :: calls => store.reply s call ++ returnedFrom (store.step s call) calls

/-- The handles that were returned, invalid ones as well. -/
def returned (calls : List (StoreCall η α)) : List η := store.returnedFrom store.start calls

/-- **What is in the store under a handle**: the handle was returned for it, and since then neither
this handle has been removed nor everything been cleared. -/
def Holds (calls : List (StoreCall η α)) (handle : η) (thing : α) : Prop :=
  ∃ before after, calls = before ++ .add (some thing) :: after ∧
    (store.add (store.run before) (some thing)).1 = handle ∧
    .remove handle ∉ after ∧ .clear ∉ after

/-- **Handles never alias**: no valid one is returned twice, a handle finds exactly what is in the
store under it, and one that has been returned finds nothing newer later on. -/
structure NeverAliases : Prop where
  distinct : ∀ calls, ((store.returned calls).filter store.isValid).Nodup
  find_iff : ∀ calls handle thing, store.find (store.run calls) handle = some thing ↔
    store.isValid handle = true ∧ store.Holds calls handle thing
  find_later : ∀ before after, ∀ handle ∈ store.returned before,
    store.find (store.run (before ++ after)) handle = store.find (store.run before) handle ∨
      store.find (store.run (before ++ after)) handle = none

end Runs

variable {store : HandleStore S η α} {s : S} {call : StoreCall η α}
  {calls : List (StoreCall η α)} {handle : η} {thing : α}

theorem runFrom_concat :
    store.runFrom s (calls ++ [call]) = store.step (store.runFrom s calls) call :=
  List.foldl_concat ..

theorem runFrom_append {later : List (StoreCall η α)} :
    store.runFrom s (calls ++ later) = store.runFrom (store.runFrom s calls) later :=
  List.foldl_append

theorem returnedFrom_concat : store.returnedFrom s (calls ++ [call]) =
    store.returnedFrom s calls ++ store.reply (store.runFrom s calls) call := by
  induction calls generalizing s with
  | nil => exact List.append_nil _
  | cons first calls ih =>
      rw [List.cons_append, returnedFrom, returnedFrom, ih, List.append_assoc]
      rfl

theorem returned_add {offered : Option α} : store.returned (calls ++ [.add offered]) =
    store.returned calls ++ [(store.add (store.run calls) offered).1] :=
  returnedFrom_concat

theorem returned_remove {removed : η} :
    store.returned (calls ++ [.remove removed]) = store.returned calls :=
  returnedFrom_concat.trans (List.append_nil _)

theorem returned_clear : store.returned (calls ++ [.clear]) = store.returned calls :=
  returnedFrom_concat.trans (List.append_nil _)

theorem Holds.returned (h : store.Holds calls handle thing) : handle ∈ store.returned calls := by
  obtain ⟨before, after, rfl, rfl, -, -⟩ := h
  induction after using List.reverseRecOn with
  | nil =>
      rw [returned_add]
      exact List.mem_append_right _ (List.mem_singleton_self _)
  | append_singleton after last ih =>
      rw [← List.cons_append, ← List.append_assoc, HandleStore.returned, returnedFrom_concat]
      exact List.mem_append_left _ ih

/-- A call at the end comes behind the one that a handle was returned for, or is that call. -/
theorem holds_concat : store.Holds (calls ++ [call]) handle thing ↔
    store.Holds calls handle thing ∧ call ≠ .remove handle ∧ call ≠ .clear ∨
      call = .add (some thing) ∧ (store.add (store.run calls) (some thing)).1 = handle := by
  constructor
  · rintro ⟨before, after, heq, hreturned, hremoved, hcleared⟩
    induction after using List.reverseRecOn with
    | nil =>
        obtain ⟨rfl, hcall⟩ := List.append_inj' heq rfl
        exact Or.inr ⟨List.head_eq_of_cons_eq hcall, hreturned⟩
    | append_singleton after last _ =>
        rw [← List.cons_append, ← List.append_assoc] at heq
        obtain ⟨hcalls, hcall⟩ := List.append_inj' heq rfl
        obtain rfl : call = last := List.head_eq_of_cons_eq hcall
        rw [List.mem_append, List.mem_singleton, not_or] at hremoved hcleared
        exact Or.inl ⟨⟨before, after, hcalls, hreturned, hremoved.1, hcleared.1⟩,
          Ne.symm hremoved.2, Ne.symm hcleared.2⟩
  · rintro (⟨⟨before, after, rfl, hreturned, hremoved, hcleared⟩, hremove, hclear⟩ | ⟨rfl, hadd⟩)
    · refine ⟨before, after ++ [call], by simp, hreturned, ?_, ?_⟩
      · rw [List.mem_append, List.mem_singleton, not_or]
        exact ⟨hremoved, hremove.symm⟩
      · rw [List.mem_append, List.mem_singleton, not_or]
        exact ⟨hcleared, hclear.symm⟩
    · exact ⟨calls, [], rfl, hadd, nofun, nofun⟩

theorem holds_add {offered : Option α} : store.Holds (calls ++ [.add offered]) handle thing ↔
    store.Holds calls handle thing ∨
      offered = some thing ∧ (store.add (store.run calls) (some thing)).1 = handle := by
  simp [holds_concat]

theorem holds_remove {removed : η} : store.Holds (calls ++ [.remove removed]) handle thing ↔
    store.Holds calls handle thing ∧ handle ≠ removed := by
  simp [holds_concat, eq_comm]

theorem not_holds_clear : ¬ store.Holds (calls ++ [.clear]) handle thing := by
  simp [holds_concat]

/-- A handle finds the same thing whenever it finds anything. -/
theorem NeverAliases.find_same (h : store.NeverAliases) {before after : List (StoreCall η α)}
    {again : α} (hfound : store.find (store.run before) handle = some thing)
    (hagain : store.find (store.run (before ++ after)) handle = some again) : again = thing := by
  obtain ⟨-, hholds⟩ := (h.find_iff before handle thing).mp hfound
  have hlater := h.find_later before after handle hholds.returned
  rw [hfound, hagain] at hlater
  rcases hlater with hsame | hnone
  · exact Option.some_inj.mp hsame
  · cases hnone

/-! ## Numbered handles -/

variable [DecidableEq η] {number : η → ℕ} {issued : S → ℕ}

/-- What `add` may do: it refuses and nothing changes, or it gives out a number from the bound
on. -/
inductive Adds (store : HandleStore S η α) (number : η → ℕ) (issued : S → ℕ) (s : S)
    (offered : Option α) (handle : η) (s' : S) : Prop where
  | refused (hinvalid : store.isValid handle = false)
      (hfind : ∀ other, store.find s' other = store.find s other) (hissued : issued s' = issued s)
  | accepted {thing : α} (hoffered : offered = some thing) (hvalid : store.isValid handle = true)
      (hfrom : issued s ≤ number handle) (hbelow : number handle < issued s')
      (hfind : ∀ other, store.find s' other =
        if other = handle then some thing else store.find s other)

/-- **A store that issues numbers**, one call at a time. -/
structure Issues (store : HandleStore S η α) (number : η → ℕ) (issued : S → ℕ) : Prop where
  start : ∀ handle, store.find store.start handle = none
  add : ∀ s offered,
    store.Adds number issued s offered (store.add s offered).1 (store.add s offered).2
  remove : ∀ s removed, issued (store.remove s removed) = issued s ∧
    ∀ other, store.find (store.remove s removed) other =
      if other = removed then none else store.find s other
  clear : ∀ s, issued (store.clear s) = issued s ∧
    ∀ other, store.find (store.clear s) other = none

section Issues

variable (h : store.Issues number issued)
include h

/-- No call takes a number back. -/
theorem Issues.issued_step (s : S) (call : StoreCall η α) :
    issued s ≤ issued (store.step s call) := by
  cases call with
  | add offered =>
      show issued s ≤ issued (store.add s offered).2
      rcases h.add s offered with ⟨-, -, hissued⟩ | ⟨-, -, hfrom, hbelow, -⟩
      · omega
      · omega
  | remove removed => exact Nat.le_of_eq (h.remove s removed).1.symm
  | clear => exact Nat.le_of_eq (h.clear s).1.symm

/-- A number that is taken stays taken. -/
theorem Issues.returned_lt : ∀ handle ∈ store.returned calls, store.isValid handle = true →
    number handle < issued (store.run calls) := by
  induction calls using List.reverseRecOn with
  | nil => nofun
  | append_singleton calls call ih =>
      intro handle hreturned hvalid
      have hle := h.issued_step (store.run calls) call
      rw [run, runFrom_concat]
      rw [returned, returnedFrom_concat] at hreturned
      rcases List.mem_append.mp hreturned with hbefore | hnew
      · exact Nat.lt_of_lt_of_le (ih handle hbefore hvalid) hle
      · -- only `add` returns a handle, and a valid one only if it accepts
        cases call with
        | add offered =>
            obtain rfl := List.mem_singleton.mp hnew
            rcases h.add (store.run calls) offered with ⟨hinvalid, -, -⟩ | ⟨-, -, -, hbelow, -⟩
            · exact absurd (hvalid.symm.trans hinvalid) (by simp)
            · exact hbelow
        | remove removed => cases hnew
        | clear => cases hnew

/-- **The numbers increase.** -/
theorem Issues.returned_increasing : ((store.returned calls).filter store.isValid).Pairwise
    fun earlier later => number earlier < number later := by
  induction calls using List.reverseRecOn with
  | nil => exact List.Pairwise.nil
  | append_singleton calls call ih =>
      cases call with
      | add offered =>
          rw [returned_add, List.filter_append, List.pairwise_append]
          refine ⟨ih, ?_, ?_⟩
          · exact List.Pairwise.sublist List.filter_sublist (List.pairwise_singleton _ _)
          · intro earlier hearlier later hlater
            obtain ⟨hbefore, hvalid⟩ := List.mem_filter.mp hearlier
            obtain ⟨hin, hvalid'⟩ := List.mem_filter.mp hlater
            obtain rfl := List.mem_singleton.mp hin
            have htaken := h.returned_lt earlier hbefore hvalid
            rcases h.add (store.run calls) offered with ⟨hinvalid, -, -⟩ | ⟨-, -, hfrom, -, -⟩
            · exact absurd (hvalid'.symm.trans hinvalid) (by simp)
            · exact Nat.lt_of_lt_of_le htaken hfrom
      | remove removed =>
          rw [returned_remove]
          exact ih
      | clear =>
          rw [returned_clear]
          exact ih

/-- **A handle finds what is in the store under it.** -/
theorem Issues.find_iff : store.find (store.run calls) handle = some thing ↔
    store.isValid handle = true ∧ store.Holds calls handle thing := by
  induction calls using List.reverseRecOn generalizing thing with
  | nil =>
      rw [run, runFrom, List.foldl_nil, h.start]
      constructor
      · nofun
      · rintro ⟨-, before, after, heq, -⟩
        simp at heq
  | append_singleton calls call ih =>
      rw [run, runFrom_concat]
      cases call with
      | add offered =>
          show store.find (store.add (store.run calls) offered).2 handle = some thing ↔ _
          rw [holds_add]
          rcases h.add (store.run calls) offered with
            ⟨hinvalid, hfind, -⟩ | ⟨hoffered, hvalid, hfrom, -, hfind⟩
          · rw [hfind, ih]
            constructor
            · rintro ⟨hvalid, hholds⟩
              exact ⟨hvalid, Or.inl hholds⟩
            · rintro ⟨hvalid, hholds | ⟨rfl, rfl⟩⟩
              · exact ⟨hvalid, hholds⟩
              · -- it was refused, so the handle is not valid
                rw [hvalid] at hinvalid
                cases hinvalid
          · rw [hfind]
            by_cases hnew : handle = (store.add (store.run calls) offered).1
            · subst hnew hoffered
              rw [if_pos rfl]
              constructor
              · intro heq
                cases heq
                exact ⟨hvalid, Or.inr ⟨rfl, rfl⟩⟩
              · rintro ⟨-, hholds | ⟨heq, -⟩⟩
                · -- the number is new, and what was in the store had an older one
                  have htaken := h.returned_lt _ hholds.returned hvalid
                  omega
                · exact heq
            · rw [if_neg hnew, ih]
              constructor
              · rintro ⟨hvalid, hholds⟩
                exact ⟨hvalid, Or.inl hholds⟩
              · rintro ⟨hvalid, hholds | ⟨rfl, hadd⟩⟩
                · exact ⟨hvalid, hholds⟩
                · exact absurd hadd.symm hnew
      | remove removed =>
          show store.find (store.remove (store.run calls) removed) handle = some thing ↔ _
          rw [(h.remove _ removed).2, holds_remove]
          by_cases hsame : handle = removed
          · simp [hsame]
          · rw [if_neg hsame, ih]
            simp [hsame]
      | clear =>
          show store.find (store.clear (store.run calls)) handle = some thing ↔ _
          rw [(h.clear _).2]
          simp [not_holds_clear]

/-- One call leaves what a handle finds, or takes it out, unless the number is new. -/
theorem Issues.find_step {s : S} (htaken : number handle < issued s) (call : StoreCall η α) :
    store.find (store.step s call) handle = store.find s handle ∨
      store.find (store.step s call) handle = none := by
  cases call with
  | add offered =>
      left
      show store.find (store.add s offered).2 handle = _
      rcases h.add s offered with ⟨-, hfind, -⟩ | ⟨-, -, hfrom, -, hfind⟩
      · exact hfind handle
      · rw [hfind, if_neg]
        rintro rfl
        omega
  | remove removed =>
      show store.find (store.remove s removed) handle = _ ∨
        store.find (store.remove s removed) handle = _
      rw [(h.remove s removed).2]
      by_cases hsame : handle = removed
      · exact Or.inr (if_pos hsame)
      · exact Or.inl (if_neg hsame)
  | clear => exact Or.inr ((h.clear s).2 handle)

/-- **A handle that has been given out never finds anything newer**: whatever calls follow, it finds
what it found, or nothing. -/
theorem Issues.find_later {s : S} (htaken : number handle < issued s)
    (calls : List (StoreCall η α)) :
    store.find (store.runFrom s calls) handle = store.find s handle ∨
      store.find (store.runFrom s calls) handle = none := by
  induction calls generalizing s with
  | nil => exact Or.inl rfl
  | cons call calls ih =>
      show store.find (store.runFrom (store.step s call) calls) handle = _ ∨
        store.find (store.runFrom (store.step s call) calls) handle = _
      have hstill := Nat.lt_of_lt_of_le htaken (h.issued_step s call)
      rcases ih hstill with hsame | hnone
      · rw [hsame]
        exact h.find_step htaken call
      · exact Or.inr hnone

/-- **A store that issues numbers never aliases its handles.** -/
theorem Issues.neverAliases : store.NeverAliases where
  distinct calls := by
    refine h.returned_increasing.imp ?_
    intro earlier later hless heq
    rw [heq] at hless
    exact Nat.lt_irrefl _ hless
  find_iff _ _ _ := h.find_iff
  find_later before after handle hreturned := by
    by_cases hvalid : store.isValid handle = true
    · rw [run, runFrom_append]
      exact h.find_later (h.returned_lt handle hreturned hvalid) after
    · -- an invalid handle never finds anything
      refine Or.inr (Option.eq_none_iff_forall_ne_some.mpr fun thing hfound => ?_)
      exact hvalid (h.find_iff.mp hfound).1

end Issues

/-! ## Stores that only grow -/

/-- A state that some history of calls leads to. -/
def Reached (store : HandleStore S η α) (s : S) : Prop := ∃ calls, s = store.run calls

/-- Whatever was found is still found. -/
structure Grows (store : HandleStore S η α) (s s' : S) : Prop where
  reached : store.Reached s → store.Reached s'
  kept : store.Reached s → ∀ handle thing, store.find s handle = some thing →
    store.find s' handle = some thing

omit [DecidableEq η] in
theorem Grows.refl (s : S) : store.Grows s s := ⟨id, fun _ _ _ => id⟩

omit [DecidableEq η] in
theorem Grows.trans {s s' s'' : S} (h : store.Grows s s') (h' : store.Grows s' s'') :
    store.Grows s s'' :=
  ⟨fun hreached => h'.reached (h.reached hreached), fun hreached handle thing hfound =>
    h'.kept (h.reached hreached) handle thing (h.kept hreached handle thing hfound)⟩

omit [DecidableEq η] in
theorem Reached.clear (h : store.Reached s) : store.Reached (store.clear s) := by
  obtain ⟨calls, rfl⟩ := h
  exact ⟨calls ++ [.clear], by rw [run, run, runFrom_concat]; rfl⟩

/-- What is found stays when something is taken in. -/
theorem Issues.grows_add (h : store.Issues number issued) (s : S) (offered : Option α) :
    store.Grows s (store.add s offered).2 := by
  have hrun : ∀ calls, (store.add (store.run calls) offered).2 =
      store.run (calls ++ [.add offered]) := by
    intro calls
    rw [run, run, runFrom_concat]
    rfl
  constructor
  · rintro ⟨calls, rfl⟩
    exact ⟨_, hrun calls⟩
  · rintro ⟨calls, rfl⟩ handle thing hfound
    obtain ⟨hvalid, hholds⟩ := h.find_iff.mp hfound
    rw [hrun]
    exact h.find_iff.mpr ⟨hvalid, holds_add.mpr (Or.inl hholds)⟩

/-- A thing that was taken in is found under its handle. -/
theorem Issues.find_added (h : store.Issues number issued) {offered : Option α}
    (hvalid : store.isValid (store.add s offered).1 = true) :
    offered.isSome = true ∧
      store.find (store.add s offered).2 (store.add s offered).1 = offered := by
  rcases h.add s offered with ⟨hinvalid, -, -⟩ | ⟨hoffered, -, -, -, hfind⟩
  · rw [hvalid] at hinvalid
    cases hinvalid
  · subst hoffered
    refine ⟨rfl, ?_⟩
    rw [hfind, if_pos rfl]

end HandleStore

end NetworkArena.Foundation
