/-
# NetworkArena.Foundation.Span -- bounds-checked spans over lists

A span is a view of contiguous memory: reading or writing outside it is undefined behaviour, which
no total function can express. Here every access returns in `Checked`, where `error` is exactly the
access that leaves the span, so "never indexes outside the buffer" is the statement that a program
returns `ok`.

The lemmas are the ones a field-by-field codec needs: a write at the end of a known prefix extends
the prefix, and a read behind a known prefix returns the element that stands there.
-/
import Mathlib.Data.List.Basic
import Mathlib.Tactic.Common

namespace NetworkArena.Foundation

universe u

variable {α β : Type u}

/-! ## Checked computations -/

/-- An access outside a span: the offending offset and the size of the span. -/
structure OutOfBounds where
  offset : ℕ
  size : ℕ
  deriving DecidableEq, Repr

/-- A computation that is undefined behaviour exactly when it returns `error`. -/
abbrev Checked (α : Type u) := Except OutOfBounds α

/-- No access of the computation leaves its span. -/
def Checked.InBounds (x : Checked α) : Prop := ∃ a, x = .ok a

@[simp]
theorem Checked.ok_bind (a : α) (f : α → Checked β) : ((.ok a : Checked α) >>= f) = f a := rfl

@[simp]
theorem Checked.pure_eq (a : α) : (pure a : Checked α) = .ok a := rfl

/-- A bind succeeds exactly when both of its parts do. -/
theorem Checked.bind_eq_ok {x : Checked α} {f : α → Checked β} {b : β} :
    (x >>= f) = .ok b ↔ ∃ a, x = .ok a ∧ f a = .ok b := by
  cases x with
  | error e => simp [bind, Except.bind]
  | ok a => simp

/-- The value of a computation that is known to stay inside its spans. -/
def Checked.get : (x : Checked α) → x.InBounds → α
  | .ok a, _ => a
  | .error _, h => False.elim (by obtain ⟨a, ha⟩ := h; cases ha)

/-- Once the result of a computation is known, so is its value. -/
theorem Checked.get_eq {x : Checked α} {a : α} (h : x = .ok a) (hin : x.InBounds) :
    x.get hin = a := by
  subst h
  rfl

/-! ## Reading and writing one element -/

namespace Span

/-- `data[offset]` as a read. -/
def readAt (data : List α) (offset : ℕ) : Checked α :=
  match data[offset]? with
  | some a => .ok a
  | none => .error ⟨offset, data.length⟩

/-- `data[offset] = value`. -/
def writeAt (data : List α) (offset : ℕ) (value : α) : Checked (List α) :=
  if offset < data.length then .ok (data.set offset value) else .error ⟨offset, data.length⟩

/-- The sub-span `[offset, offset + count)`. -/
def subspan (data : List α) (offset count : ℕ) : Checked (List α) :=
  if offset + count ≤ data.length then .ok ((data.drop offset).take count)
  else .error ⟨offset + count, data.length⟩

/-- Remove the first `count` elements. -/
def eraseFront (data : List α) (count : ℕ) : Checked (List α) :=
  if count ≤ data.length then .ok (data.drop count) else .error ⟨count, data.length⟩

theorem readAt_append (pre post : List α) (a : α) {offset : ℕ} (h : offset = pre.length) :
    readAt (pre ++ a :: post) offset = .ok a := by
  subst h
  simp [readAt]

theorem writeAt_append (pre post : List α) (old a : α) {offset : ℕ} (h : offset = pre.length) :
    writeAt (pre ++ old :: post) offset a = .ok (pre ++ a :: post) := by
  subst h
  simp [writeAt]

theorem subspan_append (pre mid post : List α) {offset count : ℕ} (ho : offset = pre.length)
    (hc : count = mid.length) : subspan (pre ++ (mid ++ post)) offset count = .ok mid := by
  subst ho hc
  simp [subspan]

theorem eraseFront_of_le {data : List α} {count : ℕ} (h : count ≤ data.length) :
    eraseFront data count = .ok (data.drop count) := if_pos h

end Span

end NetworkArena.Foundation
