/-
# NetworkArena.Foundation.ByteChannel -- a queue of buffers in front of a byte pipe

A sender keeps a queue of whole buffers and starts one asynchronous write at a time, always of the
front of the queue. A write hands its bytes to the pipe little by little; the receiver takes them
out of the pipe in pieces of its own choice.

`SingleWriter queue writes remaining` says that the sender is in order: there is a write in
progress exactly while the queue is not empty, it is the write of the front, and `remaining` are the
bytes the sender still has to hand on. Each step of a sender keeps this (`start`, `enqueue`,
`transfer`, `complete`).
-/
import Mathlib.Data.List.Basic
import Mathlib.Tactic.Common

namespace NetworkArena.Foundation

universe u

variable {α : Type u}

/-! ## One of several outstanding operations -/

/-- The operation at an index, with the operations before and behind it. -/
theorem split_at_index {β : Type u} {l : List β} {i : ℕ} {a : β} (h : l[i]? = some a) :
    ∃ before behind, l = before ++ a :: behind ∧ l.eraseIdx i = before ++ behind ∧
      ∀ f : β → β, l.modify i f = before ++ f a :: behind := by
  induction l generalizing i with
  | nil => simp at h
  | cons b l ih =>
      cases i with
      | zero =>
          simp only [List.getElem?_cons_zero, Option.some.injEq] at h
          subst h
          exact ⟨[], l, rfl, rfl, fun f => rfl⟩
      | succ i =>
          obtain ⟨before, behind, hl, herase, hmodify⟩ := ih (by simpa using h)
          refine ⟨b :: before, behind, by rw [hl]; rfl, ?_, ?_⟩
          · rw [List.eraseIdx_cons_succ, herase]
            rfl
          · intro f
            rw [List.modify_succ_cons, hmodify]
            rfl

/-! ## Writes in progress -/

/-- A write that was started with `buffer` and has handed on its first `sent` elements. -/
structure WriteOp (α : Type u) where
  buffer : List α
  sent : ℕ := 0
  deriving DecidableEq, Repr

/-- The write after it has handed on `count` more elements. -/
def WriteOp.advance (op : WriteOp α) (count : ℕ) : WriteOp α := { op with sent := op.sent + count }

/-- The next `count` elements of a write. -/
def WriteOp.next (op : WriteOp α) (count : ℕ) : List α := (op.buffer.drop op.sent).take count

/-- A sender in order: see the head of the module. -/
inductive SingleWriter : List (List α) → List (WriteOp α) → List α → Prop
  | idle : SingleWriter [] [] []
  | writing (front : List α) (rest : List (List α)) (sent : ℕ) (hsent : sent ≤ front.length) :
      SingleWriter (front :: rest) [⟨front, sent⟩] (front.drop sent ++ rest.flatten)

namespace SingleWriter

variable {queue : List (List α)} {writes : List (WriteOp α)} {remaining : List α}

theorem empty (h : SingleWriter [] writes remaining) : writes = [] ∧ remaining = [] := by
  cases h
  exact ⟨rfl, rfl⟩

/-- A buffer for an idle sender is written at once. -/
theorem start (buffer : List α) : SingleWriter [buffer] [⟨buffer, 0⟩] buffer := by
  simpa using writing buffer [] 0 (Nat.zero_le _)

/-- A buffer for a busy sender waits behind the others. -/
theorem enqueue (h : SingleWriter queue writes remaining) (hbusy : queue ≠ []) (buffer : List α) :
    SingleWriter (queue ++ [buffer]) writes (remaining ++ buffer) := by
  cases h with
  | idle => exact absurd rfl hbusy
  | writing front rest sent hsent =>
      simpa [List.append_assoc] using writing front (rest ++ [buffer]) sent hsent

/-- The write in progress hands on some elements. -/
theorem transfer {op : WriteOp α} (h : SingleWriter queue [op] remaining) {count : ℕ}
    (hcount : op.sent + count ≤ op.buffer.length) :
    ∃ later, remaining = op.next count ++ later ∧ SingleWriter queue [op.advance count] later := by
  cases h with
  | writing front rest sent hsent =>
      refine ⟨front.drop (sent + count) ++ rest.flatten, ?_, writing front rest _ hcount⟩
      rw [WriteOp.next, ← List.append_assoc, ← List.drop_drop, List.take_append_drop]

/-- A write that has handed on its whole buffer was the write of the front. -/
theorem complete {op : WriteOp α} (h : SingleWriter queue [op] remaining)
    (hall : op.sent = op.buffer.length) :
    ∃ rest, queue = op.buffer :: rest ∧ remaining = rest.flatten := by
  cases h with
  | writing front rest sent hsent =>
      have hdone : front.drop sent = [] := List.drop_eq_nil_of_le (Nat.le_of_eq hall.symm)
      exact ⟨rest, rfl, by rw [hdone, List.nil_append]⟩

/-- The next write of a queue whose front is gone. -/
theorem restart (front : List α) (rest : List (List α)) :
    SingleWriter (front :: rest) [⟨front, 0⟩] (front :: rest).flatten := by
  simpa using writing front rest 0 (Nat.zero_le _)

/-- There is never more than one write, and it is never past the end of its buffer. -/
theorem writes_cases (h : SingleWriter queue writes remaining) :
    writes = [] ∨ ∃ op, writes = [op] ∧ op.sent ≤ op.buffer.length := by
  cases h with
  | idle => exact Or.inl rfl
  | writing front rest sent hsent => exact Or.inr ⟨_, rfl, hsent⟩

/-- The only write there can be is the first. -/
theorem index {i : ℕ} {op : WriteOp α} (h : SingleWriter queue writes remaining)
    (hop : writes[i]? = some op) : i = 0 ∧ writes = [op] := by
  cases h with
  | idle => simp at hop
  | writing front rest sent hsent =>
      cases i with
      | zero =>
          simp only [List.getElem?_cons_zero, Option.some.injEq] at hop
          exact ⟨rfl, by rw [hop]⟩
      | succ i => simp at hop

end SingleWriter

/-! ## The pipe -/

/-- The bytes handed to a connection, and how many of them the other end has taken out. -/
structure Pipe (α : Type u) where
  written : List α := []
  consumed : ℕ := 0
  deriving DecidableEq, Repr

namespace Pipe

/-- What the receiver has taken out so far. -/
def received (p : Pipe α) : List α := p.written.take p.consumed

/-- The next `count` elements the receiver would take out. -/
def next (p : Pipe α) (count : ℕ) : List α := (p.written.drop p.consumed).take count

def write (p : Pipe α) (more : List α) : Pipe α := { p with written := p.written ++ more }

def consume (p : Pipe α) (count : ℕ) : Pipe α := { p with consumed := p.consumed + count }

@[simp] theorem write_written (p : Pipe α) (more : List α) :
    (p.write more).written = p.written ++ more := rfl

@[simp] theorem consume_written (p : Pipe α) (count : ℕ) : (p.consume count).written = p.written :=
  rfl

theorem received_isPrefix (p : Pipe α) : p.received <+: p.written := List.take_prefix _ _

theorem received_consume (p : Pipe α) (count : ℕ) :
    (p.consume count).received = p.received ++ p.next count := by
  simp only [received, consume, next]
  rw [List.take_add]

theorem received_write {p : Pipe α} (h : p.consumed ≤ p.written.length) (more : List α) :
    (p.write more).received = p.received :=
  List.take_append_of_le_length h

end Pipe

end NetworkArena.Foundation
