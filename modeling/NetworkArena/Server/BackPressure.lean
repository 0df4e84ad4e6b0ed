/-
# NetworkArena.Server.BackPressure -- what a session counts of its queue

`pendingSendBytes_` is meant to be the size of `sendQueue_`: what `Send` checks before it accepts a
message is the counter, and the bound on the memory held for one client is a bound on the queue.
`Send` keeps the two together, and so does every handler that throws the queue away. The only one
that does not is the completion of a write that leaves messages queued: it sets the counter to zero.

A run keeps the counter right in all its states if and only if none of its steps is such a
completion.
-/
import NetworkArena.Server.SessionRuns

namespace NetworkArena.Server

open NetworkArena.Foundation
open NetworkArena.Shared

variable {σ : Type}

namespace Session

/-- The bytes of the messages in the queue. -/
def queuedBytes (s : Session) : ℕ := (s.sendQueue.map List.length).sum

/-- The counter is the size of the queue, the queue is within its limit, and `Send` of a message of
an allowed type that can be encoded refuses exactly what would exceed the limit. -/
structure Accounted (s : Session) : Prop where
  counter : s.pendingSendBytes = s.queuedBytes
  limit : s.queuedBytes ≤ maxPendingSendBytes
  refuses : s.socketOpen = true → ∀ message : Message, isSendable message.type = true →
    message.Fits → ((s.send message.type message.payload).1 = false ↔
      maxPendingSendBytes < s.queuedBytes + message.bytes.length)

/-- A write completes as a whole with other messages behind it in the queue. -/
def LeavesBacklog (s : Session) (bytesTransferred : ℕ) : Prop :=
  ∃ front next rest, s.sendQueue = front :: next :: rest ∧ bytesTransferred = front.length

/-- What carries the induction. -/
structure Counted (s : Session) : Prop where
  socket : s.socketOpen = true
  counter : s.pendingSendBytes = s.queuedBytes
  limit : s.queuedBytes ≤ maxPendingSendBytes
  nonempty : ∀ message ∈ s.sendQueue, 0 < message.length

variable {s : Session}

theorem Counted.accounted (h : s.Counted) (hlive : s.closed = false) : s.Accounted where
  counter := h.counter
  limit := h.limit
  refuses hsocket message hsendable hfits := by
    rw [← h.counter]
    rcases send_cases s message.type message.payload with
      ⟨haccepts, hsend⟩ | ⟨hrefuses, diagnostics, hsend⟩
    · rw [hsend]
      have hroom := haccepts.room
      constructor
      · nofun
      · intro hover
        have hsame : (Message.mk message.type message.payload).bytes = message.bytes := rfl
        rw [hsame] at hroom
        omega
    · rw [hsend]
      refine ⟨fun _ => ?_, fun _ => rfl⟩
      by_contra hroom
      exact hrefuses ⟨hlive, hsocket, hsendable, hfits, Nat.not_lt.mp hroom⟩

theorem counted_create (id : SessionId) : Counted { id := id } := ⟨rfl, rfl, Nat.zero_le _, nofun⟩

theorem queuedBytes_enqueue (s : Session) (message : Message) :
    (s.enqueue message).queuedBytes = s.queuedBytes + message.bytes.length := by
  simp [queuedBytes, enqueue]

theorem counted_updates (callbacks : SessionCallbacks σ) :
    Updates callbacks (fun s => s.closed = false → s.Counted) where
  report _ h hlive := ⟨(h hlive).socket, (h hlive).counter, (h hlive).limit, (h hlive).nonempty⟩
  record _ h hlive := ⟨(h hlive).socket, (h hlive).counter, (h hlive).limit, (h hlive).nonempty⟩
  buffer _ h hlive := ⟨(h hlive).socket, (h hlive).counter, (h hlive).limit, (h hlive).nonempty⟩
  send {s} type payload h := by
    rcases send_cases s type payload with ⟨haccepts, hsend⟩ | ⟨-, diagnostics, hsend⟩
    · rw [hsend]
      intro hlive
      obtain ⟨hsocket, hcounter, -, hnonempty⟩ := h haccepts.live
      have hroom := haccepts.room
      refine ⟨hsocket, ?_, ?_, ?_⟩
      · rw [queuedBytes_enqueue, ← hcounter]
        rfl
      · rw [queuedBytes_enqueue, ← hcounter]
        exact hroom
      · intro message hmessage
        rcases List.mem_append.mp hmessage with hold | hnew
        · exact hnonempty message hold
        · rw [List.mem_singleton.mp hnew, Message.bytes_length]
          exact Nat.lt_of_lt_of_le (by decide : 0 < messageHeaderSize) (Nat.le_add_right _ _)
    · rw [hsend]
      intro hlive
      exact ⟨(h hlive).socket, (h hlive).counter, (h hlive).limit,
        (h hlive).nonempty⟩
  close {s} w h := by
    intro hlive
    rw [close_closed] at hlive
    cases hlive

/-- A completion that leaves nothing queued keeps the count. -/
theorem Counted.handleWrite (h : s.Counted) (callbacks : SessionCallbacks σ) (w : σ)
    (hlive : s.closed = false) {error : Option ErrorCode} {count : ℕ}
    (halone : error = none → ¬ s.LeavesBacklog count) :
    (s.handleWrite callbacks error count w).1.closed = false →
      (s.handleWrite callbacks error count w).1.Counted := by
  intro hstill
  rcases handleWrite_live callbacks w error count hlive h.socket with
    hgone | ⟨herror, front, rest, hqueue, hcount, -, hwritten⟩
  · rw [hgone] at hstill
    cases hstill
  · have hrest : rest = [] := by
      cases rest with
      | nil => rfl
      | cons next rest => exact absurd ⟨front, next, rest, hqueue, hcount⟩ (halone herror)
    rw [hwritten, hrest]
    exact ⟨h.socket, rfl, Nat.zero_le _, nofun⟩

/-- A completion that leaves messages queued loses their size. -/
theorem Counted.handleWrite_backlog (h : s.Counted) (callbacks : SessionCallbacks σ) (w : σ)
    (hlive : s.closed = false) {count : ℕ} (hbacklog : s.LeavesBacklog count) :
    (s.handleWrite callbacks none count w).1.closed = false ∧
      (s.handleWrite callbacks none count w).1.pendingSendBytes <
        (s.handleWrite callbacks none count w).1.queuedBytes := by
  obtain ⟨front, next, rest, hqueue, rfl⟩ := hbacklog
  have hpending : front.length ≤ s.pendingSendBytes := by
    rw [h.counter, queuedBytes, hqueue]
    simp
  have hnext : 0 < next.length := h.nonempty next (by simp [hqueue])
  rw [handleWrite_written callbacks w hlive h.socket hqueue hpending]
  refine ⟨hlive, ?_⟩
  show 0 < ((next :: rest).map List.length).sum
  simp only [List.map_cons, List.sum_cons]
  omega

end Session

/-! ## Runs -/

/-- The counter of a live session is right. -/
def SessionRun.Accounted (r : SessionRun σ) : Prop :=
  r.session.closed = false → r.session.Accounted

/-- No completed write leaves messages queued. -/
def SessionRun.WritesAlone (r : SessionRun σ) : SessionEvent → Prop
  | .written _ none bytesTransferred =>
    r.session.closed = false → ¬ r.session.LeavesBacklog bytesTransferred
  | _ => True

section Steps

variable {callbacks : SessionCallbacks σ} {r r' : SessionRun σ} {event : SessionEvent}

theorem SessionRun.counted_step (h : r.session.closed = false → r.session.Counted)
    (hstep : r.step callbacks event = some r') (halone : r.WritesAlone event) :
    r'.session.closed = false → r'.session.Counted := by
  refine SessionRun.step_keeps (P := fun s => s.closed = false → s.Counted)
    (Session.counted_updates callbacks)
    (fun reads h hlive => ⟨(h hlive).socket, (h hlive).counter, (h hlive).limit,
      (h hlive).nonempty⟩) h ?_ hstep
  rintro i error count rfl hlive
  cases hclosed : r.session.closed with
  | true =>
      have hlate : (r.session.retireWrite i).closed = true := hclosed
      rw [Session.handleWrite_late callbacks r.world error count hlate, hlate] at hlive
      cases hlive
  | false =>
      have hcounted : (r.session.retireWrite i).Counted :=
        ⟨(h hclosed).socket, (h hclosed).counter, (h hclosed).limit, (h hclosed).nonempty⟩
      refine hcounted.handleWrite callbacks r.world hclosed ?_ hlive
      rintro rfl
      exact halone hclosed

theorem SessionRun.miscounted_step (h : r.session.closed = false → r.session.Counted)
    (hstep : r.step callbacks event = some r') (hbacklog : ¬ r.WritesAlone event) :
    ¬ r'.Accounted := by
  cases SessionRun.step_cases hstep with
  | written i error count =>
      cases error with
      | some error => exact absurd trivial hbacklog
      | none =>
          simp only [WritesAlone, Classical.not_imp, not_not] at hbacklog
          obtain ⟨hlive, hbacklog⟩ := hbacklog
          have hcounted : (r.session.retireWrite i).Counted :=
            ⟨(h hlive).socket, (h hlive).counter, (h hlive).limit, (h hlive).nonempty⟩
          obtain ⟨hstill, hlost⟩ :=
            hcounted.handleWrite_backlog callbacks r.world hlive hbacklog
          intro haccounted
          exact absurd (haccounted hstill).counter (Nat.ne_of_lt hlost)
  | start | send | stop | read => exact absurd trivial hbacklog

end Steps

/-- **The count of pending bytes is right exactly as long as writes complete alone.** In every state
of a run a live session counts its queue, keeps it within the limit and refuses exactly what does
not fit, if and only if no write of the run completes with other messages queued behind it. -/
theorem pendingSendBytes_accounted_iff (callbacks : SessionCallbacks σ) (id : SessionId) (w : σ)
    (events : List SessionEvent) :
    Throughout (SessionRun.step callbacks) SessionRun.Accounted (SessionRun.fresh id w) events ↔
      EachStep (SessionRun.step callbacks) SessionRun.WritesAlone (SessionRun.fresh id w)
        events :=
  throughout_iff_eachStep (I := fun r => r.session.closed = false → r.session.Counted)
    (fun _ h hlive => (h hlive).accounted hlive)
    (fun _ _ _ h hstep halone => SessionRun.counted_step h hstep halone)
    (fun _ _ _ h hstep hbacklog => SessionRun.miscounted_step h hstep hbacklog)
    fun _ => Session.counted_create id

/-- Two messages are accepted, and the write of the first completes. -/
def secondWaits : List SessionEvent :=
  [.start, .send ⟨.pong, [0, 0, 0, 0, 0, 0, 0, 1]⟩, .send ⟨.pong, [0, 0, 0, 0, 0, 0, 0, 2]⟩,
    .written 0 none 12]

/-- After `secondWaits` a live session counts nothing while the second message is being written. -/
theorem pendingSendBytes_forgets :
    ((runFrom (SessionRun.step ⟨none, none⟩) (SessionRun.fresh 1 ()) secondWaits).map fun r =>
        (r.session.closed, r.session.pendingSendBytes, r.session.queuedBytes)) =
      some (false, 0, 12) ∧
    ¬ Throughout (SessionRun.step ⟨none, none⟩) SessionRun.Accounted (SessionRun.fresh 1 ())
      secondWaits := by
  have hrun : ((runFrom (SessionRun.step (⟨none, none⟩ : SessionCallbacks Unit))
      (SessionRun.fresh 1 ()) secondWaits).map fun r =>
        (r.session.closed, r.session.pendingSendBytes, r.session.queuedBytes)) =
      some (false, 0, 12) := by
    decide +kernel
  refine ⟨hrun, fun haccounted => ?_⟩
  obtain ⟨r, hr, hfields⟩ := Option.map_eq_some_iff.mp hrun
  simp only [Prod.mk.injEq] at hfields
  obtain ⟨hlive, hpending, hqueued⟩ := hfields
  have hcounter := (haccounted _ r (List.prefix_refl _) hr hlive).counter
  rw [hpending, hqueued] at hcounter
  cases hcounter

end NetworkArena.Server
