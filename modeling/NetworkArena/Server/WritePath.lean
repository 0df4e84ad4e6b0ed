/-
# NetworkArena.Server.WritePath -- what the write path of a session does to the session

Runs made of `Send` calls and successful completions only: every write that completes has written
the whole buffer it was started for. The write path itself can still close the session. After a
completion that leaves messages queued, `HandleWrite` starts the next write and then, without
returning, sets `pendingSendBytes_` to zero although these messages are still pending. The next
completion compares the counter with the size of the front message and gives the session up.

`coveredFrom` follows the sizes of the queued messages and the bytes accepted since the last
completion. `session_healthy_iff_covered` says that a session stays healthy exactly as long as
each message that completes is covered by what was accepted since the completion before it.
-/
import NetworkArena.Foundation.Transition
import NetworkArena.Server.Session

namespace NetworkArena.Server

open NetworkArena.Foundation
open NetworkArena.Shared

variable {σ : Type}

/-! ## Runs of the write path -/

/-- A session, the world its callbacks act on, and the buffers whose writes have completed. -/
structure WriteRun (σ : Type) where
  session : Session
  world : σ
  completed : List (List UInt8) := []

inductive WriteEvent where
  | send (message : Message)
  /-- The `i`-th outstanding write completes with the whole of its buffer written. -/
  | complete (i : ℕ)
  deriving DecidableEq, Repr

namespace WriteRun

/-- A session nothing has been sent on. -/
def fresh (id : SessionId) (w : σ) : WriteRun σ := { session := { id := id }, world := w }

def step (callbacks : SessionCallbacks σ) (r : WriteRun σ) : WriteEvent → Option (WriteRun σ)
  | .send message =>
    some { r with session := (r.session.send message.type message.payload).2 }
  | .complete i =>
    match r.session.writesOutstanding[i]? with
    | none => none
    | some op =>
      let (s, w) :=
        (r.session.retireWrite i).handleWrite callbacks none op.buffer.length r.world
      some ⟨s, w, r.completed ++ [op.buffer]⟩

/-- The session is open and no message has been thrown away: what was accepted has either been
written or is still queued, in this order. -/
structure Healthy (r : WriteRun σ) : Prop where
  live : r.session.closed = false
  kept : r.session.accepted.map Message.bytes = r.completed ++ r.session.sendQueue

/-- Every state on the way is healthy. -/
def StaysHealthy (callbacks : SessionCallbacks σ) (r : WriteRun σ) (events : List WriteEvent) :
    Prop :=
  ∀ before r', before <+: events → runFrom (step callbacks) r before = some r' → r'.Healthy

end WriteRun

/-! ## The ledger -/

/-- The messages a live session accepts when `since` bytes were accepted since the last
completion. -/
def acceptable (since : ℕ) (message : Message) : Bool :=
  Session.isSendable message.type && decide message.Fits &&
    decide (since + message.bytes.length ≤ Session.maxPendingSendBytes)

/-- With messages of the sizes `backlog` queued and `since` bytes accepted since the last
completion: every message that completes is no larger than what was accepted since the completion
before. -/
def coveredFrom : List ℕ → ℕ → List WriteEvent → Bool
  | _, _, [] => true
  | backlog, since, .send message :: events =>
    if acceptable since message then
      coveredFrom (backlog ++ [message.bytes.length]) (since + message.bytes.length) events
    else coveredFrom backlog since events
  -- nothing is outstanding, or not at this index: the event does not happen
  | [], _, .complete _ :: _ => true
  | _ :: _, _, .complete (_ + 1) :: _ => true
  | size :: backlog, since, .complete 0 :: events =>
    decide (size ≤ since) && coveredFrom backlog 0 events

/-- The events of a session nothing has been sent on. -/
def covered (events : List WriteEvent) : Bool := coveredFrom [] 0 events

/-! ## The session follows the ledger -/

namespace WriteRun

/-- A live session with this ledger. -/
structure Follows (r : WriteRun σ) (backlog : List ℕ) (since : ℕ) : Prop where
  live : r.session.closed = false
  socket : r.session.socketOpen = true
  sizes : r.session.sendQueue.map List.length = backlog
  pending : r.session.pendingSendBytes = since
  writing : r.session.writesOutstanding = (r.session.sendQueue.take 1).map (⟨·, 0⟩)
  kept : r.session.accepted.map Message.bytes = r.completed ++ r.session.sendQueue

theorem fresh_follows (id : SessionId) (w : σ) : (fresh id w).Follows [] 0 :=
  ⟨rfl, rfl, rfl, rfl, rfl, rfl⟩

theorem Follows.healthy {r : WriteRun σ} {backlog : List ℕ} {since : ℕ}
    (h : r.Follows backlog since) : r.Healthy :=
  ⟨h.live, h.kept⟩

variable {callbacks : SessionCallbacks σ} {r : WriteRun σ} {backlog : List ℕ} {since : ℕ}

theorem Follows.accepts_iff (h : r.Follows backlog since) (message : Message) :
    r.session.Accepts message ↔ acceptable since message = true := by
  simp only [acceptable, Bool.and_eq_true, decide_eq_true_eq]
  constructor
  · rintro ⟨-, -, hsendable, hfits, hroom⟩
    rw [h.pending] at hroom
    exact ⟨⟨hsendable, hfits⟩, hroom⟩
  · rintro ⟨⟨hsendable, hfits⟩, hroom⟩
    exact ⟨h.live, h.socket, hsendable, hfits, by rw [h.pending]; exact hroom⟩

/-- `Send` of a message that is accepted. -/
theorem Follows.send_accepted (h : r.Follows backlog since)
    (callbacks : SessionCallbacks σ) {message : Message}
    (hm : acceptable since message = true) :
    ∃ r', r.step callbacks (.send message) = some r' ∧
      r'.Follows (backlog ++ [message.bytes.length]) (since + message.bytes.length) := by
  refine ⟨_, rfl, ?_⟩
  rw [Session.send_accepted ((h.accepts_iff message).mpr hm)]
  refine ⟨h.live, h.socket, ?_, ?_, ?_, ?_⟩
  · simp [Session.enqueue, ← h.sizes]
  · simp [Session.enqueue, h.pending]
  · cases hqueue : r.session.sendQueue <;> simp [Session.enqueue, h.writing, hqueue]
  · simp [Session.enqueue, h.kept]

/-- `Send` of a message that is refused. -/
theorem Follows.send_refused (h : r.Follows backlog since)
    (callbacks : SessionCallbacks σ) {message : Message}
    (hm : acceptable since message = false) :
    ∃ r', r.step callbacks (.send message) = some r' ∧ r'.Follows backlog since := by
  refine ⟨_, rfl, ?_⟩
  have hrefused : ¬ r.session.Accepts message := by
    intro haccepts
    rw [(h.accepts_iff message).mp haccepts] at hm
    cases hm
  obtain ⟨diagnostics, hsend⟩ := Session.send_refused hrefused
  rw [hsend]
  exact ⟨h.live, h.socket, h.sizes, h.pending, h.writing, h.kept⟩

/-- A completion that can happen is that of the front message. -/
theorem Follows.complete_front (h : r.Follows backlog since) {i : ℕ} {r' : WriteRun σ}
    (hstep : r.step callbacks (.complete i) = some r') :
    i = 0 ∧ ∃ front rest, r.session.sendQueue = front :: rest := by
  have hwriting := h.writing
  cases hqueue : r.session.sendQueue with
  | nil =>
      rw [hqueue] at hwriting
      simp [step, hwriting] at hstep
  | cons front rest =>
      rw [hqueue] at hwriting
      cases i with
      | zero => exact ⟨rfl, front, rest, rfl⟩
      | succ i => simp [step, hwriting] at hstep

/-- The state in which the completion of the front message is handled. -/
theorem Follows.step_complete (h : r.Follows backlog since) {front : List UInt8}
    {rest : List (List UInt8)} (hqueue : r.session.sendQueue = front :: rest) :
    r.step callbacks (.complete 0) =
      some ⟨((r.session.retireWrite 0).handleWrite callbacks none front.length r.world).1,
        ((r.session.retireWrite 0).handleWrite callbacks none front.length r.world).2,
        r.completed ++ [front]⟩ := by
  have hwriting := h.writing
  rw [hqueue] at hwriting
  have hfirst : r.session.writesOutstanding[0]? = some ⟨front, 0⟩ := by simp [hwriting]
  simp only [step, hfirst]

theorem Follows.queue_cons {size : ℕ} (h : r.Follows (size :: backlog) since) :
    ∃ front rest, r.session.sendQueue = front :: rest ∧ front.length = size ∧
      rest.map List.length = backlog := by
  have hsizes := h.sizes
  cases hqueue : r.session.sendQueue with
  | nil => simp [hqueue] at hsizes
  | cons front rest =>
      rw [hqueue, List.map_cons, List.cons.injEq] at hsizes
      exact ⟨front, rest, rfl, hsizes⟩

/-- The completion of a message that is covered: the counter restarts at zero. -/
theorem Follows.complete_covered {size : ℕ} (h : r.Follows (size :: backlog) since)
    (callbacks : SessionCallbacks σ) (hsize : size ≤ since) :
    ∃ r', r.step callbacks (.complete 0) = some r' ∧ r'.Follows backlog 0 := by
  obtain ⟨front, rest, hqueue, hfront, hrest⟩ := h.queue_cons
  have hpending : front.length ≤ r.session.pendingSendBytes := by
    rw [h.pending, hfront]
    exact hsize
  have hkept := h.kept
  rw [hqueue] at hkept
  refine ⟨_, h.step_complete hqueue, ?_⟩
  rw [Session.handleWrite_written (s := r.session.retireWrite 0) callbacks r.world h.live
    h.socket hqueue hpending]
  refine ⟨h.live, h.socket, hrest, rfl, ?_, by simpa [Session.retireWrite] using hkept⟩
  simp [Session.retireWrite, h.writing, hqueue]

/-- The completion of a message that is not covered closes the session. -/
theorem Follows.complete_uncovered {size : ℕ} (h : r.Follows (size :: backlog) since)
    (callbacks : SessionCallbacks σ) (hsize : ¬ size ≤ since) :
    ∃ r', r.step callbacks (.complete 0) = some r' ∧ r'.session.closed = true := by
  obtain ⟨front, rest, hqueue, hfront, -⟩ := h.queue_cons
  have hpending : r.session.pendingSendBytes < front.length := by
    rw [h.pending, hfront]
    omega
  refine ⟨_, h.step_complete hqueue, ?_⟩
  rw [Session.handleWrite_miscounted (s := r.session.retireWrite 0) callbacks r.world h.live
    hqueue hpending]
  exact Session.close_closed _ _ _

/-! ## Runs -/

/-- The states on the way of a run that starts with one event. -/
theorem staysHealthy_cons {event : WriteEvent} {events : List WriteEvent} :
    StaysHealthy callbacks r (event :: events) ↔
      r.Healthy ∧ ∀ r', r.step callbacks event = some r' → StaysHealthy callbacks r' events :=
  throughout_cons

/-- From a live session, by induction on the events; the ledger is carried along. -/
theorem Follows.staysHealthy_iff (h : r.Follows backlog since) (events : List WriteEvent) :
    StaysHealthy callbacks r events ↔ coveredFrom backlog since events = true := by
  induction events generalizing r backlog since with
  | nil =>
      refine ⟨fun _ => by rw [coveredFrom], fun _ => ?_⟩
      exact throughout_nil.mpr h.healthy
  | cons event events ih =>
      rw [staysHealthy_cons]
      cases event with
      | send message =>
          cases hm : acceptable since message with
          | true =>
              obtain ⟨r', hstep, hnext⟩ := h.send_accepted callbacks hm
              simp only [hstep, Option.some.injEq, forall_eq', h.healthy, true_and, ih hnext,
                coveredFrom, hm, if_true]
          | false =>
              obtain ⟨r', hstep, hnext⟩ := h.send_refused callbacks hm
              simp only [hstep, Option.some.injEq, forall_eq', h.healthy, true_and, ih hnext,
                coveredFrom, hm, Bool.false_eq_true, if_false]
      | complete i =>
          cases hbacklog : backlog with
          | nil =>
              refine ⟨fun _ => by rw [coveredFrom], fun _ => ⟨h.healthy, fun r' hstep => ?_⟩⟩
              obtain ⟨-, front, rest, hqueue⟩ := h.complete_front hstep
              have hsizes := h.sizes
              simp [hqueue, hbacklog] at hsizes
          | cons size backlog =>
              subst hbacklog
              cases i with
              | succ i =>
                  refine ⟨fun _ => by rw [coveredFrom], fun _ => ⟨h.healthy, fun r' hstep => ?_⟩⟩
                  exact absurd (h.complete_front hstep).1 (Nat.succ_ne_zero i)
              | zero =>
                  by_cases hsize : size ≤ since
                  · obtain ⟨r', hstep, hnext⟩ :=
                      h.complete_covered callbacks hsize
                    simp only [hstep, Option.some.injEq, forall_eq', h.healthy, true_and,
                      ih hnext, coveredFrom, hsize, decide_true, Bool.true_and]
                  · obtain ⟨r', hstep, hclosed⟩ :=
                      h.complete_uncovered callbacks hsize
                    simp only [hstep, Option.some.injEq, forall_eq', h.healthy, true_and,
                      coveredFrom, hsize, decide_false, Bool.false_and, Bool.false_eq_true,
                      iff_false]
                    intro hstays
                    have hhealthy := hstays [] r' List.nil_prefix rfl
                    rw [hhealthy.live] at hclosed
                    cases hclosed

end WriteRun

/-- **A session survives its own write path exactly on covered runs**: every state on the way is
open and has lost no message if and only if every message that completes is no larger than the
messages accepted since the completion before it (since the start, for the first) taken together. -/
theorem session_healthy_iff_covered (callbacks : SessionCallbacks σ) (id : SessionId) (w : σ)
    (events : List WriteEvent) :
    WriteRun.StaysHealthy callbacks (WriteRun.fresh id w) events ↔ covered events = true :=
  (WriteRun.fresh_follows id w).staysHealthy_iff events

/-- Two messages, the second accepted while the first is being written, and both writes complete. -/
def backlogOfTwo : List WriteEvent :=
  [.send ⟨.pong, [0, 0, 0, 0, 0, 0, 0, 1]⟩, .send ⟨.pong, [0, 0, 0, 0, 0, 0, 0, 2]⟩,
    .complete 0, .complete 0]

/-- The second completion of `backlogOfTwo` finds the counter at zero and closes the session. -/
theorem session_backlog_closes :
    ((runFrom (WriteRun.step ⟨none, none⟩) (WriteRun.fresh 1 ()) backlogOfTwo).map fun r =>
        (r.session.closed, r.session.diagnostics)) =
      some (true, [.pendingSendByteCountInvalid 0 12]) ∧
    ¬ WriteRun.StaysHealthy ⟨none, none⟩ (WriteRun.fresh 1 ()) backlogOfTwo := by
  have hrun : ((runFrom (WriteRun.step (⟨none, none⟩ : SessionCallbacks Unit)) (WriteRun.fresh 1 ())
      backlogOfTwo).map fun r => (r.session.closed, r.session.diagnostics)) =
      some (true, [.pendingSendByteCountInvalid 0 12]) := by
    decide +kernel
  refine ⟨hrun, fun hstays => ?_⟩
  obtain ⟨r, hr, hfields⟩ := Option.map_eq_some_iff.mp hrun
  have hlive := (hstays _ r (List.prefix_refl _) hr).live
  rw [(Prod.mk.inj hfields).1] at hlive
  cases hlive

end NetworkArena.Server
