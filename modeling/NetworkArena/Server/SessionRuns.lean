/-
# NetworkArena.Server.SessionRuns -- a session by itself

Runs of one session: it is started once, anybody may call `Send` or `Stop`, and the operations it
has started complete with whatever error and number of bytes. A read brings any bytes that fit into
the receive buffer.

While a session is live its socket is open, since only `Close` closes it. So a completed write
either closes the session or takes a message off the queue (`handleWrite_live`).
-/
import NetworkArena.Foundation.Transition
import NetworkArena.Server.SessionStreams

namespace NetworkArena.Server

open NetworkArena.Foundation
open NetworkArena.Shared

variable {σ : Type}

/-! ## Runs -/

/-- A session, the world its callbacks act on, and whether it was started. -/
structure SessionRun (σ : Type) where
  session : Session
  world : σ
  started : Bool := false

inductive SessionEvent where
  | start
  | send (message : Message)
  | stop
  | read (received : List UInt8) (error : Option ErrorCode)
  /-- The `i`-th outstanding write completes. -/
  | written (i : ℕ) (error : Option ErrorCode) (bytesTransferred : ℕ)
  deriving DecidableEq, Repr

namespace SessionRun

/-- A session that was just constructed. -/
def fresh (id : SessionId) (w : σ) : SessionRun σ := { session := { id := id }, world := w }

def step (callbacks : SessionCallbacks σ) (r : SessionRun σ) :
    SessionEvent → Option (SessionRun σ)
  | .start =>
    if r.started then none else some { r with session := r.session.start, started := true }
  | .send message =>
    some { r with session := (r.session.send message.type message.payload).2 }
  | .stop =>
    let (s, w) := r.session.stop callbacks r.world
    some { r with session := s, world := w }
  | .read received error =>
    if r.session.readsOutstanding = 0 ∨ Session.receiveBufferSize < received.length then none
    else
      let (s, w) := r.session.retireRead.handleRead callbacks error received r.world
      some { r with session := s, world := w }
  | .written i error bytesTransferred =>
    if r.session.writesOutstanding[i]?.isNone then none
    else
      let (s, w) :=
        (r.session.retireWrite i).handleWrite callbacks error bytesTransferred r.world
      some { r with session := s, world := w }

/-- What an event needs to happen in a run, and what it leaves. -/
inductive Step (callbacks : SessionCallbacks σ) (r : SessionRun σ) :
    SessionEvent → SessionRun σ → Prop
  | start (hnew : r.started = false) :
    Step callbacks r .start { r with session := r.session.start, started := true }
  | send (message : Message) :
    Step callbacks r (.send message)
      { r with session := (r.session.send message.type message.payload).2 }
  | stop :
    Step callbacks r .stop { r with
      session := (r.session.stop callbacks r.world).1
      world := (r.session.stop callbacks r.world).2 }
  | read (received : List UInt8) (error : Option ErrorCode)
      (hreads : r.session.readsOutstanding ≠ 0) :
    Step callbacks r (.read received error) { r with
      session := (r.session.retireRead.handleRead callbacks error received r.world).1
      world := (r.session.retireRead.handleRead callbacks error received r.world).2 }
  | written (i : ℕ) (error : Option ErrorCode) (bytesTransferred : ℕ) :
    Step callbacks r (.written i error bytesTransferred) { r with
      session :=
        ((r.session.retireWrite i).handleWrite callbacks error bytesTransferred r.world).1
      world := ((r.session.retireWrite i).handleWrite callbacks error bytesTransferred r.world).2 }

theorem step_cases {callbacks : SessionCallbacks σ} {r r' : SessionRun σ} {event : SessionEvent}
    (hstep : r.step callbacks event = some r') : r.Step callbacks event r' := by
  cases event with
  | start =>
      simp only [step] at hstep
      split at hstep
      · cases hstep
      · next hnew =>
          cases hstep
          exact .start (by simpa using hnew)
  | send message =>
      cases hstep
      exact .send message
  | stop =>
      cases hstep
      exact .stop
  | read received error =>
      simp only [step] at hstep
      split at hstep
      · cases hstep
      · next hguard =>
          cases hstep
          exact .read received error (not_or.mp hguard).1
  | written i error count =>
      simp only [step] at hstep
      split at hstep
      · cases hstep
      · cases hstep
        exact .written i error count

theorem step_read (callbacks : SessionCallbacks σ) {r : SessionRun σ} {received : List UInt8}
    (hreads : r.session.readsOutstanding ≠ 0)
    (hlength : received.length ≤ Session.receiveBufferSize) (error : Option ErrorCode) :
    r.step callbacks (.read received error) = some { r with
      session := (r.session.retireRead.handleRead callbacks error received r.world).1
      world := (r.session.retireRead.handleRead callbacks error received r.world).2 } := by
  simp only [step]
  rw [if_neg (not_or.mpr ⟨hreads, Nat.not_lt.mpr hlength⟩)]

end SessionRun

namespace Session

/-! ## Live sessions -/

/-- The socket of a session that is not closed is open. -/
def SocketLive (s : Session) : Prop := s.closed = false → s.socketOpen = true

variable {s : Session}

/-- **A write completes.** A live session gives up, or the front message was written as a whole,
leaves the queue, and the counter is set to zero. -/
theorem handleWrite_live (callbacks : SessionCallbacks σ) (w : σ) (error : Option ErrorCode)
    (count : ℕ) (hlive : s.closed = false) (hsocket : s.socketOpen = true) :
    (s.handleWrite callbacks error count w).1.closed = true ∨
      error = none ∧ ∃ front rest, s.sendQueue = front :: rest ∧ count = front.length ∧
        front.length ≤ s.pendingSendBytes ∧
        s.handleWrite callbacks error count w =
          ({ s with
            sendQueue := rest
            pendingSendBytes := 0
            writesOutstanding := s.writesOutstanding ++ (rest.take 1).map (⟨·, 0⟩) }, w) := by
  cases error with
  | some error =>
      left
      have hopen : ∀ b : Bool, (if b = true then s.report (.sendFailed error) else s).socketOpen =
          true := by
        intro b
        cases b
        · exact hsocket
        · exact hsocket
      unfold handleWrite
      rw [if_neg (by simp [hlive])]
      dsimp only
      rw [if_pos (hopen _)]
      exact close_closed ..
  | none =>
      cases hqueue : s.sendQueue with
      | nil =>
          left
          unfold handleWrite
          rw [if_neg (by simp [hlive]), hqueue]
          exact close_closed ..
      | cons front rest =>
          by_cases hcount : count = front.length
          · by_cases hpending : front.length ≤ s.pendingSendBytes
            · subst hcount
              exact Or.inr ⟨rfl, front, rest, rfl, rfl, hpending,
                handleWrite_written callbacks w hlive hsocket hqueue hpending⟩
            · left
              rw [hcount, handleWrite_miscounted callbacks w hlive hqueue (by omega)]
              exact close_closed ..
          · left
            unfold handleWrite
            rw [if_neg (by simp [hlive]), hqueue]
            dsimp only
            rw [if_pos hcount]
            exact close_closed ..

theorem handleWrite_late (callbacks : SessionCallbacks σ) (w : σ) (error : Option ErrorCode)
    (count : ℕ) (hclosed : s.closed = true) : s.handleWrite callbacks error count w = (s, w) :=
  if_pos hclosed

theorem handleRead_late (callbacks : SessionCallbacks σ) (w : σ) (error : Option ErrorCode)
    (received : List UInt8) (hclosed : s.closed = true) :
    s.handleRead callbacks error received w = (s, w) :=
  if_pos hclosed

end Session

/-- The handlers of a session are its elementary updates, starting a read, and completing a
write. -/
theorem SessionRun.step_keeps {callbacks : SessionCallbacks σ} {P : Session → Prop}
    (hP : Session.Updates callbacks P)
    (hreads : ∀ {s : Session} reads, P s → P { s with readsOutstanding := reads })
    {r r' : SessionRun σ} {event : SessionEvent} (h : P r.session)
    (hwritten : ∀ i error count, event = .written i error count →
      P ((r.session.retireWrite i).handleWrite callbacks error count r.world).1)
    (hstep : r.step callbacks event = some r') : P r'.session := by
  have hreadNext : ∀ {s : Session}, P s → P s.readNext := by
    intro s hs
    unfold Session.readNext
    split
    · exact hs
    · exact hreads _ hs
  cases SessionRun.step_cases hstep with
  | start =>
      unfold Session.start
      dsimp only
      split
      · exact h
      · exact hreadNext (hP.report _ h)
  | send message => exact hP.send _ _ h
  | stop => exact hP.close _ h
  | read received error => exact hP.handleRead hreadNext error received (hreads _ h)
  | written i error count => exact hwritten i error count rfl

end NetworkArena.Server
