/-
# NetworkArena.Server.SessionStreams -- the two byte streams of a session

What holds of a session between any two of its handlers, as a sender and as a receiver.

* `SendSide s out`: `out`, the bytes the session has handed to its connection, starts the bytes of
  the messages `Send` accepted; while the session is live it is in order in the sense of
  `SingleWriter`, and what it still has to hand on completes them.
* `ReceiveSide s inp`: the bytes of the messages dispatched start `inp`, the bytes read from the
  connection; while a read is outstanding the accumulated buffer is the rest of them.

Every handler keeps both. A handler that dispatches is taken apart into the few elementary updates
it makes to the session (`Updates`), so that an invariant of the send side is checked once for each
of these and not once for each handler.
-/
import NetworkArena.Server.Session

namespace NetworkArena.Server

open NetworkArena.Foundation
open NetworkArena.Shared

variable {σ : Type}

namespace Session

/-! ## Frame conditions -/

section Frame

variable (callbacks : SessionCallbacks σ) (s : Session) (w : σ) (type : MessageType)
  (payload : List UInt8)

/-- `Close` changes two flags and the counter, and leaves the rest of the session. -/
theorem close_eq :
    (s.close callbacks w).1 =
      if s.closed then s
      else { s with closed := true, pendingSendBytes := 0, socketOpen := false } := by
  unfold close
  by_cases hclosed : s.closed = true
  · rw [if_pos hclosed, if_pos hclosed]
  · rw [if_neg hclosed, if_neg hclosed]
    dsimp only
    by_cases hsocket : s.socketOpen = true
    · rw [if_neg (by simp [hsocket])]
      split <;> rfl
    · rw [if_pos (by simpa using hsocket)]
      simp only [Bool.not_eq_true] at hsocket
      simp only [hsocket]

@[simp] theorem close_dispatched : (s.close callbacks w).1.dispatched = s.dispatched := by
  rw [close_eq]
  split <;> rfl

@[simp] theorem close_accumulatedBuffer :
    (s.close callbacks w).1.accumulatedBuffer = s.accumulatedBuffer := by
  rw [close_eq]
  split <;> rfl

@[simp] theorem close_readsOutstanding :
    (s.close callbacks w).1.readsOutstanding = s.readsOutstanding := by
  rw [close_eq]
  split <;> rfl

@[simp] theorem close_accepted : (s.close callbacks w).1.accepted = s.accepted := by
  rw [close_eq]
  split <;> rfl

@[simp] theorem close_id : (s.close callbacks w).1.id = s.id := by
  rw [close_eq]
  split <;> rfl

@[simp] theorem close_socketOpen (h : s.socketOpen = false) :
    (s.close callbacks w).1.socketOpen = false := by
  rw [close_eq]
  split
  · exact h
  · rfl

/-- `WriteNext` changes nothing but the outstanding writes. -/
theorem writeNext_eq : ∃ writes, s.writeNext = { s with writesOutstanding := writes } := by
  unfold writeNext
  split
  · exact ⟨_, rfl⟩
  · split
    · exact ⟨_, rfl⟩
    · split <;> exact ⟨_, rfl⟩

/-- `HandleWrite` never touches the histories, and it does not open the socket. -/
theorem handleWrite_frame (error : Option ErrorCode) (count : ℕ) :
    (s.handleWrite callbacks error count w).1.accepted = s.accepted ∧
      (s.handleWrite callbacks error count w).1.dispatched = s.dispatched ∧
      (s.handleWrite callbacks error count w).1.accumulatedBuffer = s.accumulatedBuffer ∧
      (s.handleWrite callbacks error count w).1.readsOutstanding = s.readsOutstanding ∧
      (s.handleWrite callbacks error count w).1.id = s.id ∧
      (s.closed = true → (s.handleWrite callbacks error count w).1.closed = true) ∧
      (s.socketOpen = false → (s.handleWrite callbacks error count w).1.socketOpen = false) := by
  unfold handleWrite
  split
  · next hclosed => exact ⟨rfl, rfl, rfl, rfl, rfl, fun _ => hclosed, fun h => h⟩
  next hlive =>
  have hclosed : ∀ {Q : Prop}, s.closed = true → Q := fun h => absurd h hlive
  cases error with
  | some error =>
      have hreport : ∃ diagnostics, (if (error != .operationAborted) = true then
          s.report (.sendFailed error) else s) = { s with diagnostics := diagnostics } := by
        split <;> exact ⟨_, rfl⟩
      obtain ⟨diagnostics, hreport⟩ := hreport
      dsimp only
      rw [hreport]
      split
      · simp only [close_accepted, close_dispatched, close_accumulatedBuffer,
          close_readsOutstanding, close_id, true_and]
        exact ⟨hclosed, fun h => close_socketOpen _ _ _ h⟩
      · exact ⟨rfl, rfl, rfl, rfl, rfl, hclosed, fun h => h⟩
  | none =>
      cases s.sendQueue with
      | nil =>
          simp only [close_accepted, close_dispatched, close_accumulatedBuffer,
            close_readsOutstanding, close_id, true_and]
          exact ⟨hclosed, fun h => close_socketOpen _ _ _ h⟩
      | cons front rest =>
          dsimp only
          split
          · simp only [close_accepted, close_dispatched, close_accumulatedBuffer,
              close_readsOutstanding, close_id]
            exact ⟨rfl, rfl, rfl, rfl, rfl, hclosed, fun h => close_socketOpen _ _ _ h⟩
          · split
            · simp only [close_accepted, close_dispatched, close_accumulatedBuffer,
                close_readsOutstanding, close_id]
              exact ⟨rfl, rfl, rfl, rfl, rfl, hclosed, fun h => close_socketOpen _ _ _ h⟩
            · split
              · obtain ⟨writes, hwrites⟩ := writeNext_eq { s with
                  pendingSendBytes := s.pendingSendBytes - front.length, sendQueue := rest }
                rw [hwrites]
                exact ⟨rfl, rfl, rfl, rfl, rfl, hclosed, fun h => h⟩
              · exact ⟨rfl, rfl, rfl, rfl, rfl, hclosed, fun h => h⟩

/-- `Start` asks for the first read. -/
theorem start_frame :
    s.start.id = s.id ∧ s.start.closed = s.closed ∧ s.start.socketOpen = s.socketOpen ∧
      s.start.dispatched = s.dispatched := by
  unfold start
  split
  · exact ⟨rfl, rfl, rfl, rfl⟩
  · unfold readNext
    split
    · exact ⟨rfl, rfl, rfl, rfl⟩
    · exact ⟨rfl, rfl, rfl, rfl⟩

theorem reportReadError_eq (error : ErrorCode) :
    ∃ diagnostics, s.reportReadError error = { s with diagnostics := diagnostics } := by
  unfold reportReadError
  split
  · exact ⟨_, rfl⟩
  · split
    · exact ⟨_, rfl⟩
    · split <;> exact ⟨_, rfl⟩

/-- `Send` in one line: it accepts and enqueues, or prints. -/
theorem send_cases :
    (s.Accepts ⟨type, payload⟩ ∧ s.send type payload = (true, s.enqueue ⟨type, payload⟩)) ∨
      (¬ s.Accepts ⟨type, payload⟩ ∧ ∃ diagnostics, s.send type payload =
        (false, { s with diagnostics := diagnostics })) := by
  by_cases h : s.Accepts ⟨type, payload⟩
  · exact Or.inl ⟨h, send_accepted h⟩
  · exact Or.inr ⟨h, send_refused h⟩

@[simp] theorem send_dispatched : (s.send type payload).2.dispatched = s.dispatched := by
  rcases send_cases s type payload with ⟨-, h⟩ | ⟨-, diagnostics, h⟩ <;> rw [h]; rfl

@[simp] theorem send_accumulatedBuffer :
    (s.send type payload).2.accumulatedBuffer = s.accumulatedBuffer := by
  rcases send_cases s type payload with ⟨-, h⟩ | ⟨-, diagnostics, h⟩ <;> rw [h]; rfl

@[simp] theorem send_readsOutstanding :
    (s.send type payload).2.readsOutstanding = s.readsOutstanding := by
  rcases send_cases s type payload with ⟨-, h⟩ | ⟨-, diagnostics, h⟩ <;> rw [h]; rfl

@[simp] theorem send_closed : (s.send type payload).2.closed = s.closed := by
  rcases send_cases s type payload with ⟨-, h⟩ | ⟨-, diagnostics, h⟩ <;> rw [h]; rfl

@[simp] theorem send_socketOpen : (s.send type payload).2.socketOpen = s.socketOpen := by
  rcases send_cases s type payload with ⟨-, h⟩ | ⟨-, diagnostics, h⟩ <;> rw [h]; rfl

@[simp] theorem send_id : (s.send type payload).2.id = s.id := by
  rcases send_cases s type payload with ⟨-, h⟩ | ⟨-, diagnostics, h⟩ <;> rw [h]; rfl

/-- **A refused message leaves no trace** in the queue, the counter or the history. -/
theorem send_false (h : (s.send type payload).1 = false) :
    (s.send type payload).2.sendQueue = s.sendQueue ∧
      (s.send type payload).2.pendingSendBytes = s.pendingSendBytes ∧
      (s.send type payload).2.accepted = s.accepted := by
  rcases send_cases s type payload with ⟨-, hsend⟩ | ⟨-, diagnostics, hsend⟩
  · rw [hsend] at h
    cases h
  · rw [hsend]
    exact ⟨rfl, rfl, rfl⟩

/-- An accepted message is the last of the history. -/
theorem send_true (h : (s.send type payload).1 = true) :
    (s.send type payload).2.accepted = s.accepted ++ [⟨type, payload⟩] := by
  rcases send_cases s type payload with ⟨-, hsend⟩ | ⟨-, diagnostics, hsend⟩
  · rw [hsend]
    rfl
  · rw [hsend] at h
    cases h

end Frame

/-! ## The elementary updates -/

/-- A property of sessions that each update made inside a dispatch keeps. -/
structure Updates (callbacks : SessionCallbacks σ) (P : Session → Prop) : Prop where
  report : ∀ {s} diagnostic, P s → P (s.report diagnostic)
  record : ∀ {s : Session} message, P s → P { s with dispatched := s.dispatched ++ [message] }
  buffer : ∀ {s : Session} bytes, P s → P { s with accumulatedBuffer := bytes }
  send : ∀ {s} type payload, P s → P (s.send type payload).2
  close : ∀ {s} w, P s → P (s.close callbacks w).1

/-- The same of a session and of the world of its callbacks. -/
structure WorldUpdates (callbacks : SessionCallbacks σ) (P : Session → σ → Prop) : Prop where
  report : ∀ {s w} diagnostic, P s w → P (s.report diagnostic) w
  record : ∀ {s : Session} {w} message,
    P s w → P { s with dispatched := s.dispatched ++ [message] } w
  buffer : ∀ {s : Session} {w} bytes, P s w → P { s with accumulatedBuffer := bytes } w
  send : ∀ {s w} type payload, P s w → P (s.send type payload).2 w
  close : ∀ {s w}, P s w → P (s.close callbacks w).1 (s.close callbacks w).2
  playerInput : ∀ {s w} onPlayerInput input, callbacks.onPlayerInput = some onPlayerInput →
    P s w → P s (onPlayerInput s.id input w)

theorem Updates.world {callbacks : SessionCallbacks σ} {P : Session → Prop}
    (hP : Updates callbacks P) : WorldUpdates callbacks fun s _ => P s where
  report := hP.report
  record := hP.record
  buffer := hP.buffer
  send := hP.send
  close := hP.close _
  playerInput _ _ _ h := h

section WorldUpdates

variable {callbacks : SessionCallbacks σ} {P : Session → σ → Prop} (hP : WorldUpdates callbacks P)
  {s : Session} {w : σ}

include hP

theorem WorldUpdates.dispatchMessage (header : MessageHeader) (payload : List UInt8)
    (hs : P s w) : P (s.dispatchMessage callbacks header payload w).2.1
      (s.dispatchMessage callbacks header payload w).2.2 := by
  have hlogged := hP.report (.messageReceived header.type header.size payload.length)
    (hP.record ⟨header.type, payload⟩ hs)
  unfold Session.dispatchMessage
  dsimp only
  split
  · unfold handlePing
    split
    split
    · exact hP.close (hP.report _ hlogged)
    · exact hP.send _ _ hlogged
  · split
    · unfold handlePlayerInput
      split
      split
      · exact hP.close (hP.report _ hlogged)
      · split
        · next onPlayerInput honPlayerInput =>
            exact hP.playerInput onPlayerInput _ honPlayerInput hlogged
        · exact hlogged
    · exact hP.close (hP.report _ hlogged)

theorem WorldUpdates.drain (bytes : List UInt8) (hs : P s w) :
    P (messageReader.drain (dispatchOn callbacks) bytes (s, w)).state.1
      (messageReader.drain (dispatchOn callbacks) bytes (s, w)).state.2 :=
  FrameReader.drain_preserves (dispatchOn callbacks) (P := fun t : Session × σ => P t.1 t.2)
    (fun m _ ht => hP.dispatchMessage m.header m.payload ht) bytes hs

end WorldUpdates

/-! ## Receiving, spelled out -/

/-- **What a session makes of received bytes.** -/
theorem processReceivedData_get (callbacks : SessionCallbacks σ) (received : List UInt8)
    (s : Session) (w : σ) (hin : (s.processReceivedData callbacks received w).InBounds) :
    (s.processReceivedData callbacks received w).get hin =
      match messageReader.drain (dispatchOn callbacks) (s.accumulatedBuffer ++ received)
          ({ s with accumulatedBuffer := s.accumulatedBuffer ++ received }, w) with
      | ⟨.waiting, rest, s, w⟩ => (true, { s with accumulatedBuffer := rest }, w)
      | ⟨.malformed, rest, s, w⟩ =>
        let (s, w) := (s.report (.invalidMessageSize (frontHeader rest).size)).close callbacks w
        (false, { s with accumulatedBuffer := rest }, w)
      | ⟨.rejected, rest, s, w⟩ => (false, { s with accumulatedBuffer := rest }, w) :=
  Checked.get_eq (processMessages_eq callbacks _ w) hin

section Reading

variable {callbacks : SessionCallbacks σ} {P : Session → σ → Prop} (hP : WorldUpdates callbacks P)
  {s : Session} {w : σ}

include hP

theorem WorldUpdates.processReceivedData (received : List UInt8) (hs : P s w)
    (hin : (s.processReceivedData callbacks received w).InBounds) :
    P ((s.processReceivedData callbacks received w).get hin).2.1
      ((s.processReceivedData callbacks received w).get hin).2.2 := by
  rw [processReceivedData_get]
  have hdrain := hP.drain (s.accumulatedBuffer ++ received)
    (hP.buffer (s.accumulatedBuffer ++ received) hs)
  revert hdrain
  rcases messageReader.drain (dispatchOn callbacks) (s.accumulatedBuffer ++ received)
    ({ s with accumulatedBuffer := s.accumulatedBuffer ++ received }, w)
    with ⟨verdict, rest, s', w'⟩
  intro hdrain
  cases verdict with
  | waiting => exact hP.buffer rest hdrain
  | malformed => exact hP.buffer rest (hP.close (hP.report _ hdrain))
  | rejected => exact hP.buffer rest hdrain

/-- The handler of a completed read, for a property that starting a read keeps as well. -/
theorem WorldUpdates.handleRead (hreadNext : ∀ {s : Session} {w}, P s w → P s.readNext w)
    (error : Option ErrorCode) (received : List UInt8) (hs : P s w) :
    P (s.handleRead callbacks error received w).1 (s.handleRead callbacks error received w).2 := by
  unfold Session.handleRead
  split
  · exact hs
  · have hprocessed : P (if received.length > 0 then
        (s.processReceivedData callbacks received w).get
          (processReceivedData_inBounds callbacks received s w)
        else (true, s, w)).2.1 (if received.length > 0 then
        (s.processReceivedData callbacks received w).get
          (processReceivedData_inBounds callbacks received s w)
        else (true, s, w)).2.2 := by
      split
      · exact hP.processReceivedData received hs _
      · exact hs
    revert hprocessed
    rcases (if received.length > 0 then
        (s.processReceivedData callbacks received w).get
          (processReceivedData_inBounds callbacks received s w)
        else (true, s, w)) with ⟨processed, s', w'⟩
    intro hprocessed
    dsimp only
    split
    · exact hprocessed
    · cases error with
      | none => exact hreadNext hprocessed
      | some error =>
          refine hP.close ?_
          unfold reportReadError
          split
          · exact hP.report _ hprocessed
          · split
            · exact hP.report _ hprocessed
            · split
              · exact hP.report _ hprocessed
              · exact hprocessed

end Reading

theorem Updates.handleRead {callbacks : SessionCallbacks σ} {P : Session → Prop}
    (hP : Updates callbacks P) (hreadNext : ∀ {s : Session}, P s → P s.readNext) {s : Session}
    {w : σ} (error : Option ErrorCode) (received : List UInt8) (hs : P s) :
    P (s.handleRead callbacks error received w).1 :=
  hP.world.handleRead hreadNext error received hs

/-! ## The send side -/

structure SendSide (s : Session) (out : List UInt8) : Prop where
  fits : ∀ m ∈ s.accepted, m.Fits
  sent : out <+: s.accepted.flatMap Message.bytes
  inOrder : s.socketOpen = true → ∃ remaining,
    SingleWriter s.sendQueue s.writesOutstanding remaining ∧
      out ++ remaining = s.accepted.flatMap Message.bytes
  shut : s.closed = true → s.socketOpen = false

theorem sendSide_create (id : SessionId) : SendSide { id := id } [] where
  fits := by simp
  sent := by simp
  inOrder _ := ⟨[], .idle, rfl⟩
  shut h := by cases h

theorem sendSide_enqueue {s : Session} {out : List UInt8} {message : Message}
    (h : SendSide s out) (haccepts : s.Accepts message) : SendSide (s.enqueue message) out where
  fits m hm := by
    rcases List.mem_append.mp hm with hm | hm
    · exact h.fits m hm
    · rw [List.mem_singleton.mp hm]
      exact haccepts.fits
  sent := by
    simp only [enqueue, List.flatMap_append]
    exact h.sent.trans (List.prefix_append _ _)
  inOrder hsocket := by
    obtain ⟨remaining, hwriter, hbytes⟩ := h.inOrder hsocket
    refine ⟨remaining ++ message.bytes, ?_, ?_⟩
    · cases hqueue : s.sendQueue with
      | nil =>
          rw [hqueue] at hwriter
          obtain ⟨hwrites, hremaining⟩ := hwriter.empty
          simpa [enqueue, hqueue, hwrites, hremaining] using SingleWriter.start message.bytes
      | cons front rest =>
          have hqueued := hwriter.enqueue (by simp [hqueue]) message.bytes
          simpa [enqueue, hqueue] using hqueued
    · simp only [enqueue, List.flatMap_append, ← hbytes, List.append_assoc]
      simp
  shut := h.shut

theorem sendSide_updates (callbacks : SessionCallbacks σ) (out : List UInt8) :
    Updates callbacks (fun s => SendSide s out) where
  report _ h := ⟨h.fits, h.sent, h.inOrder, h.shut⟩
  record _ h := ⟨h.fits, h.sent, h.inOrder, h.shut⟩
  buffer _ h := ⟨h.fits, h.sent, h.inOrder, h.shut⟩
  send {s} type payload h := by
    rcases send_cases s type payload with ⟨haccepts, hsend⟩ | ⟨-, diagnostics, hsend⟩
    · rw [hsend]
      exact sendSide_enqueue h haccepts
    · rw [hsend]
      exact ⟨h.fits, h.sent, h.inOrder, h.shut⟩
  close {s} w h := by
    rw [close_eq]
    split
    · exact h
    · exact ⟨h.fits, h.sent, nofun, fun _ => rfl⟩

theorem SendSide.readNext {s : Session} {out : List UInt8} (h : SendSide s out) :
    SendSide s.readNext out := by
  unfold Session.readNext
  split
  · exact h
  · exact ⟨h.fits, h.sent, h.inOrder, h.shut⟩

theorem SendSide.handleRead {s : Session} {out : List UInt8} (h : SendSide s out)
    (callbacks : SessionCallbacks σ) (w : σ) (error : Option ErrorCode) (received : List UInt8) :
    SendSide (s.handleRead callbacks error received w).1 out :=
  (sendSide_updates callbacks out).handleRead (fun h => h.readNext) error received h

/-- The connection has taken `count` more bytes from the write in progress. -/
def transfer (s : Session) (i count : ℕ) : Session :=
  { s with writesOutstanding := s.writesOutstanding.modify i (WriteOp.advance · count) }

theorem SendSide.transfer {s : Session} {out : List UInt8} (h : SendSide s out)
    (hsocket : s.socketOpen = true) {i count : ℕ} {op : WriteOp UInt8}
    (hop : s.writesOutstanding[i]? = some op) (hcount : op.sent + count ≤ op.buffer.length) :
    SendSide (s.transfer i count) (out ++ op.next count) := by
  obtain ⟨remaining, hwriter, hbytes⟩ := h.inOrder hsocket
  obtain ⟨rfl, hwrites⟩ := hwriter.index hop
  rw [hwrites] at hwriter
  obtain ⟨later, hremaining, hlater⟩ := hwriter.transfer hcount
  have hout : (out ++ op.next count) ++ later = s.accepted.flatMap Message.bytes := by
    rw [List.append_assoc, ← hremaining, hbytes]
  refine ⟨h.fits, ⟨later, hout⟩, fun _ => ⟨later, ?_, hout⟩, h.shut⟩
  simpa [Session.transfer, hwrites] using hlater

/-- A write of a live session failed: the queue is thrown away and the session closed. -/
theorem handleWrite_failed {s : Session} (callbacks : SessionCallbacks σ) (w : σ)
    (error : ErrorCode) (count : ℕ) (hlive : s.closed = false) (hsocket : s.socketOpen = true) :
    ∃ diagnostics, (s.handleWrite callbacks (some error) count w).1 =
      { s with
        diagnostics := diagnostics
        sendQueue := []
        pendingSendBytes := 0
        closed := true
        socketOpen := false } := by
  by_cases haborted : error = .operationAborted
  · simp only [Session.handleWrite, hlive, haborted, bne_self_eq_false, Bool.false_eq_true,
      if_false, hsocket, if_true, close_eq]
    exact ⟨_, rfl⟩
  · simp only [Session.handleWrite, hlive, bne_iff_ne, ne_eq, haborted, not_false_eq_true,
      if_true, report, hsocket, close_eq, Bool.false_eq_true, if_false]
    exact ⟨_, rfl⟩

/-- A completion, successful or not. -/
theorem SendSide.handleWrite {s : Session} {out : List UInt8} (h : SendSide s out)
    (callbacks : SessionCallbacks σ) (w : σ) {i : ℕ} {op : WriteOp UInt8}
    (hop : s.writesOutstanding[i]? = some op) (error : Option ErrorCode)
    (hdone : error = none → op.sent = op.buffer.length) :
    SendSide ((s.retireWrite i).handleWrite callbacks error op.sent w).1 out := by
  by_cases hsocket : s.socketOpen = true
  · obtain ⟨remaining, hwriter, hbytes⟩ := h.inOrder hsocket
    obtain ⟨rfl, hwrites⟩ := hwriter.index hop
    rw [hwrites] at hwriter
    have hlive : s.closed = false := by
      cases hclosed : s.closed with
      | false => rfl
      | true => rw [h.shut hclosed] at hsocket; cases hsocket
    cases error with
    | none =>
        obtain ⟨rest, hqueue, hremaining⟩ := hwriter.complete (hdone rfl)
        rw [hdone rfl]
        by_cases hpending : op.buffer.length ≤ s.pendingSendBytes
        · rw [handleWrite_written (s := s.retireWrite 0) callbacks w hlive hsocket hqueue hpending]
          refine ⟨h.fits, h.sent, fun _ => ⟨rest.flatten, ?_, by rw [← hremaining]; exact hbytes⟩,
            h.shut⟩
          cases rest with
          | nil => simpa [retireWrite, hwrites] using SingleWriter.idle
          | cons next rest => simpa [retireWrite, hwrites] using SingleWriter.restart next rest
        · rw [handleWrite_miscounted (s := s.retireWrite 0) callbacks w hlive hqueue
            (Nat.not_le.mp hpending), close_eq]
          split
          · next hclosed => exact absurd hclosed (by simp [report, retireWrite, hlive])
          · exact ⟨h.fits, h.sent, nofun, fun _ => rfl⟩
    | some error =>
        obtain ⟨diagnostics, hresult⟩ :=
          handleWrite_failed (s := s.retireWrite 0) callbacks w error op.sent hlive hsocket
        rw [hresult]
        exact ⟨h.fits, h.sent, nofun, fun _ => rfl⟩
  · obtain ⟨haccepted, -, -, -, -, -, hshut⟩ :=
      handleWrite_frame callbacks (s.retireWrite i) w error op.sent
    have hclosed : s.socketOpen = false := by simpa using hsocket
    have hout := hshut hclosed
    refine ⟨?_, ?_, ?_, fun _ => hout⟩
    · rw [haccepted]
      exact h.fits
    · rw [haccepted]
      exact h.sent
    · intro hopen
      rw [hout] at hopen
      cases hopen

/-! ## The receive side -/

structure ReceiveSide (s : Session) (inp : List UInt8) : Prop where
  fits : ∀ m ∈ s.dispatched, m.Fits
  read : s.dispatched.flatMap Message.bytes <+: inp
  oneRead : s.readsOutstanding ≤ 1
  inOrder : s.readsOutstanding ≠ 0 → s.closed = false →
    inp = s.dispatched.flatMap Message.bytes ++ s.accumulatedBuffer

/-- A property of the input side only: it survives whatever leaves that side alone. -/
theorem ReceiveSide.of_eq {s s' : Session} {inp : List UInt8} (h : ReceiveSide s inp)
    (hdispatched : s'.dispatched = s.dispatched)
    (hbuffer : s'.accumulatedBuffer = s.accumulatedBuffer)
    (hreads : s'.readsOutstanding = s.readsOutstanding)
    (hclosed : s.closed = true → s'.closed = true) : ReceiveSide s' inp := by
  refine ⟨hdispatched ▸ h.fits, hdispatched ▸ h.read, hreads ▸ h.oneRead, fun hread hlive => ?_⟩
  rw [hdispatched, hbuffer]
  refine h.inOrder (hreads ▸ hread) ?_
  cases hs : s.closed with
  | false => rfl
  | true => rw [hclosed hs] at hlive; cases hlive

theorem ReceiveSide.send {s : Session} {inp : List UInt8} (h : ReceiveSide s inp)
    (type : MessageType) (payload : List UInt8) : ReceiveSide (s.send type payload).2 inp :=
  h.of_eq (by simp) (by simp) (by simp) (by simp)

theorem ReceiveSide.close {s : Session} {inp : List UInt8} (h : ReceiveSide s inp)
    (callbacks : SessionCallbacks σ) (w : σ) : ReceiveSide (s.close callbacks w).1 inp :=
  h.of_eq (by simp) (by simp) (by simp) (fun _ => close_closed _ _ _)

theorem ReceiveSide.transfer {s : Session} {inp : List UInt8} (h : ReceiveSide s inp)
    (i count : ℕ) : ReceiveSide (s.transfer i count) inp :=
  h.of_eq rfl rfl rfl fun hclosed => hclosed

theorem ReceiveSide.handleWrite {s : Session} {inp : List UInt8} (h : ReceiveSide s inp)
    (callbacks : SessionCallbacks σ) (w : σ) (i : ℕ) (error : Option ErrorCode) (count : ℕ) :
    ReceiveSide ((s.retireWrite i).handleWrite callbacks error count w).1 inp := by
  obtain ⟨-, hdispatched, hbuffer, hreads, -, hclosed, -⟩ :=
    handleWrite_frame callbacks (s.retireWrite i) w error count
  exact h.of_eq hdispatched hbuffer hreads hclosed

/-- A session that has not been started has not received anything. -/
theorem receiveSide_start {s : Session} (hdispatched : s.dispatched = [])
    (hbuffer : s.accumulatedBuffer = []) (hreads : s.readsOutstanding = 0) :
    ReceiveSide s.start [] := by
  unfold Session.start
  by_cases hclosed : s.closed = true
  · rw [if_pos hclosed]
    exact ⟨by simp [hdispatched], by simp [hdispatched], by omega, fun h => absurd hreads h⟩
  · rw [if_neg hclosed]
    have hlive : (s.report .clientConnected).closed = false := by simpa [report] using hclosed
    rw [Session.readNext, hlive]
    refine ⟨by simp [report, hdispatched], by simp [report, hdispatched],
      by simp [report, hreads], fun _ _ => ?_⟩
    simp [report, hdispatched, hbuffer]

/-- asio is done with a read. -/
def retireRead (s : Session) : Session := { s with readsOutstanding := s.readsOutstanding - 1 }

theorem readsOutstanding_updates (callbacks : SessionCallbacks σ) (n : ℕ) :
    Updates callbacks (fun s => s.readsOutstanding = n) where
  report _ h := h
  record _ h := h
  buffer _ h := h
  send type payload h := by rw [send_readsOutstanding, h]
  close w h := by rw [close_readsOutstanding, h]

/-- Every message handed to the session is logged. -/
theorem dispatchOn_dispatched (callbacks : SessionCallbacks σ) (message : Message)
    (t : Session × σ) :
    (dispatchOn callbacks message t).2.1.dispatched = t.1.dispatched ++ [message] := by
  have hlogged : Message.mk message.header.type message.payload = message := rfl
  unfold dispatchOn Session.dispatchMessage
  dsimp only
  split
  · unfold handlePing
    split
    split
    · simp [report, hlogged]
    · simp [report, hlogged]
  · split
    · unfold handlePlayerInput
      split
      split
      · simp [report, hlogged]
      · split <;> simp [report, hlogged]
    · simp [report, hlogged]

/-- Received bytes: the messages they complete are dispatched, the others stay in the buffer. -/
theorem processReceivedData_spec (callbacks : SessionCallbacks σ) (received : List UInt8)
    (s : Session) (w : σ) (hin : (s.processReceivedData callbacks received w).InBounds) :
    ∃ messages : List Message, (∀ m ∈ messages, m.Fits) ∧
      ((s.processReceivedData callbacks received w).get hin).2.1.dispatched =
        s.dispatched ++ messages ∧
      messages.flatMap Message.bytes <+: s.accumulatedBuffer ++ received ∧
      (((s.processReceivedData callbacks received w).get hin).1 = true →
        s.accumulatedBuffer ++ received = messages.flatMap Message.bytes ++
          ((s.processReceivedData callbacks received w).get hin).2.1.accumulatedBuffer) := by
  obtain ⟨messages, hlog, hread, hstarts, hrest⟩ := FrameReader.drain_log (dispatchOn callbacks)
    messageReader_encode (fun t : Session × σ => t.1.dispatched)
    (dispatchOn_dispatched callbacks) (s.accumulatedBuffer ++ received)
    ({ s with accumulatedBuffer := s.accumulatedBuffer ++ received }, w)
  refine ⟨messages, fun m hm => ?_, ?_, hstarts, ?_⟩
  · obtain ⟨front, n, hfront⟩ := hread m hm
    exact (messageFront_frame hfront).2.1
  all_goals
    rw [processReceivedData_get]
    revert hlog hrest
    rcases messageReader.drain (dispatchOn callbacks) (s.accumulatedBuffer ++ received)
      ({ s with accumulatedBuffer := s.accumulatedBuffer ++ received }, w) with
      ⟨verdict, rest, s', w'⟩
    intro hlog hrest
  · cases verdict with
    | waiting => exact hlog
    | malformed => simpa [report] using hlog
    | rejected => exact hlog
  · cases verdict with
    | waiting => exact fun _ => hrest (by simp)
    | malformed => exact nofun
    | rejected => exact nofun

/-- The bytes of a read have been processed, and no other read is under way. Unless processing
failed, what has not been dispatched is in the buffer. -/
structure Processed (inp : List UInt8) (p : Bool × Session × σ) : Prop where
  fits : ∀ m ∈ p.2.1.dispatched, m.Fits
  read : p.2.1.dispatched.flatMap Message.bytes <+: inp
  noRead : p.2.1.readsOutstanding = 0
  inOrder : p.1 = true →
    inp = p.2.1.dispatched.flatMap Message.bytes ++ p.2.1.accumulatedBuffer

theorem Processed.receiving {inp : List UInt8} {p : Bool × Session × σ} (h : Processed inp p) :
    ReceiveSide p.2.1 inp :=
  ⟨h.fits, h.read, le_of_eq_of_le h.noRead (Nat.zero_le 1), fun hne => absurd h.noRead hne⟩

/-- **`ProcessReceivedData`**, for the bytes of a read. -/
theorem ReceiveSide.processReceivedData {s : Session} {inp : List UInt8} (h : ReceiveSide s inp)
    (hread : s.readsOutstanding ≠ 0) (hlive : s.closed = false) (callbacks : SessionCallbacks σ)
    (received : List UInt8) (w : σ)
    (hin : (s.retireRead.processReceivedData callbacks received w).InBounds) :
    Processed (inp ++ received)
      ((s.retireRead.processReceivedData callbacks received w).get hin) := by
  have hone := h.oneRead
  have hnone : s.retireRead.readsOutstanding = 0 := by
    simp only [retireRead]
    omega
  have hinp : inp = s.dispatched.flatMap Message.bytes ++ s.accumulatedBuffer :=
    h.inOrder hread hlive
  obtain ⟨messages, hfits, hlog, hstarts, hrest⟩ :=
    processReceivedData_spec callbacks received s.retireRead w hin
  have hdispatched : ((s.retireRead.processReceivedData callbacks received w).get
      hin).2.1.dispatched = s.dispatched ++ messages := hlog
  refine ⟨?_, ?_, ?_, ?_⟩
  · intro m hm
    rw [hdispatched] at hm
    rcases List.mem_append.mp hm with hm | hm
    · exact h.fits m hm
    · exact hfits m hm
  · rw [hdispatched, List.flatMap_append, hinp, List.append_assoc]
    exact (List.prefix_append_right_inj _).mpr hstarts
  · exact (readsOutstanding_updates callbacks 0).world.processReceivedData received hnone hin
  · intro hok
    rw [hdispatched, List.flatMap_append, hinp, List.append_assoc, List.append_assoc, ← hrest hok]
    rfl

/-- **A completed read** moves its bytes from the connection into the session. -/
theorem ReceiveSide.handleRead {s : Session} {inp : List UInt8} (h : ReceiveSide s inp)
    (hread : s.readsOutstanding ≠ 0) (callbacks : SessionCallbacks σ) (w : σ)
    (error : Option ErrorCode) (received : List UInt8) :
    ReceiveSide (s.retireRead.handleRead callbacks error received w).1 (inp ++ received) := by
  have hone := h.oneRead
  have hnone : s.retireRead.readsOutstanding = 0 := by
    simp only [retireRead]
    omega
  unfold Session.handleRead
  cases hclosed : s.closed with
  | true =>
      rw [if_pos (show s.retireRead.closed = true from hclosed)]
      exact ⟨h.fits, h.read.trans (List.prefix_append _ _), le_of_eq_of_le hnone (Nat.zero_le 1),
        fun hne => absurd hnone hne⟩
  | false =>
  rw [if_neg (by simp [retireRead, hclosed])]
  -- what processing leaves, whether or not there was anything to process
  have hprocessed : Processed (inp ++ received)
      (if received.length > 0 then
        (s.retireRead.processReceivedData callbacks received w).get
          (processReceivedData_inBounds callbacks received s.retireRead w)
        else (true, s.retireRead, w)) := by
    split
    · exact h.processReceivedData hread hclosed callbacks received w _
    · next hempty =>
        obtain rfl : received = [] := List.length_eq_zero_iff.mp (by omega)
        rw [List.append_nil]
        exact ⟨h.fits, h.read, hnone, fun _ => h.inOrder hread hclosed⟩
  revert hprocessed
  rcases (if received.length > 0 then
      (s.retireRead.processReceivedData callbacks received w).get
        (processReceivedData_inBounds callbacks received s.retireRead w)
      else (true, s.retireRead, w)) with ⟨processed, s', w'⟩
  intro hprocessed
  have hquiet : ReceiveSide s' (inp ++ received) := hprocessed.receiving
  obtain ⟨hfits, hstarts, hreads, hrest⟩ := hprocessed
  cases processed with
  | false => exact hquiet
  | true =>
      cases error with
      | none =>
          simp only [Bool.not_true, Bool.false_eq_true, if_false, Session.readNext]
          split
          · exact hquiet
          · exact ⟨hfits, hstarts, by simp only at hreads ⊢; omega, fun _ _ => hrest rfl⟩
      | some error =>
          obtain ⟨diagnostics, hreport⟩ := reportReadError_eq s' error
          simp only [Bool.not_true, Bool.false_eq_true, if_false, hreport]
          have hreported : ReceiveSide { s' with diagnostics := diagnostics } (inp ++ received) :=
            hquiet.of_eq rfl rfl rfl fun h => h
          exact hreported.close callbacks w'

end Session

end NetworkArena.Server
