/-
# NetworkArena.Server.Listening -- the read a live session owes its client

`HandleRead` starts the next read only if everything received was dispatched. Most of what makes
`DispatchMessage` return false has closed the session; but a ping whose pong `Send` refuses, because
the queue is full, is reported in the same way, and nobody closes the session then. It stays open
and registered, and never reads again.

How many pongs a read asks for is a matter of the messages it completes (`pingsToAnswer`), and each
needs the room of one pong. A session listens in every state of a run exactly if there is room for
the pongs of every read.
-/
import NetworkArena.Server.Requests
import NetworkArena.Server.SessionRuns

namespace NetworkArena.Server

open NetworkArena.Foundation
open NetworkArena.Shared

variable {σ : Type}

/-! ## Pings to answer -/

/-- The pings among some messages that are answered, up to the first message that closes the
session. -/
def pingsToAnswer : List Message → ℕ
  | [] => 0
  | message :: messages =>
    if message.type = .ping then
      if ((decodePingPayload message.payload {}).get
          (decodePingPayload_inBounds message.payload {})).1 then
        1 + pingsToAnswer messages
      else 0
    else if message.type = .playerInput then
      if ((decodePlayerInputPayload message.payload {}).get
          (decodePlayerInputPayload_inBounds message.payload {})).1 then
        pingsToAnswer messages
      else 0
    else 0

/-- The size of a pong on the wire. -/
def pongSize : ℕ := messageHeaderSize + pingPayloadSize

theorem pingsToAnswer_ping (ping : PingPayload) (messages : List Message) :
    pingsToAnswer (⟨.ping, ping.bytes⟩ :: messages) = 1 + pingsToAnswer messages := by
  rw [pingsToAnswer, if_pos rfl, Checked.get_eq (decodePingPayload_bytes ping {})]
  rfl

theorem pingsToAnswer_playerInput {input : PlayerInputPayload}
    (h : isValidPlayerInput input = true) (messages : List Message) :
    pingsToAnswer (⟨.playerInput, input.bytes⟩ :: messages) = pingsToAnswer messages := by
  rw [pingsToAnswer, if_neg (show ¬ MessageType.playerInput = .ping by decide), if_pos rfl,
    Checked.get_eq (decodePlayerInputPayload_bytes h {})]
  rfl

theorem pingsToAnswer_unserved {message : Message} (h : ¬ Session.IsServed message)
    (messages : List Message) : pingsToAnswer (message :: messages) = 0 := by
  obtain ⟨type, payload⟩ := message
  rw [pingsToAnswer]
  by_cases hping : type = .ping
  · subst hping
    rw [if_pos rfl]
    rcases decodePingPayload_cases payload {} with hfail | ⟨ping, rfl, -⟩
    · rw [Checked.get_eq hfail]
      rfl
    · exact absurd (.ping ping) h
  · rw [if_neg hping]
    by_cases hinput : type = .playerInput
    · subst hinput
      rw [if_pos rfl]
      rcases decodePlayerInputPayload_cases payload {} with hfail | ⟨input, hvalid, rfl, -⟩
      · rw [Checked.get_eq hfail]
        rfl
      · exact absurd (.playerInput hvalid) h
    · rw [if_neg hinput]

namespace Session

variable {callbacks : SessionCallbacks σ} {s : Session} {w : σ}

/-! ## Dispatching to a live session -/

/-- A message the session does not serve closes it. -/
theorem dispatchOn_unserved {message : Message} (h : ¬ IsServed message) :
    (dispatchOn callbacks message (s, w)).1 = false ∧
      (dispatchOn callbacks message (s, w)).2.1.closed = true := by
  obtain ⟨type, payload⟩ := message
  unfold dispatchOn dispatchMessage
  dsimp only
  by_cases hping : type = .ping
  · subst hping
    rw [if_pos (by rfl), handlePing]
    rcases decodePingPayload_cases payload {} with hfail | ⟨ping, rfl, -⟩
    · rw [Checked.get_eq hfail]
      exact ⟨rfl, close_closed ..⟩
    · exact absurd (.ping ping) h
  rw [if_neg (show ¬ (Message.mk type payload).header.type = .ping from hping)]
  by_cases hinput : type = .playerInput
  · subst hinput
    rw [if_pos (by rfl), handlePlayerInput]
    rcases decodePlayerInputPayload_cases payload {} with hfail | ⟨input, hvalid, rfl, -⟩
    · rw [Checked.get_eq hfail]
      exact ⟨rfl, close_closed ..⟩
    · exact absurd (.playerInput hvalid) h
  · rw [if_neg (show ¬ (Message.mk type payload).header.type = .playerInput from hinput)]
    exact ⟨rfl, close_closed ..⟩

/-- A live session with a given count of pending bytes and no read. -/
structure Busy (s : Session) (pending : ℕ) : Prop where
  live : s.closed = false
  socket : s.socketOpen = true
  pending : s.pendingSendBytes = pending
  reads : s.readsOutstanding = 0

theorem pong_accepts_iff {pending : ℕ} (h : s.Busy pending) (ping : PingPayload) :
    s.Accepts ⟨.pong, ping.bytes⟩ ↔ pending + pongSize ≤ maxPendingSendBytes := by
  have hsize : (Message.mk .pong ping.bytes).bytes.length = pongSize := by
    rw [Message.bytes_length, PingPayload.bytes_length]
    rfl
  constructor
  · intro haccepts
    have hroom := haccepts.room
    rw [hsize, h.pending] at hroom
    exact hroom
  · intro hroom
    refine ⟨h.live, h.socket, rfl, ?_, ?_⟩
    · unfold Message.Fits
      rw [PingPayload.bytes_length]
      decide
    · rw [hsize, h.pending]
      exact hroom

/-- A ping with room for its pong. -/
theorem Busy.ping {pending : ℕ} (h : s.Busy pending) (callbacks : SessionCallbacks σ) (w : σ)
    (ping : PingPayload) (hroom : pending + pongSize ≤ maxPendingSendBytes) :
    (dispatchOn callbacks ⟨.ping, ping.bytes⟩ (s, w)).1 = true ∧
      (dispatchOn callbacks ⟨.ping, ping.bytes⟩ (s, w)).2.1.Busy (pending + pongSize) := by
  have hlogged : (s.logged ⟨.ping, ping.bytes⟩).Busy pending :=
    ⟨h.live, h.socket, h.pending, h.reads⟩
  have hsend := send_accepted ((pong_accepts_iff hlogged ping).mpr hroom)
  dsimp only at hsend
  rw [dispatchOn_ping, hsend]
  refine ⟨rfl, h.live, h.socket, ?_, h.reads⟩
  show s.pendingSendBytes + (Message.mk .pong ping.bytes).bytes.length = pending + pongSize
  rw [h.pending, Message.bytes_length, PingPayload.bytes_length]
  rfl

/-- A ping without room for its pong: the session reports failure and stays open. -/
theorem Busy.ping_refused {pending : ℕ} (h : s.Busy pending) (callbacks : SessionCallbacks σ)
    (w : σ) (ping : PingPayload) (hroom : ¬ pending + pongSize ≤ maxPendingSendBytes) :
    (dispatchOn callbacks ⟨.ping, ping.bytes⟩ (s, w)).1 = false ∧
      (dispatchOn callbacks ⟨.ping, ping.bytes⟩ (s, w)).2.1.Busy pending := by
  have hlogged : (s.logged ⟨.ping, ping.bytes⟩).Busy pending :=
    ⟨h.live, h.socket, h.pending, h.reads⟩
  have hrefused := fun haccepts => hroom ((pong_accepts_iff hlogged ping).mp haccepts)
  obtain ⟨diagnostics, hsend⟩ := send_refused hrefused
  dsimp only at hsend
  rw [dispatchOn_ping, hsend]
  exact ⟨rfl, h.live, h.socket, h.pending, h.reads⟩

theorem Busy.playerInput {pending : ℕ} (h : s.Busy pending) (callbacks : SessionCallbacks σ)
    (w : σ) {input : PlayerInputPayload} (hvalid : isValidPlayerInput input = true) :
    (dispatchOn callbacks ⟨.playerInput, input.bytes⟩ (s, w)).1 = true ∧
      (dispatchOn callbacks ⟨.playerInput, input.bytes⟩ (s, w)).2.1.Busy pending := by
  have hserved : (dispatchOn callbacks ⟨.playerInput, input.bytes⟩ (s, w)).1 = true ∧
      (dispatchOn callbacks ⟨.playerInput, input.bytes⟩ (s, w)).2.1 =
        s.logged ⟨.playerInput, input.bytes⟩ := by
    unfold dispatchOn dispatchMessage
    dsimp only
    rw [if_neg (show ¬ (Message.mk .playerInput input.bytes).header.type = .ping from
      (by decide : ¬ MessageType.playerInput = MessageType.ping)), if_pos (by rfl),
      handlePlayerInput, Checked.get_eq (decodePlayerInputPayload_bytes hvalid {})]
    cases callbacks.onPlayerInput with
    | none => exact ⟨rfl, rfl⟩
    | some onPlayerInput => exact ⟨rfl, rfl⟩
  rw [hserved.1, hserved.2]
  exact ⟨rfl, h.live, h.socket, h.pending, h.reads⟩

/-! ## A read -/

/-- **Dispatching the messages of a read to a live session.** With room for all pongs the session is
still live afterwards if every message was served, and closed if not. Without, it is left open. -/
theorem Busy.deliver (callbacks : SessionCallbacks σ) (messages : List Message) {pending : ℕ}
    (h : s.Busy pending) (w : σ) :
    (pending + pongSize * pingsToAnswer messages ≤ maxPendingSendBytes →
      ((FrameReader.deliver (dispatchOn callbacks) messages (s, w)).1 = true ∧
          (∃ pending', (FrameReader.deliver (dispatchOn callbacks) messages
            (s, w)).2.1.Busy pending')) ∨
        ((FrameReader.deliver (dispatchOn callbacks) messages (s, w)).1 = false ∧
          (FrameReader.deliver (dispatchOn callbacks) messages (s, w)).2.1.closed = true)) ∧
    (¬ pending + pongSize * pingsToAnswer messages ≤ maxPendingSendBytes →
      pending ≤ maxPendingSendBytes →
      (FrameReader.deliver (dispatchOn callbacks) messages (s, w)).1 = false ∧
        ∃ pending', (FrameReader.deliver (dispatchOn callbacks) messages
          (s, w)).2.1.Busy pending') := by
  induction messages generalizing s w pending with
  | nil =>
      refine ⟨fun _ => Or.inl ⟨rfl, pending, h⟩, fun hover hpending => ?_⟩
      simp only [pingsToAnswer, Nat.mul_zero, Nat.add_zero] at hover
      exact absurd hpending hover
  | cons message messages ih =>
      by_cases hserved : IsServed message
      · cases hserved with
        | ping ping =>
            rw [pingsToAnswer_ping, Nat.mul_add, Nat.mul_one, ← Nat.add_assoc]
            by_cases hroom : pending + pongSize ≤ maxPendingSendBytes
            · obtain ⟨hserves, hbusy⟩ := h.ping callbacks w ping hroom
              obtain ⟨hall, hover⟩ := ih hbusy (dispatchOn callbacks ⟨.ping, ping.bytes⟩ (s, w)).2.2
              rw [FrameReader.deliver, if_pos hserves]
              exact ⟨hall, fun hno _ => hover hno hroom⟩
            · obtain ⟨hfails, hbusy⟩ := h.ping_refused callbacks w ping hroom
              rw [FrameReader.deliver, if_neg (by simp [hfails])]
              refine ⟨fun hall => ?_, fun _ _ => ⟨rfl, pending, hbusy⟩⟩
              exact absurd (le_trans (Nat.le_add_right _ _) hall) hroom
        | @playerInput input hvalid =>
            obtain ⟨hserves, hbusy⟩ := h.playerInput callbacks w hvalid
            rw [pingsToAnswer_playerInput hvalid, FrameReader.deliver, if_pos hserves]
            exact ih hbusy (dispatchOn callbacks ⟨.playerInput, input.bytes⟩ (s, w)).2.2
      · obtain ⟨hfails, hclosed⟩ : (dispatchOn callbacks message (s, w)).1 = false ∧
          (dispatchOn callbacks message (s, w)).2.1.closed = true := dispatchOn_unserved hserved
        rw [pingsToAnswer_unserved hserved, FrameReader.deliver, if_neg (by simp [hfails])]
        refine ⟨fun _ => Or.inr ⟨rfl, hclosed⟩, fun hover hpending => ?_⟩
        simp only [Nat.mul_zero, Nat.add_zero] at hover
        exact absurd hpending hover

/-- The session is closed, or one read is outstanding. -/
def Listening (s : Session) : Prop := s.closed = true ∨ s.readsOutstanding = 1

/-- There is room for the pongs a read asks for. -/
def RoomForPongs (s : Session) (received : List UInt8) : Prop :=
  received ≠ [] → s.pendingSendBytes + pongSize * pingsToAnswer
    (messageReader.parse (s.accumulatedBuffer ++ received)).frames ≤ maxPendingSendBytes

/-- Nothing left to dispatch, the session reads on or closes. -/
theorem Busy.readOn {pending : ℕ} (h : s.Busy pending) (error : Option ErrorCode) :
    (s.readOn callbacks error w).1.Listening := by
  cases error with
  | none =>
      right
      show s.readNext.readsOutstanding = 1
      rw [readNext, if_neg (by simp [h.live])]
      show s.readsOutstanding + 1 = 1
      rw [h.reads]
  | some error => exact Or.inl (close_closed ..)

/-- **A read of a live session**: with room for its pongs the session listens afterwards, without
it is open and does not. -/
theorem Busy.handleRead {pending : ℕ} (h : s.Busy pending)
    (hpending : pending ≤ maxPendingSendBytes)
    (callbacks : SessionCallbacks σ) (w : σ) (error : Option ErrorCode) (received : List UInt8) :
    (s.RoomForPongs received → (s.handleRead callbacks error received w).1.Listening) ∧
      (¬ s.RoomForPongs received →
        ∃ pending', (s.handleRead callbacks error received w).1.Busy pending') := by
  unfold Session.handleRead
  rw [if_neg (by simp [h.live])]
  by_cases hreceived : received.length > 0
  swap
  · have hnothing : received = [] := by
      rw [gt_iff_lt, List.length_pos_iff, not_not] at hreceived
      exact hreceived
    simp only [if_neg hreceived, Bool.not_true, Bool.false_eq_true, if_false]
    exact ⟨fun _ => h.readOn error, fun hover => absurd (fun hne => absurd hnothing hne) hover⟩
  have hsome : received ≠ [] := List.length_pos_iff.mp hreceived
  simp only [if_pos hreceived]
  rw [processReceivedData_get]
  have hstarted : { s with accumulatedBuffer := s.accumulatedBuffer ++ received }.Busy pending :=
    ⟨h.live, h.socket, h.pending, h.reads⟩
  -- the loop of the reader delivers the frames of the buffer one by one
  obtain ⟨hall, hover⟩ := hstarted.deliver callbacks
    (messageReader.parse (s.accumulatedBuffer ++ received)).frames w
  obtain ⟨hstate, hverdict, -⟩ := FrameReader.drain_eq_deliver (dispatchOn callbacks)
    (R := messageReader) (s.accumulatedBuffer ++ received)
    ({ s with accumulatedBuffer := s.accumulatedBuffer ++ received }, w)
  have hroom : s.RoomForPongs received ↔ pending + pongSize * pingsToAnswer
      (messageReader.parse (s.accumulatedBuffer ++ received)).frames ≤ maxPendingSendBytes := by
    rw [RoomForPongs, h.pending]
    exact ⟨fun hall => hall hsome, fun hall _ => hall⟩
  rw [← hstate] at hall hover
  rw [hroom]
  revert hall hover hverdict
  generalize (FrameReader.deliver (dispatchOn callbacks) (messageReader.parse
    (s.accumulatedBuffer ++ received)).frames
      ({ s with accumulatedBuffer := s.accumulatedBuffer ++ received }, w)).1 = served
  rcases messageReader.drain (dispatchOn callbacks) (s.accumulatedBuffer ++ received)
    ({ s with accumulatedBuffer := s.accumulatedBuffer ++ received }, w) with
      ⟨verdict, rest, s', w'⟩
  intro hall hover hverdict
  dsimp only at hverdict hall hover
  have hbuffered : ∀ {pending'}, s'.Busy pending' →
      { s' with accumulatedBuffer := rest }.Busy pending' :=
    fun hbusy => ⟨hbusy.live, hbusy.socket, hbusy.pending, hbusy.reads⟩
  constructor
  · intro hfits
    -- all frames are dispatched, or the session was closed by one of them
    rcases hall hfits with ⟨rfl, pending', hbusy⟩ | ⟨rfl, hclosed⟩
    · rw [if_pos rfl] at hverdict
      subst hverdict
      cases (messageReader.parse (s.accumulatedBuffer ++ received)).malformed with
      | true => exact Or.inl (close_closed ..)
      | false => exact (hbuffered hbusy).readOn error
    · rw [if_neg (by simp)] at hverdict
      subst hverdict
      exact Or.inl hclosed
  · intro hover'
    obtain ⟨rfl, pending', hbusy⟩ := hover hover' hpending
    rw [if_neg (by simp)] at hverdict
    subst hverdict
    exact ⟨pending', hbuffered hbusy⟩

theorem Busy.not_listening {pending : ℕ} (h : s.Busy pending) : ¬ s.Listening := by
  rintro (hclosed | hreads)
  · exact absurd hclosed (by simp [h.live])
  · exact absurd hreads (by simp [h.reads])

/-- A read of one whole message that is served. -/
theorem handleRead_served (callbacks : SessionCallbacks σ) (w : σ) {message : Message}
    (hfits : message.Fits) (hlive : s.closed = false) (hbuffer : s.accumulatedBuffer = [])
    (hserved : (dispatchOn callbacks message
      ({ s with accumulatedBuffer := message.bytes }, w)).1 = true) :
    s.handleRead callbacks none message.bytes w =
      ({ (dispatchOn callbacks message ({ s with accumulatedBuffer := message.bytes }, w)).2.1 with
          accumulatedBuffer := [] }.readNext,
        (dispatchOn callbacks message ({ s with accumulatedBuffer := message.bytes }, w)).2.2) := by
  have hsome : message.bytes.length > 0 := by
    rw [Message.bytes_length]
    exact Nat.lt_of_lt_of_le (by decide : 0 < messageHeaderSize) (Nat.le_add_right _ _)
  have hfront : messageReader.front message.bytes =
      .frame message (messageHeaderSize + message.payload.length) := by
    have hwhole := messageFront_bytes hfits []
    rw [List.append_nil] at hwhole
    exact hwhole
  have hrest : message.bytes.drop (messageHeaderSize + message.payload.length) = [] := by
    rw [← Message.bytes_length, List.drop_length]
  unfold Session.handleRead
  rw [if_neg (by simp [hlive])]
  simp only [if_pos hsome]
  rw [processReceivedData_get, hbuffer, List.nil_append, FrameReader.drain_frame _ hfront,
    if_pos hserved, hrest, FrameReader.drain_incomplete _ (by rfl)]
  rfl

/-- A read of one ping, with room for its pong. -/
theorem Busy.read_ping {pending : ℕ} (h : s.Busy pending) (hbuffer : s.accumulatedBuffer = [])
    (callbacks : SessionCallbacks σ) (w : σ) (ping : PingPayload)
    (hroom : pending + pongSize ≤ maxPendingSendBytes) :
    ∃ s' : Session, (s.handleRead callbacks none (Message.mk .ping ping.bytes).bytes w).1 =
        { s' with readsOutstanding := 1 } ∧
      s'.Busy (pending + pongSize) ∧ s'.accumulatedBuffer = [] := by
  have hbuffered : { s with accumulatedBuffer := (Message.mk .ping ping.bytes).bytes }.Busy
      pending := ⟨h.live, h.socket, h.pending, h.reads⟩
  have hfits : (Message.mk .ping ping.bytes).Fits := by
    unfold Message.Fits
    rw [PingPayload.bytes_length]
    decide
  obtain ⟨hserved, hbusy⟩ := hbuffered.ping callbacks w ping hroom
  rw [handleRead_served callbacks w hfits h.live hbuffer hserved]
  revert hbusy
  generalize (dispatchOn callbacks ⟨.ping, ping.bytes⟩
    ({ s with accumulatedBuffer := (Message.mk .ping ping.bytes).bytes }, w)).2.1 = s'
  intro hbusy
  refine ⟨{ s' with accumulatedBuffer := [] }, ?_,
    ⟨hbusy.live, hbusy.socket, hbusy.pending, hbusy.reads⟩, rfl⟩
  rw [readNext, if_neg (by simp [hbusy.live])]
  simp only [hbusy.reads]

end Session

/-! ## Runs -/

/-- A session that was started is closed or has one read outstanding. -/
def SessionRun.Listening (r : SessionRun σ) : Prop := r.started = true → r.session.Listening

/-- Nothing received asks for more pongs than there is room for. -/
def SessionRun.RoomForPongs (r : SessionRun σ) : SessionEvent → Prop
  | .read received _ => r.session.closed = false → r.session.RoomForPongs received
  | _ => True

/-- What carries the induction. -/
structure SessionRun.Attentive (r : SessionRun σ) : Prop where
  live : r.session.closed = false →
    r.session.socketOpen = true ∧ r.session.pendingSendBytes ≤ Session.maxPendingSendBytes
  started : r.started = true → r.session.Listening
  unstarted : r.started = false → r.session.readsOutstanding = 0

section Steps

variable {callbacks : SessionCallbacks σ} {r r' : SessionRun σ} {event : SessionEvent}

theorem withinLimit_updates (callbacks : SessionCallbacks σ) :
    Session.Updates callbacks fun s => s.closed = false →
      s.socketOpen = true ∧ s.pendingSendBytes ≤ Session.maxPendingSendBytes where
  report _ h := h
  record _ h := h
  buffer _ h := h
  send {s} type payload h := by
    rcases Session.send_cases s type payload with ⟨haccepts, hsend⟩ | ⟨-, diagnostics, hsend⟩
    · rw [hsend]
      exact fun _ => ⟨haccepts.socket, haccepts.room⟩
    · rw [hsend]
      exact h
  close {s} w _ := by
    intro hlive
    rw [Session.close_closed] at hlive
    cases hlive

/-- No step of any kind takes a live session past its limit. -/
theorem SessionRun.withinLimit_step (h : r.session.closed = false →
      r.session.socketOpen = true ∧ r.session.pendingSendBytes ≤ Session.maxPendingSendBytes)
    (hstep : r.step callbacks event = some r') : r'.session.closed = false →
      r'.session.socketOpen = true ∧ r'.session.pendingSendBytes ≤ Session.maxPendingSendBytes := by
  refine SessionRun.step_keeps (withinLimit_updates callbacks) (fun _ h => h) h ?_ hstep
  rintro i error count - hlive
  cases hclosed : r.session.closed with
  | true =>
      rw [Session.handleWrite_late callbacks r.world error count
        (show (r.session.retireWrite i).closed = true from hclosed)] at hlive
      exact absurd (hclosed.symm.trans hlive) (by decide)
  | false =>
      rcases Session.handleWrite_live (s := r.session.retireWrite i) callbacks r.world error count
        hclosed (h hclosed).1 with hgone | ⟨-, front, rest, -, -, -, hwritten⟩
      · rw [hgone] at hlive
        cases hlive
      · rw [hwritten]
        exact ⟨(h hclosed).1, Nat.zero_le _⟩

/-- A live session that reads was started, and it is the only read. -/
theorem SessionRun.Attentive.busy (h : r.Attentive) (hreads : r.session.readsOutstanding ≠ 0)
    (hlive : r.session.closed = false) :
    r.started = true ∧ r.session.retireRead.Busy r.session.pendingSendBytes := by
  have hstarted : r.started = true := by
    by_contra hno
    exact hreads (h.unstarted (by simpa using hno))
  have hone : r.session.readsOutstanding = 1 :=
    (h.started hstarted).resolve_left (by simp [hlive])
  exact ⟨hstarted, hlive, (h.live hlive).1, rfl, by simp [Session.retireRead, hone]⟩

theorem SessionRun.attentive_step (h : r.Attentive) (hstep : r.step callbacks event = some r')
    (hroom : r.RoomForPongs event) : r'.Attentive := by
  have hlive := SessionRun.withinLimit_step h.live hstep
  cases SessionRun.step_cases hstep with
  | start hnew =>
      refine ⟨hlive, fun _ => ?_, nofun⟩
      have hnone := h.unstarted hnew
      by_cases hclosed : r.session.closed = true
      · left
        simp only [Session.start, if_pos hclosed]
        exact hclosed
      · right
        simp only [Session.start, if_neg hclosed, Session.readNext]
        rw [if_neg (show ¬ (r.session.report .clientConnected).closed = true from hclosed)]
        simp [Session.report, hnone]
  | send message =>
      refine ⟨hlive, ?_, ?_⟩
      · intro hstarted
        simpa [Session.Listening] using h.started hstarted
      · intro hstarted
        simpa using h.unstarted hstarted
  | stop =>
      refine ⟨hlive, fun _ => Or.inl (Session.close_closed ..), fun hstarted => ?_⟩
      exact (Session.close_readsOutstanding callbacks r.session r.world).trans
        (h.unstarted hstarted)
  | read received error hreads =>
      cases hclosed : r.session.closed with
      | true =>
          have hlate := Session.handleRead_late callbacks r.world error received
            (show r.session.retireRead.closed = true from hclosed)
          refine ⟨hlive, fun _ => Or.inl ?_, fun hstarted => absurd (h.unstarted hstarted) hreads⟩
          simp only [hlate]
          exact hclosed
      | false =>
          obtain ⟨hstarted, hbusy⟩ := h.busy hreads hclosed
          refine ⟨hlive, fun _ => ?_, fun hno => absurd (hstarted.symm.trans hno) (by decide)⟩
          exact (hbusy.handleRead (h.live hclosed).2 callbacks r.world error received).1
            (hroom hclosed)
  | written i error count =>
      obtain ⟨-, -, -, hreads, -, hclosed, -⟩ :=
        Session.handleWrite_frame callbacks (r.session.retireWrite i) r.world error count
      refine ⟨hlive, ?_, ?_⟩
      · intro hstarted
        exact (h.started hstarted).imp hclosed fun hone => hreads.trans hone
      · intro hstarted
        exact hreads.trans (h.unstarted hstarted)

theorem SessionRun.deaf_step (h : r.Attentive) (hstep : r.step callbacks event = some r')
    (hover : ¬ r.RoomForPongs event) : ¬ r'.Listening := by
  cases SessionRun.step_cases hstep with
  | read received error hreads =>
      simp only [RoomForPongs, Classical.not_imp] at hover
      obtain ⟨hclosed, hover⟩ := hover
      obtain ⟨hstarted, hbusy⟩ := h.busy hreads hclosed
      obtain ⟨pending', hdeaf⟩ :=
        (hbusy.handleRead (h.live hclosed).2 callbacks r.world error received).2 hover
      intro hlistening
      exact hdeaf.not_listening (hlistening hstarted)
  | start | send | stop | written => exact absurd trivial hover

theorem SessionRun.attentive_fresh (id : SessionId) (w : σ) : (SessionRun.fresh id w).Attentive :=
  ⟨fun _ => ⟨rfl, Nat.zero_le _⟩, nofun, fun _ => rfl⟩

end Steps

/-- **A started session listens exactly as long as there is room for its pongs.** In every state of
a run the session is closed or has one read outstanding, if and only if no read of the run asks a
live session for more pongs than its queue can take. -/
theorem session_listening_iff (callbacks : SessionCallbacks σ) (id : SessionId) (w : σ)
    (events : List SessionEvent) :
    Throughout (SessionRun.step callbacks) SessionRun.Listening (SessionRun.fresh id w) events ↔
      EachStep (SessionRun.step callbacks) SessionRun.RoomForPongs (SessionRun.fresh id w)
        events :=
  throughout_iff_eachStep (I := SessionRun.Attentive) (fun _ h => h.started)
    (fun _ _ _ h hstep hroom => SessionRun.attentive_step h hstep hroom)
    (fun _ _ _ h hstep hover => SessionRun.deaf_step h hstep hover)
    (SessionRun.attentive_fresh id w)

/-! ## A client that does not take its pongs -/

/-- A ping, as it comes in. -/
def somePing : Message := ⟨.ping, PingPayload.bytes ⟨0⟩⟩

/-- Pings are received one by one while the write of the first pong makes no progress. -/
def pingsReceived (n : ℕ) : List SessionEvent :=
  .start :: List.replicate n (.read somePing.bytes none)

theorem somePing_parse : (messageReader.parse somePing.bytes).frames = [somePing] := by
  have hfront : messageReader.front somePing.bytes = .frame somePing pongSize := by
    have hwhole : messageReader.front (somePing.bytes ++ []) = .frame somePing pongSize :=
      messageFront_bytes (show somePing.Fits by decide) []
    rw [List.append_nil] at hwhole
    exact hwhole
  have hrest : somePing.bytes.drop pongSize = [] := by decide
  rw [FrameReader.parse_frame hfront, hrest, FrameReader.parse_incomplete (by rfl)]

/-- A started session that has queued the pongs of `n` pings. -/
structure SessionRun.Answered (r : SessionRun Unit) (n : ℕ) : Prop where
  started : r.started = true
  busy : r.session.retireRead.Busy (pongSize * n)
  reads : r.session.readsOutstanding = 1
  buffer : r.session.accumulatedBuffer = []

theorem SessionRun.Answered.reading {r : SessionRun Unit} {n : ℕ} (h : r.Answered n) :
    r.step ⟨none, none⟩ (.read somePing.bytes none) = some { r with
      session :=
        (r.session.retireRead.handleRead ⟨none, none⟩ none somePing.bytes r.world).1
      world := (r.session.retireRead.handleRead ⟨none, none⟩ none somePing.bytes r.world).2 } :=
  SessionRun.step_read ⟨none, none⟩ (by rw [h.reads]; decide) (by decide) none

theorem SessionRun.Answered.step {r : SessionRun Unit} {n : ℕ} (h : r.Answered n)
    (hroom : pongSize * (n + 1) ≤ Session.maxPendingSendBytes) :
    ∃ r', r.step ⟨none, none⟩ (.read somePing.bytes none) = some r' ∧ r'.Answered (n + 1) := by
  obtain ⟨s', hread, hbusy, hbuffer⟩ := h.busy.read_ping h.buffer ⟨none, none⟩ r.world ⟨0⟩ hroom
  refine ⟨_, h.reading, h.started, ?_, ?_, ?_⟩
  all_goals
    dsimp only
    rw [show somePing = ⟨.ping, PingPayload.bytes ⟨0⟩⟩ from rfl, hread]
  · exact ⟨hbusy.live, hbusy.socket, hbusy.pending, rfl⟩
  · exact hbuffer

theorem pingsReceived_answered {n : ℕ} (hroom : pongSize * n ≤ Session.maxPendingSendBytes) :
    ∃ r, runFrom (SessionRun.step ⟨none, none⟩) (SessionRun.fresh 1 ()) (pingsReceived n) = some r ∧
      r.Answered n := by
  induction n with
  | zero => exact ⟨_, rfl, rfl, ⟨rfl, rfl, rfl, rfl⟩, rfl, rfl⟩
  | succ n ih =>
      obtain ⟨r, hrun, hanswered⟩ := ih (le_trans (Nat.mul_le_mul_left _ (Nat.le_succ n)) hroom)
      obtain ⟨r', hstep, hnext⟩ := hanswered.step hroom
      refine ⟨r', ?_, hnext⟩
      rw [pingsReceived, List.replicate_succ', ← List.cons_append, runFrom_concat,
        show runFrom _ _ (_ :: List.replicate n _) = some r from hrun]
      exact hstep

/-- The queue takes the pongs of 21845 pings. With the next ping the session stops listening, and it
is still open. -/
theorem session_deaf : ∃ r,
    runFrom (SessionRun.step ⟨none, none⟩) (SessionRun.fresh 1 ()) (pingsReceived 21846) = some r ∧
      r.session.closed = false ∧ r.session.readsOutstanding = 0 ∧
      ¬ Throughout (SessionRun.step ⟨none, none⟩) SessionRun.Listening (SessionRun.fresh 1 ())
        (pingsReceived 21846) := by
  obtain ⟨r, hrun, hanswered⟩ := pingsReceived_answered (n := 21845) (by decide)
  have hfull : ¬ r.session.retireRead.RoomForPongs somePing.bytes := by
    intro hroom
    have hfits := hroom (by decide)
    rw [show r.session.retireRead.accumulatedBuffer = [] from hanswered.buffer, List.nil_append,
      somePing_parse, hanswered.busy.pending, somePing, pingsToAnswer_ping] at hfits
    revert hfits
    decide
  obtain ⟨pending, hdeaf⟩ := (hanswered.busy.handleRead (by decide) ⟨none, none⟩ r.world none
    somePing.bytes).2 hfull
  have hrun' : runFrom (SessionRun.step ⟨none, none⟩) (SessionRun.fresh 1 ())
      (pingsReceived 21846) = some { r with
        session :=
          (r.session.retireRead.handleRead ⟨none, none⟩ none somePing.bytes r.world).1
        world :=
          (r.session.retireRead.handleRead ⟨none, none⟩ none somePing.bytes r.world).2 } := by
    rw [pingsReceived, List.replicate_succ', ← List.cons_append, runFrom_concat,
      show runFrom _ _ (_ :: List.replicate 21845 _) = some r from hrun]
    exact hanswered.reading
  refine ⟨_, hrun', hdeaf.live, hdeaf.reads, fun hall => ?_⟩
  exact hdeaf.not_listening (hall _ _ (List.prefix_refl _) hrun' hanswered.started)

end NetworkArena.Server
