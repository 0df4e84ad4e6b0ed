/-
# NetworkArena.Client.NetworkClientStreams -- the byte streams of a client, by generation

The counterpart of `Server.SessionStreams` for the client. One client object has a stream for every
connection generation: `out g` are the bytes handed to the connection of generation `g`, `inp g` the
bytes read from it. Of the current generation the same holds as of a session while the client is
connected; the streams of earlier generations can only stop, and those of later ones are empty.

The client calls the application back from inside its handlers, and the application may call the
client again. `Survives P` is what a property needs to survive that: it is kept by the three public
calls that change anything. From there every handler is followed once (`Handled`).
-/
import NetworkArena.Client.NetworkClient

namespace NetworkArena.Client

open NetworkArena.Foundation
open NetworkArena.Shared

variable {α : Type}

namespace NetworkClient

/-- The messages accepted on the connection of a generation. -/
def acceptedIn (c : NetworkClient) (generation : ℕ) : List Message :=
  (c.accepted.filter (·.1 = generation)).map (·.2)

/-- The messages dispatched on the connection of a generation. -/
def dispatchedIn (c : NetworkClient) (generation : ℕ) : List Message :=
  (c.dispatched.filter (·.1 = generation)).map (·.2)

/-- The writes of a generation. -/
def opsIn (generation : ℕ) (writes : List ClientWrite) : List (WriteOp UInt8) :=
  (writes.filter (·.generation = generation)).map (·.op)

theorem opsIn_append (g : ℕ) (writes more : List ClientWrite) :
    opsIn g (writes ++ more) = opsIn g writes ++ opsIn g more := by
  rw [opsIn, List.filter_append, List.map_append]
  rfl

theorem opsIn_singleton {g : ℕ} {w : ClientWrite} (h : w.generation = g) :
    opsIn g [w] = [w.op] := by
  simp [opsIn, h]

theorem opsIn_singleton_ne {g : ℕ} {w : ClientWrite} (h : w.generation ≠ g) :
    opsIn g [w] = [] := by
  simp [opsIn, h]

theorem opsIn_eq_nil {g : ℕ} {writes : List ClientWrite} (h : ∀ w ∈ writes, w.generation ≠ g) :
    opsIn g writes = [] := by
  rw [opsIn, List.map_eq_nil_iff, List.filter_eq_nil_iff]
  intro w hw
  simpa using h w hw

theorem mem_opsIn {g : ℕ} {writes : List ClientWrite} {op : WriteOp UInt8} :
    op ∈ opsIn g writes ↔ ⟨g, op⟩ ∈ writes := by
  simp only [opsIn, List.mem_map, List.mem_filter, decide_eq_true_eq]
  constructor
  · rintro ⟨w, ⟨hw, rfl⟩, rfl⟩
    exact hw
  · intro hw
    exact ⟨_, ⟨hw, rfl⟩, rfl⟩

/-- The outstanding writes of a generation. -/
def writesIn (c : NetworkClient) (generation : ℕ) : List (WriteOp UInt8) :=
  opsIn generation c.writesOutstanding

/-! ## Sending, spelled out -/

/-- What an accepted message does to the client. -/
def enqueue (c : NetworkClient) (message : Message) : NetworkClient :=
  { c.recordPacketLog ⟨.send, message.type, message.payload.length⟩ with
    sendQueue := c.sendQueue ++ [message.bytes]
    pendingSendBytes := c.pendingSendBytes + message.bytes.length
    accepted := c.accepted ++ [(c.connectionGeneration, message)]
    traffic := c.traffic ++ [Traffic.sent message]
    writesOutstanding :=
      if c.sendQueue.isEmpty then
        c.writesOutstanding ++ [⟨c.connectionGeneration, ⟨message.bytes, 0⟩⟩]
      else c.writesOutstanding }

/-- The messages `Send` accepts in a given state. -/
structure Accepts (c : NetworkClient) (message : Message) : Prop where
  connected : c.connectionState = .connected
  socket : c.socketOpen = true
  sendable : isSendable message.type = true
  fits : message.Fits
  room : c.pendingSendBytes + message.bytes.length ≤ maxPendingSendBytes

theorem writeNext_current {c : NetworkClient} {generation : ℕ} {front : List UInt8}
    {rest : List (List UInt8)} (hcurrent : c.isCurrentOperation generation .connected = true)
    (hsocket : c.socketOpen = true) (hqueue : c.sendQueue = front :: rest) :
    c.writeNext generation =
      { c with writesOutstanding := c.writesOutstanding ++ [⟨generation, ⟨front, 0⟩⟩] } := by
  simp [writeNext, hcurrent, hsocket, hqueue]

theorem send_accepted {c : NetworkClient} {message : Message} (h : c.Accepts message) :
    c.send message.type message.payload = (true, c.enqueue message) := by
  obtain ⟨hconnected, hsocket, hsendable, hfits, hroom⟩ := h
  have hlimit : (decide (c.pendingSendBytes > maxPendingSendBytes) ||
      decide (message.bytes.length > maxPendingSendBytes - c.pendingSendBytes)) = false := by
    simp only [Bool.or_eq_false_iff, decide_eq_false_iff_not]
    omega
  rw [send]
  simp only [hconnected, bne_self_eq_false, hsocket, hsendable, Message.encode_get, if_pos hfits,
    hlimit, Bool.not_true, Bool.false_eq_true, if_false, Bool.not_not]
  cases hqueue : c.sendQueue with
  | nil =>
      simp [enqueue, writeNext, isCurrentOperation, recordPacketLog, hqueue, hconnected, hsocket]
  | cons front rest => simp [enqueue, recordPacketLog, hqueue, hconnected, hsocket]

theorem send_refused {c : NetworkClient} {message : Message} (h : ¬ c.Accepts message) :
    ∃ diagnostics, c.send message.type message.payload =
      (false, { c with diagnostics := diagnostics }) := by
  rw [send]
  by_cases hconnected : c.connectionState = .connected
  · rw [if_neg (by simp [hconnected])]
    by_cases hsocket : c.socketOpen = true
    · rw [if_neg (by simp [hsocket])]
      by_cases hsendable : isSendable message.type = true
      · rw [if_neg (by simp [hsendable]), Message.encode_get]
        by_cases hfits : message.Fits
        · have hroom : ¬ c.pendingSendBytes + message.bytes.length ≤ maxPendingSendBytes :=
            fun hroom => h ⟨hconnected, hsocket, hsendable, hfits, hroom⟩
          have hlimit : (decide (c.pendingSendBytes > maxPendingSendBytes) ||
              decide (message.bytes.length > maxPendingSendBytes - c.pendingSendBytes)) = true := by
            simp only [Bool.or_eq_true, decide_eq_true_eq]
            omega
          simp only [if_pos hfits, Bool.not_true, Bool.false_eq_true, if_false, if_pos hlimit]
          exact ⟨_, rfl⟩
        · simp only [if_neg hfits, Bool.not_false, if_true]
          exact ⟨_, rfl⟩
      · exact ⟨_, if_pos (by simpa using hsendable)⟩
    · exact ⟨c.diagnostics, if_pos (by simpa using hsocket)⟩
  · exact ⟨c.diagnostics, if_pos (by simpa using hconnected)⟩

/-- `Send` in one line: it accepts and enqueues, or prints. -/
theorem send_cases (c : NetworkClient) (type : MessageType) (payload : List UInt8) :
    (c.Accepts ⟨type, payload⟩ ∧ c.send type payload = (true, c.enqueue ⟨type, payload⟩)) ∨
      (¬ c.Accepts ⟨type, payload⟩ ∧ ∃ diagnostics, c.send type payload =
        (false, { c with diagnostics := diagnostics })) := by
  by_cases h : c.Accepts ⟨type, payload⟩
  · exact Or.inl ⟨h, send_accepted h⟩
  · exact Or.inr ⟨h, send_refused h⟩

/-- **A refused message leaves no trace** in the queue, the counter or the history. -/
theorem send_false (c : NetworkClient) (type : MessageType) (payload : List UInt8)
    (h : (c.send type payload).1 = false) :
    (c.send type payload).2.sendQueue = c.sendQueue ∧
      (c.send type payload).2.pendingSendBytes = c.pendingSendBytes ∧
      (c.send type payload).2.accepted = c.accepted := by
  rcases send_cases c type payload with ⟨-, hsend⟩ | ⟨-, diagnostics, hsend⟩
  · rw [hsend] at h
    cases h
  · rw [hsend]
    exact ⟨rfl, rfl, rfl⟩

/-- An accepted message is the last of its generation's history. -/
theorem send_true (c : NetworkClient) (type : MessageType) (payload : List UInt8)
    (h : (c.send type payload).1 = true) :
    (c.send type payload).2.accepted =
      c.accepted ++ [(c.connectionGeneration, ⟨type, payload⟩)] := by
  rcases send_cases c type payload with ⟨-, hsend⟩ | ⟨-, diagnostics, hsend⟩
  · rw [hsend]
    rfl
  · rw [hsend] at h
    cases h

/-! ## What survives the application -/

/-- A property that survives every public call an application can make. Reading the clock and
printing are what `SendPing` and `SendPlayerInput` do besides sending. -/
structure Survives (P : NetworkClient → Prop) : Prop where
  connect : ∀ {c} host port callbacks, P c → P (c.connect host port callbacks).2
  disconnect : ∀ {c}, P c → P c.disconnect.2
  send : ∀ {c} type payload, P c → P (c.send type payload).2
  report : ∀ {c} diagnostic, P c → P (c.report diagnostic)
  readClock : ∀ {c} clock, P c → P (c.readClock clock).2
  /-- The list of invocations is a history only. -/
  invocations : ∀ {c : NetworkClient} invocations, P c → P { c with invocations := invocations }

section Survives

variable {P : NetworkClient → Prop} (hP : Survives P) {c : NetworkClient}

include hP

theorem Survives.sendPing (clock : ℕ → UInt64) (h : P c) : P (c.sendPing clock).2 := by
  unfold NetworkClient.sendPing
  split
  · exact h
  · exact hP.send _ _ (hP.readClock clock h)

theorem Survives.sendPlayerInput (input : PlayerInputPayload) (h : P c) :
    P (c.sendPlayerInput input).2 := by
  unfold NetworkClient.sendPlayerInput
  split
  · exact h
  · split
    · exact hP.report _ h
    · split
      split
      · exact hP.report _ h
      · exact hP.send _ _ h

theorem Survives.run (clock : ℕ → UInt64) (call : ApiCall) (h : P c) : P (call.run clock c) := by
  cases call with
  | connect host port callbacks => exact hP.connect host port callbacks h
  | disconnect => exact hP.disconnect h
  | send message => exact hP.send _ _ h
  | sendPing => exact hP.sendPing clock h
  | sendPlayerInput input => exact hP.sendPlayerInput input h

theorem Survives.calls (clock : ℕ → UInt64) (calls : List ApiCall) (h : P c) :
    P (calls.foldl (ApiCall.run clock) c) := by
  induction calls generalizing c with
  | nil => exact h
  | cons call calls ih => exact ih (hP.run clock call h)

/-- **An invocation of the application** preserves what survives its calls. -/
theorem Survives.invoke (env : ClientEnvironment α) (callback : Option ℕ)
    (invocation : Invocation) (a : α) (h : P c) : P (c.invoke env callback invocation a).1 := by
  unfold NetworkClient.invoke
  cases callback with
  | none => exact h
  | some attempt => exact hP.calls env.clock _ (hP.invocations _ h)

end Survives

/-! ## Completions asio delivers -/

/-- asio is done with a read of a generation. -/
def retireRead (c : NetworkClient) (generation : ℕ) : NetworkClient :=
  { c with readsOutstanding := c.readsOutstanding.erase generation }

def retireResolve (c : NetworkClient) (generation : ℕ) : NetworkClient :=
  { c with resolvesOutstanding := c.resolvesOutstanding.erase generation }

def retireConnect (c : NetworkClient) (generation : ℕ) : NetworkClient :=
  { c with connectsOutstanding := c.connectsOutstanding.erase generation }

/-- asio is done with the `i`-th outstanding write. -/
def retireWrite (c : NetworkClient) (i : ℕ) : NetworkClient :=
  { c with writesOutstanding := c.writesOutstanding.eraseIdx i }

def retirePosted (c : NetworkClient) (i : ℕ) : NetworkClient :=
  { c with posted := c.posted.eraseIdx i }

/-- The connection has taken `count` more bytes from the `i`-th outstanding write. -/
def transfer (c : NetworkClient) (i count : ℕ) : NetworkClient :=
  { c with
    writesOutstanding :=
      c.writesOutstanding.modify i fun w => { w with op := w.op.advance count } }

/-! ## What a dispatch leaves alone -/

/-- Two clients that differ only in what dispatching a message may change. -/
structure SameConnection (c c' : NetworkClient) : Prop where
  state : c'.connectionState = c.connectionState
  generation : c'.connectionGeneration = c.connectionGeneration
  socket : c'.socketOpen = c.socketOpen
  reads : c'.readsOutstanding = c.readsOutstanding
  writes : c'.writesOutstanding = c.writesOutstanding
  queue : c'.sendQueue = c.sendQueue
  pending : c'.pendingSendBytes = c.pendingSendBytes
  accepted : c'.accepted = c.accepted
  buffer : c'.accumulatedBuffer = c.accumulatedBuffer

theorem SameConnection.refl (c : NetworkClient) : SameConnection c c :=
  ⟨rfl, rfl, rfl, rfl, rfl, rfl, rfl, rfl, rfl⟩

theorem SameConnection.trans {c c' c'' : NetworkClient} (h : SameConnection c c')
    (h' : SameConnection c' c'') : SameConnection c c'' :=
  ⟨h'.state.trans h.state, h'.generation.trans h.generation, h'.socket.trans h.socket,
    h'.reads.trans h.reads, h'.writes.trans h.writes, h'.queue.trans h.queue,
    h'.pending.trans h.pending, h'.accepted.trans h.accepted, h'.buffer.trans h.buffer⟩

theorem post_eq (c : NetworkClient) (callback : Option ℕ) (invocation : Invocation) :
    ∃ posted, c.post callback invocation = { c with posted := posted } := by
  cases callback with
  | none => exact ⟨_, rfl⟩
  | some attempt => exact ⟨_, rfl⟩

/-- What dispatching a message may change. Only a pong is measured. -/
theorem dispatchMessage_eq (clock : ℕ → UInt64) (header : MessageHeader) (payload : List UInt8)
    (c : NetworkClient) : ∃ identity rtt posted clockReads diagnostics,
      (c.dispatchMessage clock header payload).2 = { c with
        playerIdentity := identity
        latestRttNanoseconds := rtt
        posted := posted
        clockReads := clockReads
        diagnostics := diagnostics
        dispatched := c.dispatched ++ [(c.connectionGeneration, ⟨header.type, payload⟩)]
        traffic := c.traffic ++ [Traffic.received ⟨header.type, payload⟩ c.clockReads] } ∧
      c.clockReads ≤ clockReads ∧ (header.type ≠ .pong → rtt = c.latestRttNanoseconds) := by
  unfold dispatchMessage
  dsimp only
  split
  · next hpong =>
      unfold handlePong readClock
      split
      split
      · exact ⟨_, _, _, _, _, rfl, Nat.le_refl _, fun hother => absurd hpong hother⟩
      · dsimp only
        split
        · exact ⟨_, _, _, _, _, rfl, Nat.le_succ _, fun hother => absurd hpong hother⟩
        · exact ⟨_, _, _, _, _, rfl, Nat.le_succ _, fun hother => absurd hpong hother⟩
  split
  · unfold handlePlayerIdentity
    split
    split
    · exact ⟨_, _, _, _, _, rfl, Nat.le_refl _, fun _ => rfl⟩
    · dsimp only
      obtain ⟨posted, hsome⟩ := post_eq { c with
        dispatched := c.dispatched ++ [(c.connectionGeneration, ⟨header.type, payload⟩)]
        traffic := c.traffic ++ [Traffic.received ⟨header.type, payload⟩ c.clockReads]
        playerIdentity := some ‹PlayerIdentityPayload› } c.onPlayerIdentity
          (.playerIdentity ‹PlayerIdentityPayload›)
      rw [hsome]
      exact ⟨_, _, _, _, _, rfl, Nat.le_refl _, fun _ => rfl⟩
  split
  · unfold handleWorldStateSnapshot
    split
    split
    · exact ⟨_, _, _, _, _, rfl, Nat.le_refl _, fun _ => rfl⟩
    · dsimp only
      split
      · exact ⟨_, _, _, _, _, rfl, Nat.le_refl _, fun _ => rfl⟩
      · split
        · exact ⟨_, _, _, _, _, rfl, Nat.le_refl _, fun _ => rfl⟩
        · obtain ⟨posted, hsome⟩ := post_eq { c with
            dispatched := c.dispatched ++ [(c.connectionGeneration, ⟨header.type, payload⟩)]
            traffic := c.traffic ++ [Traffic.received ⟨header.type, payload⟩ c.clockReads] }
              c.onWorldStateSnapshot (.worldStateSnapshot ‹WorldStateSnapshot FloatBits›)
          rw [hsome]
          exact ⟨_, _, _, _, _, rfl, Nat.le_refl _, fun _ => rfl⟩
  · exact ⟨_, _, _, _, _, rfl, Nat.le_refl _, fun _ => rfl⟩

/-- The loop logs a message before it is dispatched. -/
theorem dispatchOn_eq (env : ClientEnvironment α) (message : Message) (c : NetworkClient) (a : α) :
    ∃ identity rtt posted clockReads diagnostics,
      (dispatchOn env message (c, a)).2.1 = { c with
        playerIdentity := identity
        latestRttNanoseconds := rtt
        posted := posted
        clockReads := clockReads
        diagnostics := diagnostics
        packetLog :=
          (c.recordPacketLog ⟨.receive, message.type, message.payload.length⟩).packetLog
        dispatched := c.dispatched ++ [(c.connectionGeneration, message)]
        traffic := c.traffic ++ [Traffic.received message c.clockReads] } ∧
      c.clockReads ≤ clockReads ∧ (message.type ≠ .pong → rtt = c.latestRttNanoseconds) := by
  obtain ⟨identity, rtt, posted, clockReads, diagnostics, hafter, hreads, hother⟩ :=
    dispatchMessage_eq env.clock message.header message.payload
      (c.recordPacketLog ⟨.receive, message.type, message.payload.length⟩)
  exact ⟨identity, rtt, posted, clockReads, diagnostics, hafter, hreads, hother⟩

theorem dispatchOn_frame (env : ClientEnvironment α) (message : Message)
    (t : NetworkClient × α) :
    SameConnection t.1 (dispatchOn env message t).2.1 ∧
      (dispatchOn env message t).2.1.dispatched =
        t.1.dispatched ++ [(t.1.connectionGeneration, message)] := by
  obtain ⟨identity, rtt, posted, clockReads, diagnostics, hafter, -⟩ :=
    dispatchOn_eq env message t.1 t.2
  rw [show (dispatchOn env message t).2.1 = _ from hafter]
  exact ⟨⟨rfl, rfl, rfl, rfl, rfl, rfl, rfl, rfl, rfl⟩, rfl⟩

/-- Dispatching all the messages of a buffer. -/
theorem drain_frame (env : ClientEnvironment α) (bytes : List UInt8) (c : NetworkClient) (a : α) :
    SameConnection c (messageReader.drain (dispatchOn env) bytes (c, a)).state.1 ∧
      (messageReader.drain (dispatchOn env) bytes (c, a)).state.2 = a := by
  refine FrameReader.drain_preserves (dispatchOn env)
    (P := fun t : NetworkClient × α => SameConnection c t.1 ∧ t.2 = a) ?_ bytes ⟨.refl c, rfl⟩
  rintro message t ⟨h, ha⟩
  obtain ⟨hsame, -⟩ := dispatchOn_frame env message t
  exact ⟨h.trans hsame, ha⟩

/-- **What a client makes of received bytes.** -/
theorem processReceivedData_get (env : ClientEnvironment α) (received : List UInt8)
    (generation : ℕ) (c : NetworkClient) (a : α)
    (hin : (c.processReceivedData env received generation a).InBounds) :
    (c.processReceivedData env received generation a).get hin =
      match messageReader.drain (dispatchOn env) (c.accumulatedBuffer ++ received)
          ({ c with accumulatedBuffer := c.accumulatedBuffer ++ received }, a) with
      | ⟨.waiting, rest, c, a⟩ => (true, { c with accumulatedBuffer := rest }, a)
      | ⟨.malformed, rest, c, a⟩ =>
        (false, { c with accumulatedBuffer := rest }.completeDisconnection env .messageSize
          generation a)
      | ⟨.rejected, rest, c, a⟩ =>
        (false, { c with accumulatedBuffer := rest }.completeDisconnection env .protocolError
          generation a) :=
  Checked.get_eq (processMessages_eq env generation _ a) hin

/-! ## What handlers keep -/

/-- A callback is noted as invoked, unless it is empty. -/
def noted (c : NetworkClient) (callback : Option ℕ) (invocation : Invocation) : NetworkClient :=
  { c with invocations := c.invocations ++ callback.toList.map (·, invocation) }

/-- An invocation is noted, and then the application makes its calls. -/
theorem invoke_calls (env : ClientEnvironment α) (callback : Option ℕ) (invocation : Invocation)
    (c : NetworkClient) (a : α) : ∃ calls a', c.invoke env callback invocation a =
      (List.foldl (ApiCall.run env.clock) (c.noted callback invocation) calls, a') := by
  cases callback with
  | none =>
      refine ⟨[], a, ?_⟩
      simp only [invoke, noted, Option.toList_none, List.map_nil, List.append_nil, List.foldl_nil]
  | some attempt => exact ⟨_, _, rfl⟩

/-- What two properties of clients need for the handlers, those of writes and posted callbacks
apart, to take a client with the first to one with the second. The first holds until the application
is called back, the second from then on. -/
structure Handled (env : ClientEnvironment α) (P Q : NetworkClient → Prop) : Prop where
  weaken : ∀ {c}, P c → Q c
  calls : ∀ {c} calls, Q c → Q (List.foldl (ApiCall.run env.clock) c calls)
  reads : ∀ {c : NetworkClient} reads,
    (∀ g ∈ reads, g ∈ c.readsOutstanding ∨ g = c.connectionGeneration) → Q c →
      Q { c with readsOutstanding := reads }
  dispatch : ∀ {c} (message : Message) (a : α), c.connectionState = .connected → P c →
    P (dispatchOn env message (c, a)).2.1
  buffer : ∀ {c : NetworkClient} bytes, P c → P { c with accumulatedBuffer := bytes }
  resolved : ∀ {c : NetworkClient}, c.connectionState = .resolving → P c → P { c with
    connectionState := .connecting
    socketOpen := true
    connectsOutstanding := c.connectsOutstanding ++ [c.connectionGeneration] }
  connected : ∀ {c : NetworkClient}, c.connectionState = .connecting → P c →
    Q (noted { c with
        connectionState := .connected, onConnected := none, onConnectionFailed := none }
      c.onConnected .connected)
  failed : ∀ {c : NetworkClient} error,
    c.connectionState = .resolving ∨ c.connectionState = .connecting → P c →
    Q (noted { c with
      connectionState := .disconnected
      socketOpen := false
      accumulatedBuffer := []
      sendQueue := []
      pendingSendBytes := 0
      playerIdentity := none
      latestRttNanoseconds := none
      onConnectionFailed := none
      onConnected := none
      onDisconnected := none
      onPlayerIdentity := none
      onWorldStateSnapshot := none } c.onConnectionFailed (.connectionFailed error))
  ended : ∀ {c : NetworkClient} error, c.connectionState = .connected → P c →
    Q (noted { c with
      connectionState := .disconnected
      disconnections := c.disconnections ++ [(c.connectionGeneration, error)]
      socketOpen := false
      accumulatedBuffer := []
      sendQueue := []
      pendingSendBytes := 0
      playerIdentity := none
      latestRttNanoseconds := none
      onDisconnected := none
      onPlayerIdentity := none
      onWorldStateSnapshot := none } c.onDisconnected (.disconnected error))

section Handled

variable {env : ClientEnvironment α} {P Q : NetworkClient → Prop} (hP : Handled env P Q)
  {c : NetworkClient}

include hP

theorem Handled.invoke (callback : Option ℕ) (invocation : Invocation) (a : α)
    (h : Q (c.noted callback invocation)) : Q (c.invoke env callback invocation a).1 := by
  obtain ⟨calls, a', hinvoke⟩ := invoke_calls env callback invocation c a
  rw [hinvoke]
  exact hP.calls calls h

theorem Handled.readNext (generation : ℕ) (h : Q c) : Q (c.readNext generation) := by
  unfold NetworkClient.readNext
  split
  · exact h
  split
  · exact h
  next hcurrent =>
  simp only [isCurrentOperation, Bool.not_eq_true', Bool.not_eq_false, Bool.and_eq_true,
    beq_iff_eq] at hcurrent
  refine hP.reads _ (fun g hg => ?_) h
  rcases List.mem_append.mp hg with hg | hg
  · exact Or.inl hg
  · exact Or.inr ((List.mem_singleton.mp hg).trans hcurrent.1)

theorem Handled.completeDisconnection (error : ErrorCode) (generation : ℕ) (a : α) (h : P c) :
    Q (c.completeDisconnection env error generation a).1 := by
  unfold NetworkClient.completeDisconnection
  split
  · exact hP.weaken h
  next hcurrent =>
  simp only [isCurrentOperation, Bool.not_eq_true', Bool.not_eq_false, Bool.and_eq_true,
    beq_iff_eq] at hcurrent
  obtain ⟨rfl, hconnected⟩ := hcurrent
  have hended := hP.ended error hconnected h
  exact hP.invoke _ _ a hended

theorem Handled.completeConnectionFailure (error : ErrorCode) (generation : ℕ) (a : α)
    (hopening : c.connectionState = .resolving ∨ c.connectionState = .connecting) (h : P c) :
    Q (c.completeConnectionFailure env error generation a).1 := by
  unfold NetworkClient.completeConnectionFailure
  split
  · exact hP.weaken h
  · have hfailed := hP.failed error hopening h
    exact hP.invoke _ _ a hfailed

theorem Handled.handleResolve (error : Option ErrorCode) (generation : ℕ) (a : α) (h : P c) :
    Q (c.handleResolve env error generation a).1 := by
  unfold NetworkClient.handleResolve
  split
  · exact hP.weaken h
  next hcurrent =>
  simp only [isCurrentOperation, Bool.not_eq_true', Bool.not_eq_false, Bool.and_eq_true,
    beq_iff_eq] at hcurrent
  obtain ⟨rfl, hresolving⟩ := hcurrent
  cases error with
  | some error => exact hP.completeConnectionFailure error _ a (Or.inl hresolving) h
  | none => exact hP.weaken (hP.resolved hresolving h)

theorem Handled.handleConnect (error : Option ErrorCode) (generation : ℕ) (a : α) (h : P c) :
    Q (c.handleConnect env error generation a).1 := by
  unfold NetworkClient.handleConnect
  split
  · exact hP.weaken h
  next hcurrent =>
  simp only [isCurrentOperation, Bool.not_eq_true', Bool.not_eq_false, Bool.and_eq_true,
    beq_iff_eq] at hcurrent
  obtain ⟨rfl, hconnecting⟩ := hcurrent
  cases error with
  | some error => exact hP.completeConnectionFailure error _ a (Or.inr hconnecting) h
  | none =>
      have hconnected := hP.connected hconnecting h
      have hcalled := hP.invoke _ _ a hconnected
      dsimp only
      split
      · exact hP.readNext _ hcalled
      · exact hcalled

theorem Handled.processReceivedData (received : List UInt8) (generation : ℕ) (a : α)
    (hconnected : c.connectionState = .connected)
    (hin : (c.processReceivedData env received generation a).InBounds) (h : P c) :
    Q ((c.processReceivedData env received generation a).get hin).2.1 ∧
      (((c.processReceivedData env received generation a).get hin).1 = true →
        P ((c.processReceivedData env received generation a).get hin).2.1) := by
  have hdrain : P (messageReader.drain (dispatchOn env) (c.accumulatedBuffer ++ received)
      ({ c with accumulatedBuffer := c.accumulatedBuffer ++ received }, a)).state.1 := by
    have hbuffered := hP.buffer (c.accumulatedBuffer ++ received) h
    refine (FrameReader.drain_preserves (dispatchOn env)
      (P := fun t : NetworkClient × α => P t.1 ∧ t.1.connectionState = .connected) ?_ _
      ⟨hbuffered, hconnected⟩).1
    rintro message ⟨c', a'⟩ ⟨h', hconnected'⟩
    exact ⟨hP.dispatch message a' hconnected' h',
      (dispatchOn_frame env message (c', a')).1.state.trans hconnected'⟩
  rw [processReceivedData_get]
  revert hdrain
  rcases messageReader.drain (dispatchOn env) (c.accumulatedBuffer ++ received)
    ({ c with accumulatedBuffer := c.accumulatedBuffer ++ received }, a)
    with ⟨verdict, rest, c', a'⟩
  intro hdrain
  have hrest := hP.buffer rest hdrain
  cases verdict with
  | waiting => exact ⟨hP.weaken hrest, fun _ => hrest⟩
  | malformed => exact ⟨hP.completeDisconnection _ generation a' hrest, nofun⟩
  | rejected => exact ⟨hP.completeDisconnection _ generation a' hrest, nofun⟩

/-- **A read** needs what dispatching and disconnecting need. -/
theorem Handled.handleRead (error : Option ErrorCode) (received : List UInt8) (generation : ℕ)
    (a : α) (h : P c) : Q (c.handleRead env error received generation a).1 := by
  unfold NetworkClient.handleRead
  split
  · exact hP.weaken h
  next hcurrent =>
  have hconnected : c.connectionState = .connected := by
    simp only [isCurrentOperation, Bool.not_eq_true', Bool.not_eq_false, Bool.and_eq_true,
      beq_iff_eq] at hcurrent
    exact hcurrent.2
  have hprocessed : ∀ t : Bool × NetworkClient × α, t = (if received.length > 0 then
      (c.processReceivedData env received generation a).get
        (processReceivedData_inBounds env received generation c a)
      else (true, c, a)) → Q t.2.1 ∧ (t.1 = true → P t.2.1) := by
    intro t ht
    rw [ht]
    split
    · exact hP.processReceivedData received generation a hconnected _ h
    · exact ⟨hP.weaken h, fun _ => h⟩
  have hboth := hprocessed _ rfl
  revert hboth
  rcases (if received.length > 0 then
      (c.processReceivedData env received generation a).get
        (processReceivedData_inBounds env received generation c a)
      else (true, c, a)) with ⟨processed, c', a'⟩
  rintro ⟨hafter, hbefore⟩
  dsimp only
  split
  · exact hafter
  next hok =>
  cases error with
  | none => exact hP.readNext generation hafter
  | some error => exact hP.completeDisconnection error generation a' (hbefore (by simpa using hok))

/-- **A completed write**, where the queue and what is printed do not matter. -/
theorem Handled.handleWrite
    (hqueue : ∀ {c : NetworkClient} queue pending writes diagnostics, P c → P { c with
      sendQueue := queue
      pendingSendBytes := pending
      writesOutstanding := writes
      diagnostics := diagnostics })
    (error : Option ErrorCode) (bytesTransferred generation : ℕ) (a : α) (h : P c) :
    Q (c.handleWrite env error bytesTransferred generation a).1 := by
  have hreport : ∀ diagnostic, P (c.report diagnostic) := fun diagnostic =>
    hqueue c.sendQueue c.pendingSendBytes c.writesOutstanding _ h
  unfold NetworkClient.handleWrite
  split
  · exact hP.weaken h
  cases error with
  | some error => exact hP.completeDisconnection _ _ _ (hreport _)
  | none =>
      dsimp only
      split
      · exact hP.completeDisconnection _ _ _ (hreport _)
      next front rest hfront =>
      split
      · exact hP.completeDisconnection _ _ _ (hreport _)
      split
      · exact hP.completeDisconnection _ _ _ (hreport _)
      have hdone := hqueue rest (c.pendingSendBytes - front.length) c.writesOutstanding
        c.diagnostics h
      split
      · unfold NetworkClient.writeNext
        split
        · exact hP.weaken hdone
        split
        · exact hP.weaken hdone
        split
        · exact hP.weaken hdone
        · have hwriting := hqueue rest (c.pendingSendBytes - front.length)
            (c.writesOutstanding ++ [⟨generation, ⟨‹List UInt8›, 0⟩⟩]) c.diagnostics h
          exact hP.weaken hwriting
      split
      · have hreported := hqueue rest (c.pendingSendBytes - front.length) c.writesOutstanding
          (c.diagnostics ++ [.pendingSendByteCountRemained (c.pendingSendBytes - front.length)]) h
        exact hP.completeDisconnection _ _ _ hreported
      · exact hP.weaken hdone

end Handled

/-! ## The send side -/

structure SendSide (c : NetworkClient) (out : ℕ → List UInt8) : Prop where
  fits : ∀ p ∈ c.accepted, p.2.Fits
  past : ∀ p ∈ c.accepted, p.1 ≤ c.connectionGeneration
  writesPast : ∀ w ∈ c.writesOutstanding, w.generation ≤ c.connectionGeneration
  sent : ∀ g, out g <+: (c.acceptedIn g).flatMap Message.bytes
  socket : c.connectionState = .connecting ∨ c.connectionState = .connected →
    c.socketOpen = true
  noSocket : c.connectionState = .disconnected ∨ c.connectionState = .resolving →
    c.socketOpen = false
  opening : c.connectionState = .resolving ∨ c.connectionState = .connecting →
    c.sendQueue = [] ∧ c.writesIn c.connectionGeneration = [] ∧
      c.acceptedIn c.connectionGeneration = []
  inOrder : c.connectionState = .connected → ∃ remaining,
    SingleWriter c.sendQueue (c.writesIn c.connectionGeneration) remaining ∧
      out c.connectionGeneration ++ remaining =
        (c.acceptedIn c.connectionGeneration).flatMap Message.bytes

theorem sendSide_initial : SendSide {} fun _ => [] where
  fits := nofun
  past := nofun
  writesPast := nofun
  sent _ := List.nil_prefix
  socket h := by rcases h with h | h <;> cases h
  noSocket _ := rfl
  opening h := by rcases h with h | h <;> cases h
  inOrder := nofun

section SendSide

variable {c c' : NetworkClient} {out : ℕ → List UInt8}

theorem SendSide.of_same (h : SendSide c out) (hsame : SameConnection c c') : SendSide c' out := by
  have haccepted : ∀ g, c'.acceptedIn g = c.acceptedIn g := fun g => by
    rw [acceptedIn, acceptedIn, hsame.accepted]
  have hwrites : ∀ g, c'.writesIn g = c.writesIn g := fun g => by
    rw [writesIn, writesIn, hsame.writes]
  constructor
  · rw [hsame.accepted]; exact h.fits
  · rw [hsame.accepted, hsame.generation]; exact h.past
  · rw [hsame.writes, hsame.generation]; exact h.writesPast
  · intro g; rw [haccepted]; exact h.sent g
  · rw [hsame.state, hsame.socket]; exact h.socket
  · rw [hsame.state, hsame.socket]; exact h.noSocket
  · rw [hsame.state, hsame.generation, hsame.queue, hwrites, haccepted]; exact h.opening
  · rw [hsame.state, hsame.generation, hsame.queue, hwrites, haccepted]; exact h.inOrder

/-- Losing the connection: what was sent stays sent, and nothing more follows. -/
theorem SendSide.lost (h : SendSide c out) (hstate : c'.connectionState = .disconnected)
    (hsocket : c'.socketOpen = false) (haccepted : c'.accepted = c.accepted)
    (hwrites : ∀ w ∈ c'.writesOutstanding, w ∈ c.writesOutstanding)
    (hgeneration : c.connectionGeneration ≤ c'.connectionGeneration) : SendSide c' out where
  fits := haccepted ▸ h.fits
  past p hp := (h.past p (haccepted ▸ hp)).trans hgeneration
  writesPast w hw := (h.writesPast w (hwrites w hw)).trans hgeneration
  sent g := by rw [acceptedIn, haccepted]; exact h.sent g
  socket hopen := by rw [hstate] at hopen; rcases hopen with hopen | hopen <;> cases hopen
  noSocket _ := hsocket
  opening hopen := by rw [hstate] at hopen; rcases hopen with hopen | hopen <;> cases hopen
  inOrder hopen := by rw [hstate] at hopen; cases hopen

/-- No message has been accepted on a connection that is still to come. -/
theorem SendSide.future (h : SendSide c out) {g : ℕ} (hg : c.connectionGeneration < g) :
    c.acceptedIn g = [] ∧ c.writesIn g = [] := by
  constructor
  · rw [acceptedIn, List.filter_eq_nil_iff.mpr, List.map_nil]
    intro p hp hpg
    have hpast := h.past p hp
    simp only [decide_eq_true_eq] at hpg
    omega
  · apply opsIn_eq_nil
    intro w hw hwg
    have hpast := h.writesPast w hw
    omega

theorem SendSide.connect (h : SendSide c out) (host : String) (port : UInt16)
    (callbacks : SuppliedCallbacks) : SendSide (c.connect host port callbacks).2 out := by
  unfold NetworkClient.connect
  split
  · exact h
  next hstate =>
  split
  · exact h
  obtain ⟨haccepted, hwrites⟩ := h.future (Nat.lt_succ_self c.connectionGeneration)
  have hdisconnected : c.connectionState = .disconnected := by simpa using hstate
  exact {
    fits := h.fits
    past := fun p hp => (h.past p hp).trans (Nat.le_succ _)
    writesPast := fun w hw => (h.writesPast w hw).trans (Nat.le_succ _)
    sent := h.sent
    socket := fun hopen => by rcases hopen with hopen | hopen <;> cases hopen
    noSocket := fun _ => h.noSocket (Or.inl hdisconnected)
    opening := fun _ => ⟨rfl, hwrites, haccepted⟩
    inOrder := nofun }

theorem SendSide.disconnect (h : SendSide c out) : SendSide c.disconnect.2 out := by
  unfold NetworkClient.disconnect
  split
  · exact h
  · exact h.lost rfl rfl rfl (fun _ hw => hw) (Nat.le_succ _)

theorem acceptedIn_enqueue (c : NetworkClient) (message : Message) (g : ℕ) :
    (c.enqueue message).acceptedIn g =
      c.acceptedIn g ++ if g = c.connectionGeneration then [message] else [] := by
  by_cases hg : g = c.connectionGeneration
  · simp [acceptedIn, enqueue, hg]
  · have hne : ¬ c.connectionGeneration = g := fun h => hg h.symm
    simp [acceptedIn, enqueue, hg, hne]

theorem writesIn_enqueue (c : NetworkClient) (message : Message) :
    (c.enqueue message).writesIn c.connectionGeneration =
      if c.sendQueue = [] then c.writesIn c.connectionGeneration ++ [⟨message.bytes, 0⟩]
      else c.writesIn c.connectionGeneration := by
  cases hqueue : c.sendQueue with
  | nil => simp [writesIn, opsIn, enqueue, hqueue]
  | cons front rest => simp [writesIn, opsIn, enqueue, hqueue]

theorem SendSide.enqueue (h : SendSide c out) {message : Message} (haccepts : c.Accepts message) :
    SendSide (c.enqueue message) out where
  fits p hp := by
    rcases List.mem_append.mp hp with hp | hp
    · exact h.fits p hp
    · rw [List.mem_singleton.mp hp]
      exact haccepts.fits
  past p hp := by
    rcases List.mem_append.mp hp with hp | hp
    · exact h.past p hp
    · rw [List.mem_singleton.mp hp]
      exact Nat.le_refl _
  writesPast w hw := by
    simp only [NetworkClient.enqueue] at hw
    split at hw
    · rcases List.mem_append.mp hw with hw | hw
      · exact h.writesPast w hw
      · rw [List.mem_singleton.mp hw]
        exact Nat.le_refl _
    · exact h.writesPast w hw
  sent g := by
    rw [acceptedIn_enqueue, List.flatMap_append]
    exact (h.sent g).trans (List.prefix_append _ _)
  socket := h.socket
  noSocket := h.noSocket
  opening hopen := by
    rcases hopen with hopen | hopen
    · exact absurd (haccepts.connected.symm.trans hopen) (by decide)
    · exact absurd (haccepts.connected.symm.trans hopen) (by decide)
  inOrder hconnected := by
    obtain ⟨remaining, hwriter, hbytes⟩ := h.inOrder hconnected
    refine ⟨remaining ++ message.bytes, ?_, ?_⟩
    · show SingleWriter (c.sendQueue ++ [message.bytes])
        ((c.enqueue message).writesIn c.connectionGeneration) _
      rw [writesIn_enqueue]
      by_cases hqueue : c.sendQueue = []
      · rw [hqueue] at hwriter
        obtain ⟨hwrites, hremaining⟩ := hwriter.empty
        rw [if_pos hqueue, hqueue, hwrites, hremaining]
        exact SingleWriter.start message.bytes
      · rw [if_neg hqueue]
        exact hwriter.enqueue hqueue message.bytes
    · have hout : (c.enqueue message).acceptedIn c.connectionGeneration =
          c.acceptedIn c.connectionGeneration ++ [message] := by
        rw [acceptedIn_enqueue, if_pos rfl]
      rw [show (c.enqueue message).connectionGeneration = c.connectionGeneration from rfl, hout,
        ← List.append_assoc, hbytes]
      simp

theorem sendSide_survives (out : ℕ → List UInt8) : Survives (fun c => SendSide c out) where
  connect host port callbacks h := h.connect host port callbacks
  disconnect h := h.disconnect
  send {c} type payload h := by
    rcases send_cases c type payload with ⟨haccepts, hsend⟩ | ⟨-, diagnostics, hsend⟩
    · rw [hsend]
      exact h.enqueue haccepts
    · rw [hsend]
      exact h.of_same ⟨rfl, rfl, rfl, rfl, rfl, rfl, rfl, rfl, rfl⟩
  report _ h := h.of_same ⟨rfl, rfl, rfl, rfl, rfl, rfl, rfl, rfl, rfl⟩
  readClock _ h := h.of_same ⟨rfl, rfl, rfl, rfl, rfl, rfl, rfl, rfl, rfl⟩
  invocations _ h := h.of_same ⟨rfl, rfl, rfl, rfl, rfl, rfl, rfl, rfl, rfl⟩

/-- Ending the connection of a client whose queue is no longer in order. -/
theorem SendSide.completeDisconnection_of (h : SendSide c out) (env : ClientEnvironment α)
    (error : ErrorCode) {generation : ℕ} (a : α) (haccepted : c'.accepted = c.accepted)
    (hwrites : ∀ w ∈ c'.writesOutstanding, w ∈ c.writesOutstanding)
    (hgeneration : c'.connectionGeneration = c.connectionGeneration)
    (hcurrent : c'.isCurrentOperation generation .connected = true) :
    SendSide (c'.completeDisconnection env error generation a).1 out := by
  unfold NetworkClient.completeDisconnection
  rw [if_neg (by simp [hcurrent])]
  exact (sendSide_survives out).invoke env _ _ a
    (h.lost rfl rfl haccepted hwrites (Nat.le_of_eq hgeneration.symm))

/-- A connection that is established starts with nothing queued and nothing sent. -/
theorem SendSide.established (h : SendSide c out) (hstate : c.connectionState = .connecting) :
    SendSide { c with connectionState := .connected } out := by
  obtain ⟨hqueue, hwrites, haccepted⟩ := h.opening (Or.inr hstate)
  have hout : out c.connectionGeneration = [] := by
    have hsent := h.sent c.connectionGeneration
    rw [haccepted] at hsent
    exact List.prefix_nil.mp hsent
  exact {
    fits := h.fits
    past := h.past
    writesPast := h.writesPast
    sent := h.sent
    socket := fun _ => h.socket (Or.inl hstate)
    noSocket := fun hopen => by rcases hopen with hopen | hopen <;> cases hopen
    opening := fun hopen => by rcases hopen with hopen | hopen <;> cases hopen
    inOrder := fun _ => by
      refine ⟨[], ?_, ?_⟩
      · show SingleWriter c.sendQueue (c.writesIn c.connectionGeneration) []
        rw [hqueue, hwrites]
        exact .idle
      · show out c.connectionGeneration ++ [] =
          (c.acceptedIn c.connectionGeneration).flatMap Message.bytes
        rw [hout, haccepted]
        rfl }

theorem sendSide_handled (env : ClientEnvironment α) (out : ℕ → List UInt8) :
    Handled env (fun c => SendSide c out) (fun c => SendSide c out) where
  weaken h := h
  calls calls h := (sendSide_survives out).calls env.clock calls h
  dispatch message a _ h := h.of_same (dispatchOn_frame env message (_, a)).1
  buffer _ h := ⟨h.fits, h.past, h.writesPast, h.sent, h.socket, h.noSocket, h.opening, h.inOrder⟩
  reads _ _ h := ⟨h.fits, h.past, h.writesPast, h.sent, h.socket, h.noSocket, h.opening, h.inOrder⟩
  resolved hresolving h := {
    fits := h.fits
    past := h.past
    writesPast := h.writesPast
    sent := h.sent
    socket := fun _ => rfl
    noSocket := fun hopen => by rcases hopen with hopen | hopen <;> cases hopen
    opening := fun _ => h.opening (Or.inl hresolving)
    inOrder := nofun }
  connected hconnecting h := (h.established hconnecting).of_same
    ⟨rfl, rfl, rfl, rfl, rfl, rfl, rfl, rfl, rfl⟩
  failed _ _ h := h.lost rfl rfl rfl (fun _ hw => hw) (Nat.le_refl _)
  ended _ _ h := h.lost rfl rfl rfl (fun _ hw => hw) (Nat.le_refl _)

theorem SendSide.handlePosted (h : SendSide c out) (env : ClientEnvironment α)
    (callback : PostedCallback) (a : α) : SendSide (c.handlePosted env callback a).1 out := by
  unfold NetworkClient.handlePosted
  split
  · exact h
  · exact (sendSide_survives out).invoke env _ _ a h

/-- The outstanding writes around one of them. -/
theorem writesIn_split {before behind : List ClientWrite} {w : ClientWrite}
    (hwrites : c.writesOutstanding = before ++ w :: behind) (g : ℕ) :
    c.writesIn g = opsIn g before ++ (opsIn g [w] ++ opsIn g behind) := by
  rw [writesIn, hwrites, show w :: behind = [w] ++ behind from rfl, opsIn_append, opsIn_append]

/-- A write of the current connection that is outstanding is the only one. -/
theorem SendSide.onlyWrite (h : SendSide c out) (hconnected : c.connectionState = .connected)
    {before behind : List ClientWrite} {w : ClientWrite}
    (hwrites : c.writesOutstanding = before ++ w :: behind)
    (hw : w.generation = c.connectionGeneration) :
    opsIn c.connectionGeneration before = [] ∧ opsIn c.connectionGeneration behind = [] ∧
      ∃ remaining, SingleWriter c.sendQueue [w.op] remaining ∧
        out c.connectionGeneration ++ remaining =
          (c.acceptedIn c.connectionGeneration).flatMap Message.bytes := by
  obtain ⟨remaining, hwriter, hbytes⟩ := h.inOrder hconnected
  rw [writesIn_split hwrites, opsIn_singleton hw] at hwriter
  rcases hwriter.writes_cases with hnone | ⟨op, hone, -⟩
  · simp at hnone
  · have hlength := congrArg List.length hone
    simp only [List.length_append, List.length_singleton] at hlength
    have hbefore : opsIn c.connectionGeneration before = [] :=
      List.length_eq_zero_iff.mp (by omega)
    have hbehind : opsIn c.connectionGeneration behind = [] :=
      List.length_eq_zero_iff.mp (by omega)
    rw [hbefore, hbehind] at hwriter
    exact ⟨hbefore, hbehind, remaining, hwriter, hbytes⟩

/-- **The connection takes bytes**: they are the next ones of the messages accepted. -/
theorem SendSide.transfer (h : SendSide c out) {i count : ℕ} {w : ClientWrite}
    (hw : c.writesOutstanding[i]? = some w) (hsocket : c.socketOpen = true)
    (hcurrent : w.generation = c.connectionGeneration)
    (hcount : w.op.sent + count ≤ w.op.buffer.length) :
    SendSide (c.transfer i count) (Function.update out c.connectionGeneration
      (out c.connectionGeneration ++ w.op.next count)) := by
  obtain ⟨before, behind, hwrites, -, hmodify⟩ := split_at_index hw
  have hconnected : c.connectionState = .connected := by
    cases hstate : c.connectionState with
    | connected => rfl
    | connecting =>
        obtain ⟨-, hnone, -⟩ := h.opening (Or.inr hstate)
        rw [writesIn_split hwrites, opsIn_singleton hcurrent] at hnone
        simp at hnone
    | resolving => rw [h.noSocket (Or.inr hstate)] at hsocket; cases hsocket
    | disconnected => rw [h.noSocket (Or.inl hstate)] at hsocket; cases hsocket
  obtain ⟨hbefore, hbehind, remaining, hwriter, hbytes⟩ := h.onlyWrite hconnected hwrites hcurrent
  obtain ⟨later, hremaining, hlater⟩ := hwriter.transfer hcount
  have hout : (out c.connectionGeneration ++ w.op.next count) ++ later =
      (c.acceptedIn c.connectionGeneration).flatMap Message.bytes := by
    rw [List.append_assoc, ← hremaining, hbytes]
  have hwrites' : (c.transfer i count).writesOutstanding =
      before ++ { w with op := w.op.advance count } :: behind := hmodify _
  exact {
    fits := h.fits
    past := h.past
    writesPast := fun w' hw' => by
      rw [hwrites', List.mem_append, List.mem_cons] at hw'
      rcases hw' with hw' | rfl | hw'
      · exact h.writesPast w' (by rw [hwrites]; simp [hw'])
      · exact Nat.le_of_eq hcurrent
      · exact h.writesPast w' (by rw [hwrites]; simp [hw'])
    sent := fun g => by
      by_cases hg : g = c.connectionGeneration
      · subst hg
        rw [Function.update_self]
        exact ⟨later, hout⟩
      · rw [Function.update_of_ne hg]
        exact h.sent g
    socket := h.socket
    noSocket := h.noSocket
    opening := fun hopen => by
      have hopen' : c.connectionState = .resolving ∨ c.connectionState = .connecting := hopen
      rw [hconnected] at hopen'
      rcases hopen' with hopen' | hopen' <;> cases hopen'
    inOrder := fun _ => by
      refine ⟨later, ?_, ?_⟩
      · show SingleWriter c.sendQueue ((c.transfer i count).writesIn c.connectionGeneration) later
        rw [writesIn_split hwrites',
          opsIn_singleton (w := { w with op := w.op.advance count }) hcurrent, hbefore, hbehind]
        exact hlater
      · show Function.update out c.connectionGeneration _ c.connectionGeneration ++ later = _
        rw [Function.update_self]
        exact hout }

/-- Completions of writes that the client no longer waits for. -/
theorem SendSide.retireWrite (h : SendSide c out) {i : ℕ} {w : ClientWrite}
    (hw : c.writesOutstanding[i]? = some w)
    (hstale : ¬ (w.generation = c.connectionGeneration ∧ c.connectionState = .connected)) :
    SendSide (c.retireWrite i) out := by
  obtain ⟨before, behind, hwrites, herase, -⟩ := split_at_index hw
  have hwrites' : (c.retireWrite i).writesOutstanding = before ++ behind := herase
  have hmem : ∀ w', w' ∈ (c.retireWrite i).writesOutstanding → w' ∈ c.writesOutstanding := by
    intro w' hw'
    rw [hwrites', List.mem_append] at hw'
    rw [hwrites, List.mem_append, List.mem_cons]
    tauto
  have hwritesIn : ∀ g, w.generation ≠ g → (c.retireWrite i).writesIn g = c.writesIn g := by
    intro g hg
    rw [writesIn_split hwrites, opsIn_singleton_ne hg, List.nil_append, writesIn, hwrites',
      opsIn_append]
  exact {
    fits := h.fits
    past := h.past
    writesPast := fun w' hw' => h.writesPast w' (hmem w' hw')
    sent := h.sent
    socket := h.socket
    noSocket := h.noSocket
    opening := fun hopen => by
      obtain ⟨hqueue, hnone, haccepted⟩ := h.opening hopen
      refine ⟨hqueue, List.eq_nil_iff_forall_not_mem.mpr fun op hop => ?_, haccepted⟩
      have hop' : op ∈ c.writesIn c.connectionGeneration :=
        mem_opsIn.mpr (hmem _ (mem_opsIn.mp hop))
      rw [hnone] at hop'
      exact absurd hop' (List.not_mem_nil)
    inOrder := fun hconnected => by
      have hne : w.generation ≠ c.connectionGeneration := fun hg => hstale ⟨hg, hconnected⟩
      show ∃ remaining, SingleWriter c.sendQueue
        ((c.retireWrite i).writesIn c.connectionGeneration) remaining ∧ _
      rw [hwritesIn _ hne]
      exact h.inOrder hconnected }

/-- While connected, queue and writes may change as long as a single writer sends the queue. -/
theorem SendSide.requeue (h : SendSide c out) (hconnected : c.connectionState = .connected)
    {queue : List (List UInt8)} {writes : List ClientWrite}
    (hpast : ∀ w ∈ writes, w.generation ≤ c.connectionGeneration) {remaining : List UInt8}
    (hwriter : SingleWriter queue (opsIn c.connectionGeneration writes) remaining)
    (hbytes : out c.connectionGeneration ++ remaining =
      (c.acceptedIn c.connectionGeneration).flatMap Message.bytes) (pending : ℕ) :
    SendSide { c with
      sendQueue := queue, pendingSendBytes := pending, writesOutstanding := writes } out where
  fits := h.fits
  past := h.past
  writesPast := hpast
  sent := h.sent
  socket := h.socket
  noSocket := h.noSocket
  opening hopen := by
    have hopen' : c.connectionState = .resolving ∨ c.connectionState = .connecting := hopen
    rw [hconnected] at hopen'
    rcases hopen' with hopen' | hopen' <;> cases hopen'
  inOrder _ := ⟨remaining, hwriter, hbytes⟩

/-- **A completion**, successful or not, of the current connection or of an earlier one. -/
theorem SendSide.handleWrite (h : SendSide c out) (env : ClientEnvironment α) {i : ℕ}
    {w : ClientWrite} (hw : c.writesOutstanding[i]? = some w) (error : Option ErrorCode)
    (hdone : error = none → w.op.sent = w.op.buffer.length) (a : α) :
    SendSide ((c.retireWrite i).handleWrite env error w.op.sent w.generation a).1 out := by
  have hgone : ∀ w' ∈ (c.retireWrite i).writesOutstanding, w' ∈ c.writesOutstanding :=
    fun w' hw' => List.mem_of_mem_eraseIdx hw'
  unfold NetworkClient.handleWrite
  split
  · next hstale =>
      -- a write of an earlier connection, whose bytes are not owed any more
      apply h.retireWrite hw
      rintro ⟨hg, hstate⟩
      have hcurrent : (c.retireWrite i).isCurrentOperation w.generation .connected = true := by
        simp only [isCurrentOperation, Bool.and_eq_true, beq_iff_eq]
        exact ⟨hg, hstate⟩
      rw [hcurrent] at hstale
      cases hstale
  next hcurrent =>
  have hcurrent' : (c.retireWrite i).isCurrentOperation w.generation .connected = true := by
    simpa using hcurrent
  have hboth := hcurrent'
  simp only [isCurrentOperation, Bool.and_eq_true, beq_iff_eq] at hboth
  obtain ⟨hg, hconnected⟩ := hboth
  cases error with
  | some error => exact h.completeDisconnection_of env error a rfl hgone rfl hcurrent'
  | none =>
  -- the connection has this write only, so its buffer is the front of the queue
  obtain ⟨before, behind, hwrites, herase, -⟩ := split_at_index hw
  obtain ⟨hbefore, hbehind, remaining, hwriter, hbytes⟩ := h.onlyWrite hconnected hwrites hg
  obtain ⟨rest, hqueue, hremaining⟩ := hwriter.complete (hdone rfl)
  have hnone : (c.retireWrite i).writesIn c.connectionGeneration = [] := by
    rw [writesIn, show (c.retireWrite i).writesOutstanding = before ++ behind from herase,
      opsIn_append, hbefore, hbehind]
    rfl
  rw [show (c.retireWrite i).sendQueue = w.op.buffer :: rest from hqueue, hdone rfl]
  simp only [ne_eq, not_true_eq_false, if_false]
  split
  · exact h.completeDisconnection_of env _ a rfl hgone rfl hcurrent'
  cases rest with
  | nil =>
      simp only [List.isEmpty_nil, Bool.not_true, Bool.false_eq_true, if_false]
      split
      · exact h.completeDisconnection_of env _ a rfl hgone rfl hcurrent'
      · have hwriter : SingleWriter [] (opsIn c.connectionGeneration
            (c.retireWrite i).writesOutstanding) [] := by
          rw [show opsIn c.connectionGeneration _ = [] from hnone]
          exact .idle
        rw [hremaining] at hbytes
        exact h.requeue hconnected (fun w' hw' => h.writesPast w' (hgone w' hw')) hwriter hbytes _
  | cons next rest =>
      simp only [List.isEmpty_cons, Bool.not_false, if_true]
      have hsocket : c.socketOpen = true := h.socket (Or.inr hconnected)
      rw [writeNext_current (c := { c.retireWrite i with
        pendingSendBytes := (c.retireWrite i).pendingSendBytes - w.op.buffer.length
        sendQueue := next :: rest }) hcurrent' hsocket rfl]
      -- the next write is the only one of the connection, from its first byte on
      have hwriter : SingleWriter (next :: rest) (opsIn c.connectionGeneration
          ((c.retireWrite i).writesOutstanding ++ [⟨w.generation, ⟨next, 0⟩⟩]))
          (next :: rest).flatten := by
        have hone : opsIn c.connectionGeneration [⟨w.generation, ⟨next, 0⟩⟩] = [⟨next, 0⟩] :=
          opsIn_singleton hg
        rw [opsIn_append, show opsIn c.connectionGeneration _ = [] from hnone, hone]
        exact SingleWriter.restart next rest
      rw [hremaining] at hbytes
      refine h.requeue hconnected (fun w' hw' => ?_) hwriter hbytes _
      rcases List.mem_append.mp hw' with hw' | hw'
      · exact h.writesPast w' (hgone w' hw')
      · rw [List.mem_singleton.mp hw']
        exact Nat.le_of_eq hg

end SendSide

end NetworkClient

end NetworkArena.Client
