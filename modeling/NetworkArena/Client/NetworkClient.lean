/-
# NetworkArena.Client.NetworkClient -- the client's end of a connection

`network_client.h` and `network_client.cpp`. One client object lives through many connection
attempts; `connectionGeneration_` tells the handlers of the current attempt from late ones. It is
counted in `ℕ`, while the source counts the successful calls of `Connect` and `Disconnect` in 64
bits. For fewer than 2^64 of them this is the same (`NetworkClient.Counts`), and the results on
runs of clients are about these.

The five `std::function` members are identified by the attempt whose `Connect` supplied them. What
they do is the application's business: `ClientEnvironment.invoke` answers an invocation with the
calls the application makes from inside it and with the application's new state. The steady clock is
a sequence of readings; `clockReads` counts those already taken.

Asynchronous operations are what asio still owes the client, each with the generation it captured.
The host name is only checked for being empty, and the endpoint only printed. The round trip time is
kept in the nanoseconds it is measured in, of which the source keeps a `float` of milliseconds.
-/
import NetworkArena.Foundation.ByteChannel
import NetworkArena.Shared.Message
import NetworkArena.Shared.Payloads
import NetworkArena.Shared.WorldStateFormat

namespace NetworkArena.Client

open NetworkArena.Foundation
open NetworkArena.Shared

/-! ## The client -/

inductive ConnectionState where
  | disconnected
  | resolving
  | connecting
  | connected
  deriving DecidableEq, Repr

inductive PacketLogDirection where
  | unknown
  | send
  | receive
  deriving DecidableEq, Repr

structure PacketLogEntry where
  direction : PacketLogDirection := .unknown
  messageType : MessageType := .unknown
  payloadSize : ℕ := 0
  deriving DecidableEq, Repr

/-- The lines a client prints. -/
inductive ClientDiagnostic where
  | nonSendableMessageType (type : MessageType)
  | failedToEncodeMessage
  | sendQueueLimitExceeded (pending next : ℕ)
  | playerInputRejectedBeforePlayerIdentity
  | invalidPlayerInput (moveX moveY moveZ : Int16)
  | unsupportedMessageType (type : MessageType)
  | invalidPongPayload (payload : ℕ)
  | invalidPongTimestamp
  | invalidPlayerIdentityPayload (payload : ℕ)
  | invalidWorldStateSnapshotPayload (payload : ℕ)
  | worldStateSnapshotBeforePlayerIdentity (roomId : RoomId)
  | worldStateSnapshotRoomMismatch (expectedRoomId receivedRoomId : RoomId)
  | sendFailed (error : ErrorCode)
  | sendQueueUnexpectedlyEmpty
  | incompleteMessageWrite (expected transferred : ℕ)
  | pendingSendByteCountInvalid (pending completed : ℕ)
  | pendingSendByteCountRemained (pending : ℕ)
  deriving DecidableEq, Repr

/-- A call of one of the application's callbacks. -/
inductive Invocation where
  | connected
  | connectionFailed (error : ErrorCode)
  | disconnected (error : ErrorCode)
  | playerIdentity (identity : PlayerIdentityPayload)
  | worldStateSnapshot (snapshot : WorldStateSnapshot FloatBits)
  deriving DecidableEq, Repr

/-- Which callbacks a call of `Connect` supplies. -/
structure SuppliedCallbacks where
  onConnected : Bool := true
  onConnectionFailed : Bool := true
  onDisconnected : Bool := true
  onPlayerIdentity : Bool := true
  onWorldStateSnapshot : Bool := true
  deriving DecidableEq, Repr

/-- A write in progress and the generation its handler has captured. -/
structure ClientWrite where
  generation : ℕ
  op : WriteOp UInt8
  deriving DecidableEq, Repr

/-- A callback handed to `asio::post`. -/
structure PostedCallback where
  generation : ℕ
  attempt : ℕ
  invocation : Invocation
  deriving DecidableEq, Repr

/-- What happens on the connections of a client: an attempt starts, and messages go out and come in.
Of a message that comes in, it is noted how often the clock had been read by then. -/
inductive Traffic where
  | started (generation : ℕ)
  | sent (message : Message)
  | received (message : Message) (clockReads : ℕ)
  deriving DecidableEq, Repr

structure NetworkClient where
  socketOpen : Bool := false
  connectionState : ConnectionState := .disconnected
  connectionGeneration : ℕ := 0
  onConnected : Option ℕ := none
  onConnectionFailed : Option ℕ := none
  onDisconnected : Option ℕ := none
  onPlayerIdentity : Option ℕ := none
  onWorldStateSnapshot : Option ℕ := none
  accumulatedBuffer : List UInt8 := []
  sendQueue : List (List UInt8) := []
  pendingSendBytes : ℕ := 0
  playerIdentity : Option PlayerIdentityPayload := none
  latestRttNanoseconds : Option UInt64 := none
  packetLog : List PacketLogEntry := []
  /-- What asio owes: completions of resolves, connects, reads and writes, and posted callbacks. -/
  resolvesOutstanding : List ℕ := []
  connectsOutstanding : List ℕ := []
  readsOutstanding : List ℕ := []
  writesOutstanding : List ClientWrite := []
  posted : List PostedCallback := []
  /-- How often the steady clock was read. -/
  clockReads : ℕ := 0
  diagnostics : List ClientDiagnostic := []
  /-- Histories: callbacks invoked, by attempt; messages `Send` accepted and messages handed to
  `DispatchMessage`, and errors `CompleteDisconnection` ended a connection with, by generation. -/
  invocations : List (ℕ × Invocation) := []
  accepted : List (ℕ × Message) := []
  dispatched : List (ℕ × Message) := []
  disconnections : List (ℕ × ErrorCode) := []
  /-- The attempts `Connect` has started and the messages accepted and handed over, as they came. -/
  traffic : List Traffic := []
  deriving DecidableEq, Repr

/-- The public calls an application can make. -/
inductive ApiCall where
  | connect (host : String) (port : UInt16) (callbacks : SuppliedCallbacks)
  | disconnect
  | send (message : Message)
  | sendPing
  | sendPlayerInput (input : PlayerInputPayload)
  deriving DecidableEq, Repr

/-- The clock and the application around a client, with application state `α`. -/
structure ClientEnvironment (α : Type) where
  clock : ℕ → UInt64
  invoke : Invocation → NetworkClient → α → List ApiCall × α

variable {α : Type}

namespace NetworkClient

def receiveBufferSize : ℕ := 1024

def maxPendingSendBytes : ℕ := 256 * 1024

def maxPacketLogEntries : ℕ := 128

/-- Print a line. -/
def report (c : NetworkClient) (diagnostic : ClientDiagnostic) : NetworkClient :=
  { c with diagnostics := c.diagnostics ++ [diagnostic] }

def isCurrentOperation (c : NetworkClient) (generation : ℕ) (expected : ConnectionState) : Bool :=
  generation == c.connectionGeneration && c.connectionState == expected

def isCurrentGeneration (c : NetworkClient) (generation : ℕ) : Bool :=
  generation == c.connectionGeneration

/-! ## Small parts -/

def clearSendQueue (c : NetworkClient) : NetworkClient :=
  { c with sendQueue := [], pendingSendBytes := 0 }

/-- What `cancel` does to the operations is their completing with an error, some time later. -/
def closeSocket (c : NetworkClient) : NetworkClient := { c with socketOpen := false }

def recordPacketLog (c : NetworkClient) (packetLog : PacketLogEntry) : NetworkClient :=
  let log := if c.packetLog.length ≥ maxPacketLogEntries then c.packetLog.drop 1 else c.packetLog
  { c with packetLog := log ++ [packetLog] }

def resetConnection (c : NetworkClient) : NetworkClient :=
  let c := { c with connectionState := .disconnected }.closeSocket
  let c := { c with accumulatedBuffer := [] }.clearSendQueue
  { c with
    playerIdentity := none
    latestRttNanoseconds := none
    onConnected := none
    onConnectionFailed := none
    onDisconnected := none
    onPlayerIdentity := none
    onWorldStateSnapshot := none }

/-! ## Connecting and disconnecting -/

def connect (c : NetworkClient) (host : String) (port : UInt16) (callbacks : SuppliedCallbacks) :
    Bool × NetworkClient :=
  if c.connectionState != .disconnected then (false, c)
  else if host.isEmpty || port == 0 then (false, c)
  else
    let generation := c.connectionGeneration + 1
    -- a callback is known by the attempt it was given for
    let supplied (given : Bool) : Option ℕ := if given then some generation else none
    let c := { c with
      connectionGeneration := generation
      connectionState := .resolving
      onConnected := supplied callbacks.onConnected
      onConnectionFailed := supplied callbacks.onConnectionFailed
      onDisconnected := supplied callbacks.onDisconnected
      onPlayerIdentity := supplied callbacks.onPlayerIdentity
      onWorldStateSnapshot := supplied callbacks.onWorldStateSnapshot
      accumulatedBuffer := [] }.clearSendQueue
    (true, { c with
      packetLog := []
      latestRttNanoseconds := none
      playerIdentity := none
      traffic := c.traffic ++ [Traffic.started generation]
      resolvesOutstanding := c.resolvesOutstanding ++ [generation] })

def disconnect (c : NetworkClient) : Bool × NetworkClient :=
  if c.connectionState == .disconnected then (false, c)
  else (true, { c with connectionGeneration := c.connectionGeneration + 1 }.resetConnection)

/-! ## Sending -/

def writeNext (c : NetworkClient) (generation : ℕ) : NetworkClient :=
  if !c.isCurrentOperation generation .connected then c
  else
    match c.sendQueue with
    | [] => c
    | front :: _ =>
      if !c.socketOpen then c
      else { c with writesOutstanding := c.writesOutstanding ++ [⟨generation, ⟨front, 0⟩⟩] }

/-- The message types the `switch` of `Send` lets through. -/
def isSendable (type : MessageType) : Bool := type == .ping || type == .playerInput

def send (c : NetworkClient) (type : MessageType) (payload : List UInt8) : Bool × NetworkClient :=
  if c.connectionState != .connected then (false, c)
  else if !c.socketOpen then (false, c)
  else if !isSendable type then (false, c.report (.nonSendableMessageType type))
  else
    let (encoded, message) :=
      (encodeMessage type payload).get (encodeMessage_inBounds type payload)
    if !encoded then (false, c.report .failedToEncodeMessage)
    else if c.pendingSendBytes > maxPendingSendBytes ||
        message.length > maxPendingSendBytes - c.pendingSendBytes then
      (false, c.report (.sendQueueLimitExceeded c.pendingSendBytes message.length))
    else
      -- while a write is under way, its completion goes on with the queue
      let writeInProgress := !c.sendQueue.isEmpty
      let c := { c with
        sendQueue := c.sendQueue ++ [message]
        pendingSendBytes := c.pendingSendBytes + message.length
        accepted := c.accepted ++ [(c.connectionGeneration, Message.mk type payload)]
        traffic := c.traffic ++ [Traffic.sent (Message.mk type payload)] }
      let c := c.recordPacketLog ⟨.send, type, payload.length⟩
      (true, if !writeInProgress then c.writeNext c.connectionGeneration else c)

/-- The clock's current reading. -/
def readClock (c : NetworkClient) (clock : ℕ → UInt64) : UInt64 × NetworkClient :=
  (clock c.clockReads, { c with clockReads := c.clockReads + 1 })

def sendPing (c : NetworkClient) (clock : ℕ → UInt64) : Bool × NetworkClient :=
  if c.connectionState != .connected then (false, c)
  else
    let (clientPingTxTimestampNanoseconds, c) := c.readClock clock
    let payload := (encodePingPayload ⟨clientPingTxTimestampNanoseconds⟩).get
      (encodePingPayload_inBounds _)
    c.send .ping payload

def sendPlayerInput (c : NetworkClient) (input : PlayerInputPayload) : Bool × NetworkClient :=
  if c.connectionState != .connected then (false, c)
  else if c.playerIdentity.isNone then (false, c.report .playerInputRejectedBeforePlayerIdentity)
  else
    let (encoded, payload) :=
      (encodePlayerInputPayload input).get (encodePlayerInputPayload_inBounds input)
    if !encoded then
      (false, c.report (.invalidPlayerInput input.moveX input.moveY input.moveZ))
    else c.send .playerInput payload

end NetworkClient

/-! ## The application's callbacks -/

/-- Make a public call; its result is for the caller only. -/
def ApiCall.run (clock : ℕ → UInt64) (c : NetworkClient) : ApiCall → NetworkClient
  | .connect host port callbacks => (c.connect host port callbacks).2
  | .disconnect => c.disconnect.2
  | .send message => (c.send message.type message.payload).2
  | .sendPing => (c.sendPing clock).2
  | .sendPlayerInput input => (c.sendPlayerInput input).2

namespace NetworkClient

/-- Call a callback, unless it is empty; it may call the client back. -/
def invoke (env : ClientEnvironment α) (callback : Option ℕ) (invocation : Invocation)
    (c : NetworkClient) (a : α) : NetworkClient × α :=
  match callback with
  | none => (c, a)
  | some attempt =>
    let c := { c with invocations := c.invocations ++ [(attempt, invocation)] }
    let (calls, a) := env.invoke invocation c a
    (calls.foldl (ApiCall.run env.clock) c, a)

def completeConnectionFailure (env : ClientEnvironment α) (error : ErrorCode) (generation : ℕ)
    (c : NetworkClient) (a : α) : NetworkClient × α :=
  if !c.isCurrentGeneration generation then (c, a)
  else
    let c := { c with connectionState := .disconnected }.closeSocket
    let c := { c with accumulatedBuffer := [] }.clearSendQueue
    -- all callbacks are given up before the one is called, which may connect again
    let connectionFailedCallback := c.onConnectionFailed
    let c := { c with
      playerIdentity := none
      latestRttNanoseconds := none
      onConnectionFailed := none
      onConnected := none
      onDisconnected := none
      onPlayerIdentity := none
      onWorldStateSnapshot := none }
    c.invoke env connectionFailedCallback (.connectionFailed error) a

def completeDisconnection (env : ClientEnvironment α) (error : ErrorCode) (generation : ℕ)
    (c : NetworkClient) (a : α) : NetworkClient × α :=
  if !c.isCurrentOperation generation .connected then (c, a)
  else
    let c := { c with
      connectionState := .disconnected
      disconnections := c.disconnections ++ [(generation, error)] }.closeSocket
    let c := { c with accumulatedBuffer := [] }.clearSendQueue
    -- the other two were given up when the connection was made
    let disconnectedCallback := c.onDisconnected
    let c := { c with
      playerIdentity := none
      latestRttNanoseconds := none
      onDisconnected := none
      onPlayerIdentity := none
      onWorldStateSnapshot := none }
    c.invoke env disconnectedCallback (.disconnected error) a

/-! ## Dispatching -/

def handlePong (clock : ℕ → UInt64) (payload : List UInt8) (c : NetworkClient) :
    Bool × NetworkClient :=
  let (decoded, ping) :=
    (decodePingPayload payload {}).get (decodePing_inBounds payload)
  if !decoded then (false, c.report (.invalidPongPayload payload.length))
  else
    let (clientPongRxTimestampNanoseconds, c) := c.readClock clock
    if clientPongRxTimestampNanoseconds < ping.clientPingTxTimestampNanoseconds then
      (false, c.report .invalidPongTimestamp)
    else
      let roundTripNanoseconds :=
        clientPongRxTimestampNanoseconds - ping.clientPingTxTimestampNanoseconds
      (true, { c with latestRttNanoseconds := some roundTripNanoseconds })

/-- `asio::post` of a callback, which keeps a copy of it and of the current generation. -/
def post (callback : Option ℕ) (invocation : Invocation) (c : NetworkClient) : NetworkClient :=
  match callback with
  | none => c
  | some attempt =>
    { c with posted := c.posted ++ [⟨c.connectionGeneration, attempt, invocation⟩] }

def handlePlayerIdentity (payload : List UInt8) (c : NetworkClient) : Bool × NetworkClient :=
  let (decoded, identity) := (decodePlayerIdentityPayload payload {}).get
    (decodePlayerIdentityPayload_inBounds payload {})
  if !decoded then (false, c.report (.invalidPlayerIdentityPayload payload.length))
  else
    let c := { c with playerIdentity := some identity }
    (true, c.post c.onPlayerIdentity (.playerIdentity identity))

def handleWorldStateSnapshot (payload : List UInt8) (c : NetworkClient) : Bool × NetworkClient :=
  let (decoded, snapshot) := (decodeWorldStateSnapshotPayload payload .default).get
    (decodeWorldStateSnapshotPayload_inBounds payload .default)
  if !decoded then (false, c.report (.invalidWorldStateSnapshotPayload payload.length))
  else
    match c.playerIdentity with
    | none => (false, c.report (.worldStateSnapshotBeforePlayerIdentity snapshot.roomId))
    | some playerIdentity =>
      if snapshot.roomId != playerIdentity.roomId then
        (false, c.report (.worldStateSnapshotRoomMismatch playerIdentity.roomId snapshot.roomId))
      else (true, c.post c.onWorldStateSnapshot (.worldStateSnapshot snapshot))

def dispatchMessage (clock : ℕ → UInt64) (header : MessageHeader) (payload : List UInt8)
    (c : NetworkClient) : Bool × NetworkClient :=
  let c := { c with
    dispatched := c.dispatched ++ [(c.connectionGeneration, Message.mk header.type payload)]
    traffic := c.traffic ++ [Traffic.received (Message.mk header.type payload) c.clockReads] }
  if header.type = .pong then c.handlePong clock payload
  else if header.type = .playerIdentity then c.handlePlayerIdentity payload
  else if header.type = .worldStateSnapshot then c.handleWorldStateSnapshot payload
  else (false, c.report (.unsupportedMessageType header.type))

/-! ## Receiving -/

/-- The loop of `ProcessMessages`. The accumulated buffer is the loop's own argument; the three
functions are the calls the loop makes on the rest of the client, the last of which may clear the
buffer. -/
def processMessagesLoop {τ : Type} (record : PacketLogEntry → τ → τ)
    (dispatch : MessageHeader → List UInt8 → τ → Bool × τ)
    (complete : ErrorCode → List UInt8 → τ → List UInt8 × τ) (accumulatedBuffer : List UInt8)
    (t : τ) : Checked (Bool × List UInt8 × τ) :=
  if _hguard : accumulatedBuffer.length ≥ messageHeaderSize then do
    let (decoded, header) ← decodeMessageHeader accumulatedBuffer {}
    if !decoded then
      return (true, accumulatedBuffer, t)
    else if _hsize : BadSize header then
      return (false, complete .messageSize accumulatedBuffer t)
    else if accumulatedBuffer.length < header.size.toNat then
      -- the rest of the message is still to come
      return (true, accumulatedBuffer, t)
    else
      let payloadSize := header.size.toNat - messageHeaderSize
      let payload ← Span.subspan accumulatedBuffer messageHeaderSize payloadSize
      let t := record ⟨.receive, header.type, payload.length⟩ t
      let (dispatched, t) := dispatch header payload t
      if !dispatched then
        return (false, complete .protocolError accumulatedBuffer t)
      else
        match _herase : Span.eraseFront accumulatedBuffer header.size.toNat with
        | .error e => .error e
        | .ok rest => processMessagesLoop record dispatch complete rest t
  else
    return (true, accumulatedBuffer, t)
termination_by accumulatedBuffer.length
decreasing_by
  simp only [Span.eraseFront] at _herase
  split at _herase
  · cases _herase
    rw [List.length_drop]
    simp only [BadSize, messageHeaderSize] at _hguard _hsize
    omega
  · cases _herase

def processMessages (env : ClientEnvironment α) (generation : ℕ) (c : NetworkClient) (a : α) :
    Checked (Bool × NetworkClient × α) := do
  let (processed, accumulatedBuffer, c, a) ←
    processMessagesLoop
      (fun packetLog (t : NetworkClient × α) => (t.1.recordPacketLog packetLog, t.2))
      (fun header payload t =>
        let (dispatched, c) := t.1.dispatchMessage env.clock header payload
        (dispatched, c, t.2))
      (fun error accumulatedBuffer t =>
        let (c, a) := { t.1 with accumulatedBuffer := accumulatedBuffer }.completeDisconnection
          env error generation t.2
        (c.accumulatedBuffer, c, a))
      c.accumulatedBuffer (c, a)
  return (processed, { c with accumulatedBuffer := accumulatedBuffer }, a)

def processReceivedData (env : ClientEnvironment α) (received : List UInt8) (generation : ℕ)
    (c : NetworkClient) (a : α) : Checked (Bool × NetworkClient × α) :=
  { c with accumulatedBuffer := c.accumulatedBuffer ++ received }.processMessages env generation a

/-- **The loop drains the message stream.** The counterpart of the lemma about the server's
loop. -/
theorem processMessagesLoop_eq {τ : Type} (record : PacketLogEntry → τ → τ)
    (dispatch : MessageHeader → List UInt8 → τ → Bool × τ)
    (complete : ErrorCode → List UInt8 → τ → List UInt8 × τ) (accumulatedBuffer : List UInt8)
    (t : τ) :
    processMessagesLoop record dispatch complete accumulatedBuffer t =
      .ok (match messageReader.drain (fun m t => dispatch m.header m.payload
            (record ⟨.receive, m.type, m.payload.length⟩ t)) accumulatedBuffer t with
        | ⟨.waiting, rest, t⟩ => (true, rest, t)
        | ⟨.malformed, rest, t⟩ => (false, complete .messageSize rest t)
        | ⟨.rejected, rest, t⟩ => (false, complete .protocolError rest t)) := by
  induction accumulatedBuffer using messageReader.front_induction generalizing t with
  | incomplete bytes h =>
      rw [FrameReader.drain_incomplete _ h, processMessagesLoop]
      by_cases hguard : bytes.length ≥ messageHeaderSize
      · obtain ⟨header, hdecode, hsize, hshort⟩ := incomplete_loop h hguard
        rw [dif_pos hguard, hdecode, Checked.ok_bind]
        simp only [Bool.not_true, Bool.false_eq_true, if_false, dif_neg hsize, if_pos hshort,
          Checked.pure_eq]
      · rw [dif_neg hguard]
        rfl
  | malformed bytes h =>
      obtain ⟨hguard, hdecode, hsize⟩ := malformed_loop h
      rw [FrameReader.drain_malformed _ h, processMessagesLoop, dif_pos hguard, hdecode,
        Checked.ok_bind]
      simp only [Bool.not_true, Bool.false_eq_true, if_false, dif_pos hsize, Checked.pure_eq]
  | frame bytes message n h ih =>
      obtain ⟨hguard, hdecode, hsize, hall, hpayload, herase⟩ := frame_loop h
      have htype : message.header.type = message.type := rfl
      rw [FrameReader.drain_frame _ h, processMessagesLoop, dif_pos hguard, hdecode,
        Checked.ok_bind]
      simp only [Bool.not_true, Bool.false_eq_true, if_false, dif_neg hsize, if_neg hall,
        hpayload, Checked.ok_bind, Checked.pure_eq, htype]
      by_cases hok : (dispatch message.header message.payload
          (record ⟨.receive, message.type, message.payload.length⟩ t)).1 = true
      · rw [if_pos hok, if_neg (by simp [hok])]
        split
        · next e he =>
            rw [herase] at he
            cases he
        · next rest he =>
            rw [herase] at he
            cases he
            exact ih _
      · rw [if_neg hok, if_pos (by simpa using hok)]

/-- The handler the loop of a client runs on every message. -/
def dispatchOn (env : ClientEnvironment α) (message : Message) (t : NetworkClient × α) :
    Bool × NetworkClient × α :=
  let (dispatched, c) := (t.1.recordPacketLog
    ⟨.receive, message.type, message.payload.length⟩).dispatchMessage env.clock message.header
      message.payload
  (dispatched, c, t.2)

theorem processMessages_eq (env : ClientEnvironment α) (generation : ℕ) (c : NetworkClient)
    (a : α) :
    c.processMessages env generation a =
      .ok (match messageReader.drain (dispatchOn env) c.accumulatedBuffer (c, a) with
        | ⟨.waiting, rest, c, a⟩ => (true, { c with accumulatedBuffer := rest }, a)
        | ⟨.malformed, rest, c, a⟩ =>
          (false, { c with accumulatedBuffer := rest }.completeDisconnection env .messageSize
            generation a)
        | ⟨.rejected, rest, c, a⟩ =>
          (false, { c with accumulatedBuffer := rest }.completeDisconnection env .protocolError
            generation a)) := by
  rw [processMessages, processMessagesLoop_eq, Checked.ok_bind]
  rw [show (fun (m : Message) (t : NetworkClient × α) =>
    (fun (header : MessageHeader) payload (t : NetworkClient × α) =>
      ((t.1.dispatchMessage env.clock header payload).1,
        (t.1.dispatchMessage env.clock header payload).2, t.2)) m.header m.payload
      ((fun packetLog (t : NetworkClient × α) => (t.1.recordPacketLog packetLog, t.2))
        ⟨.receive, m.type, m.payload.length⟩ t)) = dispatchOn env from rfl]
  rcases messageReader.drain (dispatchOn env) c.accumulatedBuffer (c, a) with ⟨verdict, rest, t⟩
  cases verdict <;> rfl

theorem processReceivedData_inBounds (env : ClientEnvironment α) (received : List UInt8)
    (generation : ℕ) (c : NetworkClient) (a : α) :
    (c.processReceivedData env received generation a).InBounds :=
  ⟨_, processMessages_eq env generation _ a⟩

def readNext (c : NetworkClient) (generation : ℕ) : NetworkClient :=
  if !c.socketOpen then c
  else if !c.isCurrentOperation generation .connected then c
  else { c with readsOutstanding := c.readsOutstanding ++ [generation] }

/-- `received` are the bytes the completed read has put into `receiveBuffer_`. -/
def handleRead (env : ClientEnvironment α) (error : Option ErrorCode) (received : List UInt8)
    (generation : ℕ) (c : NetworkClient) (a : α) : NetworkClient × α :=
  if !c.isCurrentOperation generation .connected then (c, a)
  else
    let (processed, c, a) :=
      if received.length > 0 then
        (c.processReceivedData env received generation a).get
          (processReceivedData_inBounds env received generation c a)
      else (true, c, a)
    if !processed then (c, a)
    else
      match error with
      | none => (c.readNext generation, a)
      | some error => c.completeDisconnection env error generation a

/-! ## Completions -/

/-- `async_connect` opens the socket for the attempt. -/
def handleResolve (env : ClientEnvironment α) (error : Option ErrorCode) (generation : ℕ)
    (c : NetworkClient) (a : α) : NetworkClient × α :=
  if !c.isCurrentOperation generation .resolving then (c, a)
  else
    match error with
    | some error => c.completeConnectionFailure env error generation a
    | none =>
      ({ c with
        connectionState := .connecting
        socketOpen := true
        connectsOutstanding := c.connectsOutstanding ++ [generation] }, a)

def handleConnect (env : ClientEnvironment α) (error : Option ErrorCode) (generation : ℕ)
    (c : NetworkClient) (a : α) : NetworkClient × α :=
  if !c.isCurrentOperation generation .connecting then (c, a)
  else
    match error with
    | some error => c.completeConnectionFailure env error generation a
    | none =>
      let c := { c with connectionState := .connected }
      let connectedCallback := c.onConnected
      let c := { c with onConnected := none, onConnectionFailed := none }
      let (c, a) := c.invoke env connectedCallback .connected a
      -- the callback may have disconnected
      if c.isCurrentOperation generation .connected then (c.readNext generation, a) else (c, a)

def handleWrite (env : ClientEnvironment α) (error : Option ErrorCode) (bytesTransferred : ℕ)
    (generation : ℕ) (c : NetworkClient) (a : α) : NetworkClient × α :=
  if !c.isCurrentOperation generation .connected then (c, a)
  else
    match error with
    | some error => (c.report (.sendFailed error)).completeDisconnection env error generation a
    | none =>
      match c.sendQueue with
      | [] =>
        (c.report .sendQueueUnexpectedlyEmpty).completeDisconnection env .protocolError
          generation a
      | front :: rest =>
        let expectedBytes := front.length
        if bytesTransferred ≠ expectedBytes then
          (c.report (.incompleteMessageWrite expectedBytes bytesTransferred)).completeDisconnection
            env .protocolError generation a
        else if c.pendingSendBytes < expectedBytes then
          (c.report (.pendingSendByteCountInvalid c.pendingSendBytes
            expectedBytes)).completeDisconnection env .protocolError generation a
        else
          let c := { c with
            pendingSendBytes := c.pendingSendBytes - expectedBytes
            sendQueue := rest }
          if !c.sendQueue.isEmpty then (c.writeNext generation, a)
          else if c.pendingSendBytes ≠ 0 then
            (c.report (.pendingSendByteCountRemained c.pendingSendBytes)).completeDisconnection
              env .protocolError generation a
          else (c, a)

/-- The body of a posted callback. -/
def handlePosted (env : ClientEnvironment α) (callback : PostedCallback) (c : NetworkClient)
    (a : α) : NetworkClient × α :=
  if !c.isCurrentOperation callback.generation .connected then (c, a)
  else c.invoke env (some callback.attempt) callback.invocation a

end NetworkClient

end NetworkArena.Client
