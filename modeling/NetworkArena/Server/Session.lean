/-
# NetworkArena.Server.Session -- one connected client, as the server holds it

`session.h` and `session.cpp`. A session owns a socket, a queue of encoded messages and the bytes
received but not yet dispatched. Its handlers are functions of the session and of a world `σ`, the
part of the server its two callbacks act on.

Asynchronous operations are what asio still owes the session: `readsOutstanding` counts the reads
started and not completed, `writesOutstanding` lists the writes. What is printed to the console is
kept in `diagnostics`; the remote endpoint, which only appears in these texts, is left out. Two
further fields are histories: the messages `Send` accepted and the messages handed to
`DispatchMessage`.
-/
import NetworkArena.Foundation.ByteChannel
import NetworkArena.Shared.Message
import NetworkArena.Shared.Payloads

namespace NetworkArena.Server

open NetworkArena.Foundation
open NetworkArena.Shared

abbrev SessionId := UInt64

variable {σ : Type}

/-! ## The session -/

/-- The lines a session prints. -/
inductive SessionDiagnostic where
  | clientConnected
  | clientDisconnected
  | receiveFailed (error : ErrorCode)
  | nonSendableMessageType (type : MessageType)
  | failedToEncodeMessage
  | sendQueueLimitExceeded (pending next : ℕ)
  | invalidMessageSize (size : UInt16)
  | messageReceived (type : MessageType) (size : UInt16) (payload : ℕ)
  | unsupportedMessageType (type : MessageType)
  | invalidPingPayload (payload : ℕ)
  | invalidPlayerInputPayload (payload : ℕ)
  | sendFailed (error : ErrorCode)
  | incompleteMessageWrite (expected transferred : ℕ)
  | pendingSendByteCountInvalid (pending completed : ℕ)
  deriving DecidableEq, Repr

structure Session where
  id : SessionId
  /-- `socket_.is_open()`. -/
  socketOpen : Bool := true
  closed : Bool := false
  accumulatedBuffer : List UInt8 := []
  sendQueue : List (List UInt8) := []
  pendingSendBytes : ℕ := 0
  readsOutstanding : ℕ := 0
  writesOutstanding : List (WriteOp UInt8) := []
  diagnostics : List SessionDiagnostic := []
  accepted : List Message := []
  dispatched : List Message := []
  deriving DecidableEq, Repr

/-- What the session was constructed with: `onClosed_` and `onPlayerInput_`, either of which may
be empty. -/
structure SessionCallbacks (σ : Type) where
  onClosed : Option (SessionId → σ → σ)
  onPlayerInput : Option (SessionId → PlayerInputPayload → σ → σ)

namespace Session

def receiveBufferSize : ℕ := 1024

def maxPendingSendBytes : ℕ := 256 * 1024

/-- Print a line. -/
def report (s : Session) (diagnostic : SessionDiagnostic) : Session :=
  { s with diagnostics := s.diagnostics ++ [diagnostic] }

/-! ## Closing -/

def close (callbacks : SessionCallbacks σ) (s : Session) (w : σ) : Session × σ :=
  if s.closed then (s, w)
  else
    let s := { s with closed := true, pendingSendBytes := 0 }
    -- a session whose socket is not open is closed without its callback
    if !s.socketOpen then (s, w)
    else
      let s := { s with socketOpen := false }
      match callbacks.onClosed with
      | some onClosed => (s, onClosed s.id w)
      | none => (s, w)

def stop (callbacks : SessionCallbacks σ) (s : Session) (w : σ) : Session × σ :=
  s.close callbacks w

theorem close_closed (callbacks : SessionCallbacks σ) (s : Session) (w : σ) :
    (s.close callbacks w).1.closed = true := by
  unfold close
  split
  · assumption
  · dsimp only
    split
    · rfl
    · split <;> rfl

/-! ## Sending -/

def writeNext (s : Session) : Session :=
  if s.closed then s
  else
    match s.sendQueue with
    | [] => s
    | front :: _ =>
      if !s.socketOpen then s
      else { s with writesOutstanding := s.writesOutstanding ++ [⟨front, 0⟩] }

/-- The message types the `switch` of `Send` lets through. -/
def isSendable (type : MessageType) : Bool :=
  type == .pong || type == .worldStateSnapshot || type == .playerIdentity

def send (s : Session) (type : MessageType) (payload : List UInt8) : Bool × Session :=
  if s.closed then (false, s)
  else if !s.socketOpen then (false, s)
  else if !isSendable type then (false, s.report (.nonSendableMessageType type))
  else
    let (encoded, message) :=
      (encodeMessage type payload).get (encodeMessage_inBounds type payload)
    if !encoded then (false, s.report .failedToEncodeMessage)
    else if s.pendingSendBytes > maxPendingSendBytes ||
        message.length > maxPendingSendBytes - s.pendingSendBytes then
      (false, s.report (.sendQueueLimitExceeded s.pendingSendBytes message.length))
    else
      -- while a write is under way, its completion goes on with the queue
      let writeInProgress := !s.sendQueue.isEmpty
      let s := { s with
        sendQueue := s.sendQueue ++ [message]
        pendingSendBytes := s.pendingSendBytes + message.length
        accepted := s.accepted ++ [Message.mk type payload] }
      (true, if !writeInProgress then s.writeNext else s)

/-- asio is done with the `i`-th outstanding write. -/
def retireWrite (s : Session) (i : ℕ) : Session :=
  { s with writesOutstanding := s.writesOutstanding.eraseIdx i }

/-- What an accepted message does to the session. -/
def enqueue (s : Session) (message : Message) : Session :=
  { s with
    sendQueue := s.sendQueue ++ [message.bytes]
    pendingSendBytes := s.pendingSendBytes + message.bytes.length
    accepted := s.accepted ++ [message]
    writesOutstanding :=
      if s.sendQueue.isEmpty then s.writesOutstanding ++ [⟨message.bytes, 0⟩]
      else s.writesOutstanding }

/-- The messages `Send` accepts in a given state. -/
structure Accepts (s : Session) (message : Message) : Prop where
  live : s.closed = false
  socket : s.socketOpen = true
  sendable : isSendable message.type = true
  fits : message.Fits
  room : s.pendingSendBytes + message.bytes.length ≤ maxPendingSendBytes

/-- **`Send` accepts**: the message goes behind the queue, and is written at once if the queue
was empty. -/
theorem send_accepted {s : Session} {message : Message} (h : s.Accepts message) :
    s.send message.type message.payload = (true, s.enqueue message) := by
  obtain ⟨hlive, hsocket, hsendable, hfits, hroom⟩ := h
  have hlimit : (decide (s.pendingSendBytes > maxPendingSendBytes) ||
      decide (message.bytes.length > maxPendingSendBytes - s.pendingSendBytes)) = false := by
    simp only [Bool.or_eq_false_iff, decide_eq_false_iff_not]
    omega
  rw [send]
  simp only [hlive, hsocket, hsendable, Message.encode_get, if_pos hfits, hlimit, Bool.not_true,
    Bool.false_eq_true, if_false, Bool.not_not]
  cases hqueue : s.sendQueue with
  | nil => simp [enqueue, writeNext, hqueue, hlive, hsocket]
  | cons front rest => simp [enqueue, hqueue, hlive, hsocket]

/-- **`Send` refuses**: nothing but a line on the console. -/
theorem send_refused {s : Session} {message : Message} (h : ¬ s.Accepts message) :
    ∃ diagnostics, s.send message.type message.payload =
      (false, { s with diagnostics := diagnostics }) := by
  rw [send]
  by_cases hclosed : s.closed = true
  · exact ⟨s.diagnostics, if_pos hclosed⟩
  rw [if_neg hclosed]
  by_cases hsocket : s.socketOpen = true
  · rw [if_neg (by simp [hsocket])]
    by_cases hsendable : isSendable message.type = true
    · rw [if_neg (by simp [hsendable]), Message.encode_get]
      by_cases hfits : message.Fits
      · have hroom : ¬ s.pendingSendBytes + message.bytes.length ≤ maxPendingSendBytes :=
          fun hroom => h ⟨by simpa using hclosed, hsocket, hsendable, hfits, hroom⟩
        have hlimit : (decide (s.pendingSendBytes > maxPendingSendBytes) ||
            decide (message.bytes.length > maxPendingSendBytes - s.pendingSendBytes)) = true := by
          simp only [Bool.or_eq_true, decide_eq_true_eq]
          omega
        simp only [if_pos hfits, Bool.not_true, Bool.false_eq_true, if_false, if_pos hlimit]
        exact ⟨_, rfl⟩
      · simp only [if_neg hfits, Bool.not_false, if_true]
        exact ⟨_, rfl⟩
    · exact ⟨_, if_pos (by simpa using hsendable)⟩
  · exact ⟨s.diagnostics, if_pos (by simpa using hsocket)⟩

def handleWrite (callbacks : SessionCallbacks σ) (error : Option ErrorCode)
    (bytesTransferred : ℕ) (s : Session) (w : σ) : Session × σ :=
  if s.closed then (s, w)
  else
    match error with
    | some error =>
      let s := if error != .operationAborted then s.report (.sendFailed error) else s
      let s := { s with sendQueue := [], pendingSendBytes := 0 }
      if s.socketOpen then s.close callbacks w else (s, w)
    | none =>
      match s.sendQueue with
      | [] => { s with pendingSendBytes := 0 }.close callbacks w
      | front :: rest =>
        let expectedBytes := front.length
        if bytesTransferred ≠ expectedBytes then
          let s := s.report (.incompleteMessageWrite expectedBytes bytesTransferred)
          { s with sendQueue := [], pendingSendBytes := 0 }.close callbacks w
        else if s.pendingSendBytes < expectedBytes then
          let s := s.report (.pendingSendByteCountInvalid s.pendingSendBytes expectedBytes)
          { s with sendQueue := [], pendingSendBytes := 0 }.close callbacks w
        else
          let s := { s with
            pendingSendBytes := s.pendingSendBytes - expectedBytes
            sendQueue := rest }
          let s := if !s.sendQueue.isEmpty then s.writeNext else s
          -- reached with messages still queued as well: the branch above does not return
          ({ s with pendingSendBytes := 0 }, w)

/-- A whole message was written and the counter covers it: the next one is started. -/
theorem handleWrite_written (callbacks : SessionCallbacks σ) {s : Session} (w : σ)
    {front : List UInt8} {rest : List (List UInt8)} (hlive : s.closed = false)
    (hsocket : s.socketOpen = true) (hqueue : s.sendQueue = front :: rest)
    (hpending : front.length ≤ s.pendingSendBytes) :
    s.handleWrite callbacks none front.length w =
      ({ s with
        sendQueue := rest
        pendingSendBytes := 0
        writesOutstanding := s.writesOutstanding ++ (rest.take 1).map (⟨·, 0⟩) }, w) := by
  have hcovered : ¬ s.pendingSendBytes < front.length := Nat.not_lt.mpr hpending
  cases rest with
  | nil => simp [handleWrite, hlive, hqueue, hcovered]
  | cons next rest => simp [handleWrite, hlive, hqueue, hcovered, writeNext, hsocket]

/-- A whole message was written but the counter does not cover it: the session is given up. -/
theorem handleWrite_miscounted (callbacks : SessionCallbacks σ) {s : Session} (w : σ)
    {front : List UInt8} {rest : List (List UInt8)} (hlive : s.closed = false)
    (hqueue : s.sendQueue = front :: rest) (hpending : s.pendingSendBytes < front.length) :
    s.handleWrite callbacks none front.length w =
      { s.report (.pendingSendByteCountInvalid s.pendingSendBytes front.length) with
        sendQueue := []
        pendingSendBytes := 0 }.close callbacks w := by
  simp [handleWrite, hlive, hqueue, hpending]

/-! ## Dispatching -/

def handlePing (callbacks : SessionCallbacks σ) (payload : List UInt8) (s : Session) (w : σ) :
    Bool × Session × σ :=
  let (decoded, _) := (decodePingPayload payload {}).get (decodePing_inBounds payload)
  if !decoded then
    (false, (s.report (.invalidPingPayload payload.length)).close callbacks w)
  else
    let (sent, s) := s.send .pong payload
    (sent, s, w)

def handlePlayerInput (callbacks : SessionCallbacks σ) (payload : List UInt8) (s : Session)
    (w : σ) : Bool × Session × σ :=
  let (decoded, input) :=
    (decodePlayerInputPayload payload {}).get (decodePlayerInputPayload_inBounds payload {})
  if !decoded then
    (false, (s.report (.invalidPlayerInputPayload payload.length)).close callbacks w)
  else
    match callbacks.onPlayerInput with
    | some onPlayerInput => (true, s, onPlayerInput s.id input w)
    | none => (true, s, w)

def dispatchMessage (callbacks : SessionCallbacks σ) (header : MessageHeader)
    (payload : List UInt8) (s : Session) (w : σ) : Bool × Session × σ :=
  let s := { s with dispatched := s.dispatched ++ [Message.mk header.type payload] }
  let s := s.report (.messageReceived header.type header.size payload.length)
  if header.type = .ping then s.handlePing callbacks payload w
  else if header.type = .playerInput then s.handlePlayerInput callbacks payload w
  else (false, (s.report (.unsupportedMessageType header.type)).close callbacks w)

/-! ## Receiving -/

/-- The loop of `ProcessMessages`. The accumulated buffer is the loop's own argument; `dispatch`
and `invalidSize` are the two calls the loop makes on the rest of the session. -/
def processMessagesLoop {τ : Type} (dispatch : MessageHeader → List UInt8 → τ → Bool × τ)
    (invalidSize : MessageHeader → τ → τ) (accumulatedBuffer : List UInt8) (t : τ) :
    Checked (Bool × List UInt8 × τ) :=
  if _hguard : accumulatedBuffer.length ≥ messageHeaderSize then do
    let (decoded, header) ← decodeMessageHeader accumulatedBuffer {}
    if !decoded then
      return (true, accumulatedBuffer, t)
    else if _hsize : BadSize header then
      return (false, accumulatedBuffer, invalidSize header t)
    else if accumulatedBuffer.length < header.size.toNat then
      return (true, accumulatedBuffer, t)
    else
      let payloadSize := header.size.toNat - messageHeaderSize
      let payload ← Span.subspan accumulatedBuffer messageHeaderSize payloadSize
      let (dispatched, t) := dispatch header payload t
      if !dispatched then
        return (false, accumulatedBuffer, t)
      else
        match _herase : Span.eraseFront accumulatedBuffer header.size.toNat with
        | .error e => .error e
        | .ok rest => processMessagesLoop dispatch invalidSize rest t
  else
    return (true, accumulatedBuffer, t)
termination_by accumulatedBuffer.length
decreasing_by
  simp only [Span.eraseFront] at _herase
  split at _herase
  · cases _herase
    rw [List.length_drop]
    simp only [BadSize, messageHeaderSize] at _hguard _hsize
    omega
  · cases _herase

def processMessages (callbacks : SessionCallbacks σ) (s : Session) (w : σ) :
    Checked (Bool × Session × σ) := do
  let (processed, accumulatedBuffer, s, w) ←
    processMessagesLoop
      (fun header payload t => dispatchMessage callbacks header payload t.1 t.2)
      (fun header t => (t.1.report (.invalidMessageSize header.size)).close callbacks t.2)
      s.accumulatedBuffer (s, w)
  return (processed, { s with accumulatedBuffer := accumulatedBuffer }, w)

def processReceivedData (callbacks : SessionCallbacks σ) (received : List UInt8) (s : Session)
    (w : σ) : Checked (Bool × Session × σ) :=
  { s with accumulatedBuffer := s.accumulatedBuffer ++ received }.processMessages callbacks w

/-- **The loop drains the message stream.** What it returns is what the reference reader leaves,
and the flag says whether the loop still waits for bytes. -/
theorem processMessagesLoop_eq {τ : Type} (dispatch : MessageHeader → List UInt8 → τ → Bool × τ)
    (invalidSize : MessageHeader → τ → τ) (accumulatedBuffer : List UInt8) (t : τ) :
    processMessagesLoop dispatch invalidSize accumulatedBuffer t =
      .ok (match messageReader.drain (fun m => dispatch m.header m.payload) accumulatedBuffer t with
        | ⟨.waiting, rest, t⟩ => (true, rest, t)
        | ⟨.malformed, rest, t⟩ => (false, rest, invalidSize (frontHeader rest) t)
        | ⟨.rejected, rest, t⟩ => (false, rest, t)) := by
  induction accumulatedBuffer using messageReader.front_induction generalizing t with
  | incomplete bytes h =>
      rw [FrameReader.drain_incomplete _ h, processMessagesLoop]
      by_cases hguard : bytes.length ≥ messageHeaderSize
      · obtain ⟨header, hdecode, hsize, hshort⟩ := incomplete_loop h hguard
        rw [dif_pos hguard, hdecode, Checked.ok_bind]
        simp only [Bool.not_true, Bool.false_eq_true, if_false, dif_neg hsize, if_pos hshort,
          Checked.pure_eq]
      · rw [dif_neg hguard]
        rfl
  | malformed bytes h =>
      obtain ⟨hguard, hdecode, hsize⟩ := malformed_loop h
      rw [FrameReader.drain_malformed _ h, processMessagesLoop, dif_pos hguard, hdecode,
        Checked.ok_bind]
      simp only [Bool.not_true, Bool.false_eq_true, if_false, dif_pos hsize, Checked.pure_eq]
  | frame bytes message n h ih =>
      obtain ⟨hguard, hdecode, hsize, hall, hpayload, herase⟩ := frame_loop h
      rw [FrameReader.drain_frame _ h, processMessagesLoop, dif_pos hguard, hdecode,
        Checked.ok_bind]
      simp only [Bool.not_true, Bool.false_eq_true, if_false, dif_neg hsize, if_neg hall,
        hpayload, Checked.ok_bind, Checked.pure_eq]
      by_cases hok : (dispatch message.header message.payload t).1 = true
      · rw [if_pos hok, if_neg (by simp [hok])]
        split
        · next e he =>
            rw [herase] at he
            cases he
        · next rest he =>
            rw [herase] at he
            cases he
            exact ih _
      · rw [if_neg hok, if_pos (by simpa using hok)]

/-- The handler the loop of a session runs on every message. -/
def dispatchOn (callbacks : SessionCallbacks σ) (message : Message) (t : Session × σ) :
    Bool × Session × σ :=
  dispatchMessage callbacks message.header message.payload t.1 t.2

theorem processMessages_eq (callbacks : SessionCallbacks σ) (s : Session) (w : σ) :
    s.processMessages callbacks w =
      .ok (match messageReader.drain (dispatchOn callbacks) s.accumulatedBuffer (s, w) with
        | ⟨.waiting, rest, s, w⟩ => (true, { s with accumulatedBuffer := rest }, w)
        | ⟨.malformed, rest, s, w⟩ =>
          let (s, w) := (s.report (.invalidMessageSize (frontHeader rest).size)).close callbacks w
          (false, { s with accumulatedBuffer := rest }, w)
        | ⟨.rejected, rest, s, w⟩ => (false, { s with accumulatedBuffer := rest }, w)) := by
  rw [processMessages, processMessagesLoop_eq, Checked.ok_bind]
  rw [show (fun m : Message => (fun (header : MessageHeader) payload (t : Session × σ) =>
    dispatchMessage callbacks header payload t.1 t.2) m.header m.payload) =
      dispatchOn callbacks from rfl]
  rcases messageReader.drain (dispatchOn callbacks) s.accumulatedBuffer (s, w) with
    ⟨verdict, rest, t⟩
  cases verdict <;> rfl

theorem processReceivedData_inBounds (callbacks : SessionCallbacks σ) (received : List UInt8)
    (s : Session) (w : σ) : (s.processReceivedData callbacks received w).InBounds :=
  ⟨_, processMessages_eq callbacks _ w⟩

def readNext (s : Session) : Session :=
  if s.closed then s else { s with readsOutstanding := s.readsOutstanding + 1 }

/-- The lines `HandleRead` prints before it closes the session. -/
def reportReadError (s : Session) (error : ErrorCode) : Session :=
  if error == .eof then s.report .clientDisconnected
  else if error == .connectionReset then s.report .clientDisconnected
  else if error != .operationAborted then s.report (.receiveFailed error)
  else s

/-- `received` are the bytes the completed read has put into `receiveBuffer_`. -/
def handleRead (callbacks : SessionCallbacks σ) (error : Option ErrorCode) (received : List UInt8)
    (s : Session) (w : σ) : Session × σ :=
  if s.closed then (s, w)
  else
    let (processed, s, w) :=
      if received.length > 0 then
        (s.processReceivedData callbacks received w).get
          (processReceivedData_inBounds callbacks received s w)
      else (true, s, w)
    if !processed then (s, w)
    else
      match error with
      | none => (s.readNext, w)
      | some error => (s.reportReadError error).close callbacks w

def start (s : Session) : Session :=
  if s.closed then s else (s.report .clientConnected).readNext

end Session

end NetworkArena.Server
