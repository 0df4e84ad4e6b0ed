/-
# NetworkArena.Client.Deliveries -- from the bytes of a connection to the application

What a client hands on to its application. A dispatched message may ask for a callback
(`invocationOf`), which is posted and runs later, if the connection is still the current one. While
a client is open, the invocations already delivered on its connection and those still posted are
exactly the ones the dispatched messages ask for, in their order (`Delivering`).

The invariant is said of every application that keeps a game state and does not call the client back
(`Quiet`), and followed through every handler once: what a handler can do to the fields it depends
on is `Undisturbed`, `Lost`, or one of the few lemmas about dispatching and posting.
-/
import NetworkArena.Client.ClientApplication
import NetworkArena.Client.NetworkClientReceiving

namespace NetworkArena.Client

open NetworkArena.Foundation
open NetworkArena.Shared

variable {α : Type}

/-! ## What a message asks for -/

/-- The identity in a message. -/
def identityOf (message : Message) : Option PlayerIdentityPayload :=
  if message.type = .playerIdentity then
    let (decoded, identity) := (decodePlayerIdentityPayload message.payload {}).get
      (decodePlayerIdentityPayload_inBounds message.payload {})
    if decoded then some identity else none
  else none

/-- The snapshot in a message. -/
def snapshotOf (message : Message) : Option (WorldStateSnapshot FloatBits) :=
  if message.type = .worldStateSnapshot then
    let (decoded, snapshot) := (decodeWorldStateSnapshotPayload message.payload .default).get
      (decodeWorldStateSnapshotPayload_inBounds message.payload .default)
    if decoded then some snapshot else none
  else none

/-- The callback a message asks for. -/
def invocationOf (message : Message) : Option Invocation :=
  match identityOf message with
  | some identity => some (.playerIdentity identity)
  | none => (snapshotOf message).map .worldStateSnapshot

/-- The identity after some messages. -/
def lastIdentity (messages : List Message) : Option PlayerIdentityPayload :=
  (messages.filterMap identityOf).getLast?

theorem lastIdentity_concat (messages : List Message) (message : Message) :
    lastIdentity (messages ++ [message]) =
      (identityOf message).or (lastIdentity messages) := by
  rw [lastIdentity, List.filterMap_append]
  cases h : identityOf message with
  | none => simp [lastIdentity, h]
  | some identity => simp [h]

/-! ## Lines that report a violation -/

/-- The lines a client prints when a message it received violates the protocol. -/
def ClientDiagnostic.isViolation : ClientDiagnostic → Bool
  | .unsupportedMessageType _ => true
  | .invalidPongPayload _ => true
  | .invalidPongTimestamp => true
  | .invalidPlayerIdentityPayload _ => true
  | .invalidWorldStateSnapshotPayload _ => true
  | .worldStateSnapshotBeforePlayerIdentity _ => true
  | .worldStateSnapshotRoomMismatch _ _ => true
  | _ => false

/-- An application that never calls the client back. -/
def Quiet (env : ClientEnvironment α) : Prop :=
  ∀ invocation c a, (env.invoke invocation c a).1 = []

theorem quiet_environment (clock : ℕ → UInt64) : Quiet (ClientApplication.environment clock) :=
  fun _ _ _ => rfl

namespace NetworkClient

def violations (c : NetworkClient) : List ClientDiagnostic :=
  c.diagnostics.filter ClientDiagnostic.isViolation

theorem violations_report {c : NetworkClient} {diagnostic : ClientDiagnostic}
    (h : diagnostic.isViolation = false) : (c.report diagnostic).violations = c.violations := by
  simp [violations, report, h]

/-- The invocations posted on the connection of a generation. -/
def postedIn (c : NetworkClient) (generation : ℕ) : List Invocation :=
  (c.posted.filter (·.generation = generation)).map (·.invocation)

/-! ## What handlers do not touch -/

/-- Two clients that agree in all that concerns receiving and delivering, the buffer apart. -/
structure Undisturbed (c c' : NetworkClient) : Prop where
  generation : c'.connectionGeneration = c.connectionGeneration
  onPlayerIdentity : c'.onPlayerIdentity = c.onPlayerIdentity
  onWorldStateSnapshot : c'.onWorldStateSnapshot = c.onWorldStateSnapshot
  onDisconnected : c'.onDisconnected = c.onDisconnected
  playerIdentity : c'.playerIdentity = c.playerIdentity
  posted : c'.posted = c.posted
  dispatched : c'.dispatched = c.dispatched
  disconnections : c'.disconnections = c.disconnections
  violations : c'.violations = c.violations
  clockReads : c.clockReads ≤ c'.clockReads

/-- The same, and the connection is in the same state and has accepted the same messages. -/
structure Untouched (c c' : NetworkClient) : Prop extends Undisturbed c c' where
  state : c'.connectionState = c.connectionState
  onConnectionFailed : c'.onConnectionFailed = c.onConnectionFailed
  accepted : c'.accepted = c.accepted

/-- A client whose connection is over. -/
structure Lost (c c' : NetworkClient) : Prop where
  state : c'.connectionState = .disconnected
  generation : c.connectionGeneration ≤ c'.connectionGeneration
  posted : c'.posted = c.posted
  dispatched : c'.dispatched = c.dispatched
  accepted : c'.accepted = c.accepted
  violations : c'.violations = c.violations
  clockReads : c.clockReads ≤ c'.clockReads

section Frames

variable {c c' c'' : NetworkClient}

theorem Undisturbed.refl (c : NetworkClient) : Undisturbed c c :=
  ⟨rfl, rfl, rfl, rfl, rfl, rfl, rfl, rfl, rfl, Nat.le_refl _⟩

theorem Untouched.refl (c : NetworkClient) : Untouched c c := ⟨.refl c, rfl, rfl, rfl⟩

theorem Undisturbed.trans (h : Undisturbed c c') (h' : Undisturbed c' c'') : Undisturbed c c'' :=
  ⟨h'.generation.trans h.generation, h'.onPlayerIdentity.trans h.onPlayerIdentity,
    h'.onWorldStateSnapshot.trans h.onWorldStateSnapshot,
    h'.onDisconnected.trans h.onDisconnected, h'.playerIdentity.trans h.playerIdentity,
    h'.posted.trans h.posted, h'.dispatched.trans h.dispatched,
    h'.disconnections.trans h.disconnections, h'.violations.trans h.violations,
    h.clockReads.trans h'.clockReads⟩

theorem Untouched.trans (h : Untouched c c') (h' : Untouched c' c'') : Untouched c c'' :=
  ⟨h.toUndisturbed.trans h'.toUndisturbed, h'.state.trans h.state,
    h'.onConnectionFailed.trans h.onConnectionFailed, h'.accepted.trans h.accepted⟩

theorem Untouched.lost (h : Untouched c c') (h' : Lost c' c'') : Lost c c'' :=
  ⟨h'.state, h.generation ▸ h'.generation, h'.posted.trans h.posted,
    h'.dispatched.trans h.dispatched, h'.accepted.trans h.accepted,
    h'.violations.trans h.violations, h.clockReads.trans h'.clockReads⟩

theorem untouched_report (c : NetworkClient) {diagnostic : ClientDiagnostic}
    (h : diagnostic.isViolation = false) : Untouched c (c.report diagnostic) :=
  ⟨⟨rfl, rfl, rfl, rfl, rfl, rfl, rfl, rfl, violations_report h, Nat.le_refl _⟩, rfl, rfl, rfl⟩

/-- Changes of the buffers and of what asio owes. -/
theorem untouched_queues (c : NetworkClient) (accumulatedBuffer : List UInt8)
    (sendQueue : List (List UInt8)) (pendingSendBytes : ℕ) (reads : List ℕ)
    (writes : List ClientWrite) :
    Untouched c { c with
      accumulatedBuffer := accumulatedBuffer
      sendQueue := sendQueue
      pendingSendBytes := pendingSendBytes
      readsOutstanding := reads
      writesOutstanding := writes } :=
  ⟨⟨rfl, rfl, rfl, rfl, rfl, rfl, rfl, rfl, rfl, Nat.le_refl _⟩, rfl, rfl, rfl⟩

theorem untouched_retireResolve (c : NetworkClient) (generation : ℕ) :
    Untouched c (c.retireResolve generation) :=
  ⟨⟨rfl, rfl, rfl, rfl, rfl, rfl, rfl, rfl, rfl, Nat.le_refl _⟩, rfl, rfl, rfl⟩

theorem untouched_retireConnect (c : NetworkClient) (generation : ℕ) :
    Untouched c (c.retireConnect generation) :=
  ⟨⟨rfl, rfl, rfl, rfl, rfl, rfl, rfl, rfl, rfl, Nat.le_refl _⟩, rfl, rfl, rfl⟩

theorem untouched_writeNext (c : NetworkClient) (generation : ℕ) :
    Untouched c (c.writeNext generation) := by
  unfold writeNext
  split
  · exact .refl c
  · split
    · exact .refl c
    · split
      · exact .refl c
      · exact untouched_queues c ..

theorem untouched_readNext (c : NetworkClient) (generation : ℕ) :
    Untouched c (c.readNext generation) := by
  unfold readNext
  split
  · exact .refl c
  · split
    · exact .refl c
    · exact untouched_queues c ..

/-- Refusing a message prints nothing about messages received. -/
theorem untouched_send {c : NetworkClient} {type : MessageType} {payload : List UInt8}
    (h : (c.send type payload).1 = false) : Untouched c (c.send type payload).2 := by
  revert h
  unfold NetworkClient.send
  split
  · exact fun _ => .refl c
  split
  · exact fun _ => .refl c
  split
  · exact fun _ => untouched_report c rfl
  split
  split
  · exact fun _ => untouched_report c rfl
  split
  · exact fun _ => untouched_report c rfl
  · intro hsent
    cases hsent

/-- What `Send` does to a client: nothing, or it accepts the message. -/
theorem send_undisturbed (c : NetworkClient) (type : MessageType) (payload : List UInt8) :
    Undisturbed c (c.send type payload).2 ∧
      (c.send type payload).2.connectionState = c.connectionState ∧
      (c.send type payload).2.onConnectionFailed = c.onConnectionFailed ∧
      (c.send type payload).2.clockReads = c.clockReads ∧
      (c.send type payload).2.accepted = c.accepted ++
        if (c.send type payload).1 then [(c.connectionGeneration, ⟨type, payload⟩)] else [] := by
  rcases send_cases c type payload with ⟨haccepts, hsend⟩ | ⟨-, diagnostics, hsend⟩
  · rw [hsend]
    exact ⟨⟨rfl, rfl, rfl, rfl, rfl, rfl, rfl, rfl, rfl, Nat.le_refl _⟩, rfl, rfl, rfl, rfl⟩
  · have hrefused : Untouched c (c.send type payload).2 := untouched_send (by rw [hsend])
    refine ⟨hrefused.toUndisturbed, hrefused.state, hrefused.onConnectionFailed, ?_, ?_⟩
    · rw [hsend]
    · rw [hrefused.accepted, hsend]
      exact (List.append_nil _).symm

end Frames

/-! ## Requests -/

/-- The messages an honest client sends. The timestamps are readings its clock has already given. -/
inductive IsRequest (clock : ℕ → UInt64) (clockReads : ℕ) : Message → Prop
  | ping {k : ℕ} (hk : k < clockReads) :
      IsRequest clock clockReads ⟨.ping, PingPayload.bytes ⟨clock k⟩⟩
  | playerInput {input : PlayerInputPayload} (hinput : isValidPlayerInput input = true) :
      IsRequest clock clockReads ⟨.playerInput, input.bytes⟩

theorem IsRequest.mono {clock : ℕ → UInt64} {clockReads clockReads' : ℕ} {message : Message}
    (h : IsRequest clock clockReads message) (hle : clockReads ≤ clockReads') :
    IsRequest clock clockReads' message := by
  cases h with
  | ping hk => exact .ping (Nat.lt_of_lt_of_le hk hle)
  | playerInput hinput => exact .playerInput hinput

/-- What a call that sends can do. -/
structure Requests (clock : ℕ → UInt64) (c c' : NetworkClient) : Prop extends
    Undisturbed c c' where
  state : c'.connectionState = c.connectionState
  onConnectionFailed : c'.onConnectionFailed = c.onConnectionFailed
  accepted : c'.accepted = c.accepted ∨ ∃ message, IsRequest clock c'.clockReads message ∧
    c'.accepted = c.accepted ++ [(c.connectionGeneration, message)]

theorem Untouched.requests {c c' : NetworkClient} (h : Untouched c c') (clock : ℕ → UInt64) :
    Requests clock c c' :=
  ⟨h.toUndisturbed, h.state, h.onConnectionFailed, Or.inl h.accepted⟩

/-- Sending a request. -/
theorem requests_send {clock : ℕ → UInt64} {c : NetworkClient} {type : MessageType}
    {payload : List UInt8} (h : IsRequest clock c.clockReads ⟨type, payload⟩) :
    Requests clock c (c.send type payload).2 := by
  obtain ⟨hundisturbed, hstate, hfailed, hclock, haccepted⟩ := send_undisturbed c type payload
  refine ⟨hundisturbed, hstate, hfailed, ?_⟩
  cases hsent : (c.send type payload).1 with
  | false => exact Or.inl (by rw [haccepted, hsent]; exact List.append_nil _)
  | true =>
      refine Or.inr ⟨⟨type, payload⟩, by rw [hclock]; exact h, ?_⟩
      rw [haccepted, hsent]
      rfl

theorem requests_sendPing (clock : ℕ → UInt64) (c : NetworkClient) :
    Requests clock c (c.sendPing clock).2 := by
  unfold sendPing
  split
  · exact (Untouched.refl c).requests clock
  · dsimp only
    rw [Checked.get_eq (encodePingPayload_eq _)]
    have hread : Untouched c (c.readClock clock).2 :=
      ⟨⟨rfl, rfl, rfl, rfl, rfl, rfl, rfl, rfl, rfl, Nat.le_succ _⟩, rfl, rfl, rfl⟩
    have hsend : Requests clock (c.readClock clock).2
        ((c.readClock clock).2.send .ping (PingPayload.bytes ⟨clock c.clockReads⟩)).2 :=
      requests_send (.ping (Nat.lt_succ_self c.clockReads))
    refine ⟨hread.toUndisturbed.trans hsend.toUndisturbed, hsend.state,
      hsend.onConnectionFailed, hsend.accepted⟩

theorem requests_sendPlayerInput (clock : ℕ → UInt64) (input : PlayerInputPayload)
    (c : NetworkClient) : Requests clock c (c.sendPlayerInput input).2 := by
  unfold sendPlayerInput
  split
  · exact (Untouched.refl c).requests clock
  split
  · exact (untouched_report c rfl).requests clock
  by_cases hvalid : isValidPlayerInput input = true
  · rw [Checked.get_eq (encodePlayerInputPayload_valid hvalid)]
    exact requests_send (.playerInput hvalid)
  · have hrefused : encodePlayerInputPayload input =
        .ok (false, List.replicate playerInputPayloadSize 0) := if_pos (by simpa using hvalid)
    rw [Checked.get_eq hrefused]
    exact (untouched_report c rfl).requests clock

theorem Survives.probeRtt {P : NetworkClient → Prop} (hP : Survives P) (clock : ℕ → UInt64)
    {c : NetworkClient} (h : P c) (a : ClientApplication) :
    P (ClientApplication.probeRtt clock c a).1 := by
  unfold ClientApplication.probeRtt
  split
  · dsimp only
    split
    · have hping := hP.sendPing clock (hP.readClock clock h)
      split
      · exact hping
      · exact hping
    · exact hP.readClock clock h
  · exact h

/-- **`Update`** keeps what survives the calls of an application. -/
theorem Survives.update {P : NetworkClient → Prop} (hP : Survives P) (clock : ℕ → UInt64)
    (keys : Keys) {c : NetworkClient} (h : P c) (a : ClientApplication) :
    P (ClientApplication.update clock keys c a).1 := by
  have hsubmitted : ∀ {c : NetworkClient} (a : ClientApplication), P c →
      P (ClientApplication.submitPlayerInput keys c a).2.1 := by
    intro c a h
    unfold ClientApplication.submitPlayerInput
    split
    · exact h
    split
    · exact h
    split
    · exact h
    dsimp only
    split
    · exact h
    have hinput := hP.sendPlayerInput (collectPlayerInput keys) h
    split
    · exact hinput
    · exact hinput
  exact hsubmitted _ (hP.probeRtt clock h a)

theorem Survives.shutdown {P : NetworkClient → Prop} (hP : Survives P) {c : NetworkClient}
    (h : P c) (a : ClientApplication) : P (ClientApplication.shutdown c a).1 := by
  unfold ClientApplication.shutdown
  dsimp only
  split
  · exact hP.disconnect h
  · exact h

/-! ## Completions -/

/-- The callbacks an application needs in order to follow its connection. -/
structure Subscribed (c : NetworkClient) : Prop where
  onPlayerIdentity : c.connectionState ≠ .disconnected → c.onPlayerIdentity ≠ none
  onWorldStateSnapshot : c.connectionState ≠ .disconnected → c.onWorldStateSnapshot ≠ none
  onDisconnected : c.connectionState ≠ .disconnected → c.onDisconnected ≠ none
  onConnectionFailed : c.connectionState = .resolving ∨ c.connectionState = .connecting →
    c.onConnectionFailed ≠ none

/-- The end of an established connection. -/
structure Ended (env : ClientEnvironment α) (error : ErrorCode) (c : NetworkClient) (a : α)
    (c' : NetworkClient) (a' : α) : Prop extends Lost c c' where
  disconnections : c'.disconnections = c.disconnections ++ [(c.connectionGeneration, error)]
  application : ∃ c₁, a' = (env.invoke (.disconnected error) c₁ a).2

/-- **What a completion does**, reads and posted callbacks apart. `reported` is the error asio
reports. -/
inductive Completion (env : ClientEnvironment α) (reported : Option ErrorCode) (c : NetworkClient)
    (a : α) : NetworkClient → α → Prop
  | untouched {c'} (h : Untouched c c') : Completion env reported c a c' a
  | resolved {c'} (h : Undisturbed c c') (hbefore : c.connectionState = .resolving)
      (hstate : c'.connectionState = .connecting)
      (hfailed : c'.onConnectionFailed = c.onConnectionFailed)
      (haccepted : c'.accepted = c.accepted) : Completion env reported c a c' a
  | connected {c' a'} (h : Undisturbed c c') (hbefore : c.connectionState = .connecting)
      (hstate : c'.connectionState = .connected) (haccepted : c'.accepted = c.accepted)
      (ha : a' = a ∨ ∃ c₁, a' = (env.invoke .connected c₁ a).2) : Completion env reported c a c' a'
  | failed {c' a'} (h : Lost c c') (hdisconnections : c'.disconnections = c.disconnections)
      (ha : ∃ error c₁, a' = (env.invoke (.connectionFailed error) c₁ a).2) :
      Completion env reported c a c' a'
  | ended {c' a'} (error : ErrorCode) (herror : some error = reported ∨ error = .protocolError)
      (h : Ended env error c a c' a') : Completion env reported c a c' a'

section Completions

variable {env : ClientEnvironment α} (hquiet : Client.Quiet env) {c : NetworkClient}

include hquiet

theorem invoke_quiet (attempt : ℕ) (invocation : Invocation) (a : α) :
    ∃ c₁, c.invoke env (some attempt) invocation a =
      ({ c with invocations := c.invocations ++ [(attempt, invocation)] },
        (env.invoke invocation c₁ a).2) := by
  refine ⟨{ c with invocations := c.invocations ++ [(attempt, invocation)] }, ?_⟩
  simp only [NetworkClient.invoke]
  rw [hquiet]
  rfl

theorem completeDisconnection_ended (hsubscribed : Subscribed c) {generation : ℕ}
    (hcurrent : c.isCurrentOperation generation .connected = true) (error : ErrorCode) (a : α) :
    Ended env error c a (c.completeDisconnection env error generation a).1
      (c.completeDisconnection env error generation a).2 := by
  have hcurrent' := hcurrent
  simp only [isCurrentOperation, Bool.and_eq_true, beq_iff_eq] at hcurrent'
  obtain ⟨rfl, hconnected⟩ := hcurrent'
  obtain ⟨attempt, hattempt⟩ := Option.ne_none_iff_exists'.mp
    (hsubscribed.onDisconnected (by simp [hconnected]))
  unfold completeDisconnection
  simp only [hcurrent, Bool.not_true, Bool.false_eq_true, if_false, closeSocket, clearSendQueue,
    hattempt]
  obtain ⟨c₁, hinvoke⟩ := invoke_quiet hquiet (c := { c with
    connectionState := .disconnected
    disconnections := c.disconnections ++ [(c.connectionGeneration, error)]
    socketOpen := false
    accumulatedBuffer := []
    sendQueue := []
    pendingSendBytes := 0
    playerIdentity := none
    latestRttNanoseconds := none
    onDisconnected := none
    onPlayerIdentity := none
    onWorldStateSnapshot := none }) attempt (.disconnected error) a
  rw [hinvoke]
  exact ⟨⟨rfl, Nat.le_refl _, rfl, rfl, rfl, rfl, Nat.le_refl _⟩, rfl, c₁, rfl⟩

omit hquiet in
theorem completeDisconnection_late {generation : ℕ}
    (hlate : ¬ c.isCurrentOperation generation .connected = true) (error : ErrorCode) (a : α) :
    c.completeDisconnection env error generation a = (c, a) := by
  unfold completeDisconnection
  rw [if_pos (by simpa using hlate)]

theorem completeConnectionFailure_failed (hsubscribed : Subscribed c) {generation : ℕ}
    (hgeneration : generation = c.connectionGeneration)
    (hopening : c.connectionState = .resolving ∨ c.connectionState = .connecting)
    (error : ErrorCode) (a : α) :
    Lost c (c.completeConnectionFailure env error generation a).1 ∧
      (c.completeConnectionFailure env error generation a).1.disconnections = c.disconnections ∧
      ∃ c₁, (c.completeConnectionFailure env error generation a).2 =
        (env.invoke (.connectionFailed error) c₁ a).2 := by
  subst hgeneration
  obtain ⟨attempt, hattempt⟩ := Option.ne_none_iff_exists'.mp
    (hsubscribed.onConnectionFailed hopening)
  unfold completeConnectionFailure
  simp only [isCurrentGeneration, beq_self_eq_true, Bool.not_true, Bool.false_eq_true, if_false,
    closeSocket, clearSendQueue, hattempt]
  obtain ⟨c₁, hinvoke⟩ := invoke_quiet hquiet (c := { c with
    connectionState := .disconnected
    socketOpen := false
    accumulatedBuffer := []
    sendQueue := []
    pendingSendBytes := 0
    playerIdentity := none
    latestRttNanoseconds := none
    onConnectionFailed := none
    onConnected := none
    onDisconnected := none
    onPlayerIdentity := none
    onWorldStateSnapshot := none }) attempt (.connectionFailed error) a
  rw [hinvoke]
  exact ⟨⟨rfl, Nat.le_refl _, rfl, rfl, rfl, rfl, Nat.le_refl _⟩, rfl, c₁, rfl⟩

theorem handleResolve_completion (hsubscribed : Subscribed c) (error : Option ErrorCode)
    (generation : ℕ) (a : α) :
    Completion env error c a (c.handleResolve env error generation a).1
      (c.handleResolve env error generation a).2 := by
  unfold handleResolve
  split
  · exact .untouched (.refl c)
  next hcurrent =>
  simp only [isCurrentOperation, Bool.not_eq_true', Bool.not_eq_false, Bool.and_eq_true,
    beq_iff_eq] at hcurrent
  obtain ⟨hgeneration, hresolving⟩ := hcurrent
  cases error with
  | some error =>
      obtain ⟨hlost, hdisconnections, c₁, ha⟩ := completeConnectionFailure_failed hquiet
        hsubscribed hgeneration (Or.inl hresolving) error a
      exact .failed hlost hdisconnections ⟨error, c₁, ha⟩
  | none =>
      exact .resolved ⟨rfl, rfl, rfl, rfl, rfl, rfl, rfl, rfl, rfl, Nat.le_refl _⟩ hresolving rfl
        rfl rfl

theorem handleConnect_completion (hsubscribed : Subscribed c) (error : Option ErrorCode)
    (generation : ℕ) (a : α) :
    Completion env error c a (c.handleConnect env error generation a).1
      (c.handleConnect env error generation a).2 := by
  unfold handleConnect
  split
  · exact .untouched (.refl c)
  next hcurrent =>
  simp only [isCurrentOperation, Bool.not_eq_true', Bool.not_eq_false, Bool.and_eq_true,
    beq_iff_eq] at hcurrent
  obtain ⟨hgeneration, hconnecting⟩ := hcurrent
  cases error with
  | some error =>
      obtain ⟨hlost, hdisconnections, c₁, ha⟩ := completeConnectionFailure_failed hquiet
        hsubscribed hgeneration (Or.inr hconnecting) error a
      exact .failed hlost hdisconnections ⟨error, c₁, ha⟩
  | none =>
      dsimp only
      have hopened : ∀ invocations, Undisturbed c { c with
          connectionState := .connected
          onConnected := none
          onConnectionFailed := none
          invocations := invocations } := fun _ =>
        ⟨rfl, rfl, rfl, rfl, rfl, rfl, rfl, rfl, rfl, Nat.le_refl _⟩
      have hread : ∀ {invocations a'}, (a' = a ∨ ∃ c₁, a' = (env.invoke .connected c₁ a).2) →
          Completion env none c a (readNext { c with
            connectionState := .connected
            onConnected := none
            onConnectionFailed := none
            invocations := invocations } generation) a' := by
        intro invocations a' ha
        have hnext := untouched_readNext { c with
          connectionState := .connected
          onConnected := none
          onConnectionFailed := none
          invocations := invocations } generation
        exact .connected ((hopened invocations).trans hnext.toUndisturbed) hconnecting hnext.state
          hnext.accepted ha
      cases honConnected : c.onConnected with
      | none =>
          rw [if_pos (by simp [NetworkClient.invoke, isCurrentOperation, hgeneration])]
          exact hread (Or.inl rfl)
      | some attempt =>
          obtain ⟨c₁, hinvoke⟩ := invoke_quiet hquiet (c := { c with
            connectionState := .connected, onConnected := none, onConnectionFailed := none })
            attempt .connected a
          simp only [hinvoke]
          rw [if_pos (by simp [isCurrentOperation, hgeneration])]
          exact hread (Or.inr ⟨c₁, rfl⟩)

omit hquiet in
/-- A completion after the client has been changed in a way that does not count. -/
theorem Completion.after {reported : Option ErrorCode} {c₀ c' : NetworkClient} {a a' : α}
    (h : Completion env reported c a c' a') (huntouched : Untouched c₀ c) :
    Completion env reported c₀ a c' a' := by
  cases h with
  | untouched h => exact .untouched (huntouched.trans h)
  | resolved h hbefore hstate hfailed haccepted =>
      exact .resolved (huntouched.toUndisturbed.trans h) (huntouched.state.symm.trans hbefore)
        hstate (hfailed.trans huntouched.onConnectionFailed) (haccepted.trans huntouched.accepted)
  | connected h hbefore hstate haccepted ha =>
      exact .connected (huntouched.toUndisturbed.trans h) (huntouched.state.symm.trans hbefore)
        hstate (haccepted.trans huntouched.accepted) ha
  | failed h hdisconnections ha =>
      exact .failed (huntouched.lost h) (hdisconnections.trans huntouched.disconnections) ha
  | ended error herror h =>
      refine .ended error herror ⟨huntouched.lost h.toLost, ?_, h.application⟩
      rw [h.disconnections, huntouched.disconnections, huntouched.generation]

omit hquiet in
theorem Subscribed.of_untouched {c' : NetworkClient} (h : Subscribed c) (h' : Untouched c c') :
    Subscribed c' := by
  constructor
  · rw [h'.state, h'.onPlayerIdentity]; exact h.onPlayerIdentity
  · rw [h'.state, h'.onWorldStateSnapshot]; exact h.onWorldStateSnapshot
  · rw [h'.state, h'.onDisconnected]; exact h.onDisconnected
  · rw [h'.state, h'.onConnectionFailed]; exact h.onConnectionFailed

theorem handleWrite_completion (hsubscribed : Subscribed c) (error : Option ErrorCode)
    (count generation : ℕ) (a : α) :
    Completion env error c a (c.handleWrite env error count generation a).1
      (c.handleWrite env error count generation a).2 := by
  unfold handleWrite
  split
  · exact .untouched (.refl c)
  next hcurrent =>
  have hcurrent' : c.isCurrentOperation generation .connected = true := by simpa using hcurrent
  -- every way to give up is a change that does not count and `CompleteDisconnection`
  have hend : ∀ {c₁ : NetworkClient} (e : ErrorCode), some e = error ∨ e = .protocolError →
      Untouched c c₁ → Completion env error c a (c₁.completeDisconnection env e generation a).1
        (c₁.completeDisconnection env e generation a).2 := by
    intro c₁ e he huntouched
    have hstill : c₁.isCurrentOperation generation .connected = true := by
      rw [isCurrentOperation, huntouched.generation, huntouched.state]
      exact hcurrent'
    refine Completion.after ?_ huntouched
    exact .ended e he (completeDisconnection_ended hquiet
      (hsubscribed.of_untouched huntouched) hstill e a)
  cases error with
  | some error => exact hend error (Or.inl rfl) (untouched_report c rfl)
  | none =>
      dsimp only
      split
      · exact hend _ (Or.inr rfl) (untouched_report c rfl)
      next front rest _ =>
      split
      · exact hend _ (Or.inr rfl) (untouched_report c rfl)
      split
      · exact hend _ (Or.inr rfl) (untouched_report c rfl)
      have htaken : Untouched c { c with
          pendingSendBytes := c.pendingSendBytes - front.length, sendQueue := rest } :=
        untouched_queues c ..
      split
      · exact .untouched (htaken.trans (untouched_writeNext _ generation))
      split
      · exact hend _ (Or.inr rfl) (htaken.trans (untouched_report _ rfl))
      · exact .untouched htaken

end Completions

/-! ## Dispatching -/

/-- The messages a client takes in a given state. -/
inductive Dispatchable (clock : ℕ → UInt64) (c : NetworkClient) : Message → Prop
  | pong (ping : PingPayload)
      (hsent : ping.clientPingTxTimestampNanoseconds ≤ clock c.clockReads) :
      Dispatchable clock c ⟨.pong, ping.bytes⟩
  | playerIdentity {message : Message} {identity : PlayerIdentityPayload}
      (h : identityOf message = some identity) : Dispatchable clock c message
  | worldStateSnapshot {message : Message} {snapshot : WorldStateSnapshot FloatBits}
      {identity : PlayerIdentityPayload} (h : snapshotOf message = some snapshot)
      (hidentity : c.playerIdentity = some identity) (hroom : snapshot.roomId = identity.roomId) :
      Dispatchable clock c message

/-- What taking a message does to a client. -/
structure Dispatched (message : Message) (c c' : NetworkClient) : Prop where
  generation : c'.connectionGeneration = c.connectionGeneration
  state : c'.connectionState = c.connectionState
  onPlayerIdentity : c'.onPlayerIdentity = c.onPlayerIdentity
  onWorldStateSnapshot : c'.onWorldStateSnapshot = c.onWorldStateSnapshot
  onDisconnected : c'.onDisconnected = c.onDisconnected
  onConnectionFailed : c'.onConnectionFailed = c.onConnectionFailed
  playerIdentity : c'.playerIdentity = (identityOf message).or c.playerIdentity
  posted : ∃ attempt, c'.posted = c.posted ++
    (invocationOf message).toList.map (⟨c.connectionGeneration, attempt, ·⟩)
  dispatched : c'.dispatched = c.dispatched ++ [(c.connectionGeneration, message)]
  disconnections : c'.disconnections = c.disconnections
  accepted : c'.accepted = c.accepted
  violations : c'.violations = c.violations
  clockReads : c.clockReads ≤ c'.clockReads

section Dispatching

variable {clock : ℕ → UInt64} {c : NetworkClient} {message : Message}

theorem identityOf_of_type (h : message.type ≠ .playerIdentity) : identityOf message = none :=
  if_neg h

theorem snapshotOf_of_type (h : message.type ≠ .worldStateSnapshot) : snapshotOf message = none :=
  if_neg h

theorem invocationOf_none (hidentity : message.type ≠ .playerIdentity)
    (hsnapshot : message.type ≠ .worldStateSnapshot) : invocationOf message = none := by
  rw [invocationOf, identityOf_of_type hidentity, snapshotOf_of_type hsnapshot]
  rfl

/-- **A client takes what it can dispatch.** -/
theorem dispatchMessage_true (h : Dispatchable clock c message) :
    (c.dispatchMessage clock message.header message.payload).1 = true := by
  unfold dispatchMessage
  dsimp only
  cases h with
  | pong ping hsent =>
      -- the pong answers a ping that was sent before, so its time is not in the future
      have hfresh : ¬ clock c.clockReads < ping.clientPingTxTimestampNanoseconds :=
        UInt64.not_lt.mpr hsent
      rw [if_pos (by rfl)]
      unfold handlePong
      rw [Checked.get_eq (decodePingPayload_bytes ping {})]
      simp [readClock, hfresh]
  | @playerIdentity _ identity h =>
      have htype : message.type = .playerIdentity := by
        by_contra hne
        rw [identityOf_of_type hne] at h
        cases h
      rw [identityOf, if_pos htype] at h
      rw [if_neg (by simp [Message.header, htype, MessageType.playerIdentity, MessageType.pong]),
        if_pos (by simp [Message.header, htype])]
      unfold handlePlayerIdentity
      revert h
      rcases (decodePlayerIdentityPayload message.payload {}).get
        (decodePlayerIdentityPayload_inBounds message.payload {}) with ⟨decoded, decodedIdentity⟩
      cases decoded with
      | true => exact fun _ => rfl
      | false =>
          intro h
          cases h
  | @worldStateSnapshot _ snapshot identity h hidentity hroom =>
      have htype : message.type = .worldStateSnapshot := by
        by_contra hne
        rw [snapshotOf_of_type hne] at h
        cases h
      rw [snapshotOf, if_pos htype] at h
      rw [if_neg (by simp [Message.header, htype, MessageType.worldStateSnapshot,
          MessageType.pong]),
        if_neg (by simp [Message.header, htype, MessageType.worldStateSnapshot,
          MessageType.playerIdentity]),
        if_pos (by simp [Message.header, htype])]
      unfold handleWorldStateSnapshot
      revert h
      rcases (decodeWorldStateSnapshotPayload message.payload .default).get
        (decodeWorldStateSnapshotPayload_inBounds message.payload .default) with
          ⟨decoded, decodedSnapshot⟩
      cases decoded with
      | true =>
          intro h
          obtain rfl : decodedSnapshot = snapshot := by simpa using h
          simp [hidentity, hroom]
      | false =>
          intro h
          cases h

/-- **What a message that is taken does.** -/
theorem dispatchMessage_dispatched (hidentity : c.onPlayerIdentity ≠ none)
    (hsnapshot : c.onWorldStateSnapshot ≠ none)
    (h : (c.dispatchMessage clock message.header message.payload).1 = true) :
    Dispatched message c (c.dispatchMessage clock message.header message.payload).2 := by
  revert h
  unfold dispatchMessage
  dsimp only
  split
  · next htype =>
      have htype' : message.type = .pong := htype
      have hno : identityOf message = none ∧ invocationOf message = none :=
        ⟨identityOf_of_type (by rw [htype']; decide),
          invocationOf_none (by rw [htype']; decide) (by rw [htype']; decide)⟩
      unfold handlePong readClock
      split
      split
      · nofun
      dsimp only
      split
      · nofun
      · exact fun _ => ⟨rfl, rfl, rfl, rfl, rfl, rfl, by rw [hno.1]; rfl,
          ⟨0, by rw [hno.2]; exact (List.append_nil _).symm⟩, rfl, rfl, rfl, rfl,
          Nat.le_succ _⟩
  split
  · next htype =>
      have htype' : message.type = .playerIdentity := htype
      unfold handlePlayerIdentity
      rcases hdecode : (decodePlayerIdentityPayload message.payload {}).get
        (decodePlayerIdentityPayload_inBounds message.payload {}) with ⟨decoded, identity⟩
      cases decoded with
      | false => nofun
      | true =>
          have hsome : identityOf message = some identity := by
            rw [identityOf, if_pos htype', hdecode]
            rfl
          obtain ⟨attempt, hattempt⟩ := Option.ne_none_iff_exists'.mp hidentity
          simp only [Bool.not_true, Bool.false_eq_true, if_false, post, hattempt]
          exact fun _ => ⟨rfl, rfl, hattempt.symm, rfl, rfl, rfl, by rw [hsome]; rfl,
            ⟨attempt, by rw [invocationOf, hsome]; rfl⟩, rfl, rfl, rfl, rfl, Nat.le_refl _⟩
  split
  · next hnot htype =>
      have htype' : message.type = .worldStateSnapshot := htype
      have hno : identityOf message = none := identityOf_of_type hnot
      unfold handleWorldStateSnapshot
      rcases hdecode : (decodeWorldStateSnapshotPayload message.payload .default).get
        (decodeWorldStateSnapshotPayload_inBounds message.payload .default) with
          ⟨decoded, snapshot⟩
      cases decoded with
      | false => nofun
      | true =>
          have hsome : snapshotOf message = some snapshot := by
            rw [snapshotOf, if_pos htype', hdecode]
            rfl
          obtain ⟨attempt, hattempt⟩ := Option.ne_none_iff_exists'.mp hsnapshot
          simp only [Bool.not_true, Bool.false_eq_true, if_false]
          split
          · nofun
          split
          · nofun
          simp only [post, hattempt]
          exact fun _ => ⟨rfl, rfl, rfl, hattempt.symm, rfl, rfl, by rw [hno]; rfl,
            ⟨attempt, by rw [invocationOf, hno, hsome]; rfl⟩, rfl, rfl, rfl, rfl, Nat.le_refl _⟩
  · nofun

end Dispatching

/-! ## A completed read -/

/-- What `HandleRead` does when the bytes it received are processed. -/
def readOn (env : ClientEnvironment α) (error : Option ErrorCode) (generation : ℕ)
    (c : NetworkClient) (a : α) : NetworkClient × α :=
  match error with
  | none => (c.readNext generation, a)
  | some error => c.completeDisconnection env error generation a

/-- What a read leaves of the client before the connection goes on or ends: nothing was received, or
the messages in the buffer were drained. -/
def ReadTo (env : ClientEnvironment α) (c : NetworkClient) (received : List UInt8) (a : α)
    (verdict : Verdict) (c₁ : NetworkClient) : Prop :=
  (received = [] ∧ verdict = .waiting ∧ c₁ = c) ∨
    (verdict = (messageReader.drain (dispatchOn env) (c.accumulatedBuffer ++ received)
        ({ c with accumulatedBuffer := c.accumulatedBuffer ++ received }, a)).verdict ∧
      Untouched (messageReader.drain (dispatchOn env) (c.accumulatedBuffer ++ received)
        ({ c with accumulatedBuffer := c.accumulatedBuffer ++ received }, a)).state.1 c₁)

/-- **A read**: it is late, it ends the connection with the reported error or because of what was
received, or the next read is started. -/
theorem handleRead_cases (env : ClientEnvironment α) (error : Option ErrorCode)
    (received : List UInt8) (generation : ℕ) (c : NetworkClient) (a : α) :
    c.handleRead env error received generation a = (c, a) ∨
      c.isCurrentOperation generation .connected = true ∧ ∃ verdict c₁,
        ReadTo env c received a verdict c₁ ∧
          ((verdict = .waiting ∧ error = none ∧
              c.handleRead env error received generation a = (c₁.readNext generation, a)) ∨
            ∃ e, (verdict = .waiting → some e = error) ∧
              c.handleRead env error received generation a =
                c₁.completeDisconnection env e generation a) := by
  by_cases hcurrent : c.isCurrentOperation generation .connected = true
  swap
  · left
    unfold handleRead
    rw [if_pos (by simpa using hcurrent)]
  refine Or.inr ⟨hcurrent, ?_⟩
  -- after the bytes, `HandleRead` looks at the error: it decides between reading on and the end
  have hafter : ∀ c₁, ReadTo env c received a .waiting c₁ → ∃ verdict c₂,
      ReadTo env c received a verdict c₂ ∧
        ((verdict = .waiting ∧ error = none ∧
          c₁.readOn env error generation a = (c₂.readNext generation, a)) ∨
          ∃ e, (verdict = .waiting → some e = error) ∧
            c₁.readOn env error generation a =
              c₂.completeDisconnection env e generation a) := by
    intro c₁ hread
    cases error with
    | none => exact ⟨.waiting, c₁, hread, Or.inl ⟨rfl, rfl, rfl⟩⟩
    | some e => exact ⟨.waiting, c₁, hread, Or.inr ⟨e, fun _ => rfl, rfl⟩⟩
  unfold handleRead
  rw [if_neg (by simp [hcurrent])]
  by_cases hreceived : received.length > 0
  · simp only [if_pos hreceived]
    rw [processReceivedData_get]
    have happlication := (drain_frame env (c.accumulatedBuffer ++ received)
      { c with accumulatedBuffer := c.accumulatedBuffer ++ received } a).2
    unfold ReadTo at hafter ⊢
    revert happlication hafter
    rcases messageReader.drain (dispatchOn env) (c.accumulatedBuffer ++ received)
      ({ c with accumulatedBuffer := c.accumulatedBuffer ++ received }, a) with
        ⟨verdict, rest, c₁, a₁⟩
    intro hafter happlication
    obtain rfl : a₁ = a := happlication
    have hrest : Untouched c₁ { c₁ with accumulatedBuffer := rest } := untouched_queues c₁ ..
    cases verdict with
    | waiting =>
        simp only [Bool.not_true, Bool.false_eq_true, if_false]
        exact hafter { c₁ with accumulatedBuffer := rest } (Or.inr ⟨rfl, hrest⟩)
    | malformed =>
        refine ⟨.malformed, _, Or.inr ⟨rfl, hrest⟩, Or.inr ⟨_, ?_, rfl⟩⟩
        intro hwaiting
        cases hwaiting
    | rejected =>
        refine ⟨.rejected, _, Or.inr ⟨rfl, hrest⟩, Or.inr ⟨_, ?_, rfl⟩⟩
        intro hwaiting
        cases hwaiting
  · have hnothing : received = [] := by
      rw [gt_iff_lt, List.length_pos_iff, not_not] at hreceived
      exact hreceived
    simp only [if_neg hreceived, Bool.not_true, Bool.false_eq_true, if_false]
    exact hafter c (Or.inl ⟨hnothing, rfl, rfl⟩)

/-! ## Following a connection -/

/-- An open client and its game state, when `delivered` are the invocations of its connection that
have reached the application, and `start` says what game states its attempts start with. -/
structure Delivered (start : ClientGameState → Prop) (c : NetworkClient) (g : ClientGameState)
    (delivered : List Invocation) : Prop where
  asked : delivered ++ c.postedIn c.connectionGeneration =
    (c.dispatchedIn c.connectionGeneration).filterMap invocationOf
  gameState : ∃ g₀, start g₀ ∧ g = delivered.foldl ClientGameState.receive g₀

/-- What holds between a client and the game state of its application. -/
structure Delivering (start : ClientGameState → Prop) (c : NetworkClient) (g : ClientGameState) :
    Prop where
  subscribed : Subscribed c
  postedPast : ∀ p ∈ c.posted, p.generation ≤ c.connectionGeneration
  identity : c.connectionState ≠ .disconnected →
    c.playerIdentity = lastIdentity (c.dispatchedIn c.connectionGeneration)
  delivered : c.connectionState ≠ .disconnected → ∃ delivered,
    Delivered start c g delivered

theorem delivering_initial (start : ClientGameState → Prop) : Delivering start {} {} :=
  ⟨⟨fun h => absurd rfl h, fun h => absurd rfl h, fun h => absurd rfl h,
    fun h => by rcases h with h | h <;> cases h⟩, nofun, fun h => absurd rfl h,
    fun h => absurd rfl h⟩

section Delivering

variable {start : ClientGameState → Prop} {c c' : NetworkClient} {g g' : ClientGameState}

theorem Delivering.undisturbed (h : Delivering start c g) (h' : Undisturbed c c')
    (hstate : c'.connectionState = .disconnected ↔ c.connectionState = .disconnected)
    (hfailed : c'.connectionState = .resolving ∨ c'.connectionState = .connecting →
      c'.onConnectionFailed ≠ none) : Delivering start c' g where
  subscribed := by
    have hopen : c'.connectionState ≠ .disconnected → c.connectionState ≠ .disconnected :=
      fun hne heq => hne (hstate.mpr heq)
    refine ⟨?_, ?_, ?_, hfailed⟩
    · intro hne
      rw [h'.onPlayerIdentity]
      exact h.subscribed.onPlayerIdentity (hopen hne)
    · intro hne
      rw [h'.onWorldStateSnapshot]
      exact h.subscribed.onWorldStateSnapshot (hopen hne)
    · intro hne
      rw [h'.onDisconnected]
      exact h.subscribed.onDisconnected (hopen hne)
  postedPast := by
    rw [h'.posted, h'.generation]
    exact h.postedPast
  identity hne := by
    rw [h'.playerIdentity, h'.generation, dispatchedIn, h'.dispatched]
    exact h.identity fun heq => hne (hstate.mpr heq)
  delivered hne := by
    obtain ⟨delivered, hasked, hgame⟩ := h.delivered fun heq => hne (hstate.mpr heq)
    refine ⟨delivered, ?_, hgame⟩
    rw [h'.generation, postedIn, h'.posted, dispatchedIn, h'.dispatched]
    exact hasked

theorem Delivering.untouched (h : Delivering start c g) (h' : Untouched c c') :
    Delivering start c' g :=
  h.undisturbed h'.toUndisturbed (by rw [h'.state]) (by
    rw [h'.state, h'.onConnectionFailed]
    exact h.subscribed.onConnectionFailed)

theorem Delivering.requests {clock : ℕ → UInt64} (h : Delivering start c g)
    (h' : Requests clock c c') : Delivering start c' g :=
  h.undisturbed h'.toUndisturbed (by rw [h'.state]) (by
    rw [h'.state, h'.onConnectionFailed]
    exact h.subscribed.onConnectionFailed)

theorem Delivering.lost (h : Delivering start c g) (h' : Lost c c') : Delivering start c' g' where
  subscribed :=
    ⟨fun hne => absurd h'.state hne, fun hne => absurd h'.state hne,
      fun hne => absurd h'.state hne, fun hopen => by
        rw [h'.state] at hopen
        rcases hopen with hopen | hopen <;> cases hopen⟩
  postedPast p hp := (h.postedPast p (h'.posted ▸ hp)).trans h'.generation
  identity hne := absurd h'.state hne
  delivered hne := absurd h'.state hne

theorem lost_disconnect (hopen : c.connectionState ≠ .disconnected) : Lost c c.disconnect.2 := by
  unfold disconnect
  rw [if_neg (by simpa using hopen)]
  exact ⟨rfl, Nat.le_succ _, rfl, rfl, rfl, rfl, Nat.le_refl _⟩

theorem disconnect_disconnected (hclosed : c.connectionState = .disconnected) :
    c.disconnect.2 = c := by
  unfold disconnect
  rw [if_pos (by simpa using hclosed)]

/-- A new attempt starts with nothing dispatched, posted or delivered. -/
theorem Delivering.connect (h : Delivering start c g) {inp : ℕ → List UInt8}
    (hin : c.ReceiveSide inp) (hstart : c.connectionState = .disconnected → start g)
    (host : String) (port : UInt16) : Delivering start (c.connect host port {}).2 g := by
  unfold NetworkClient.connect
  split
  · exact h
  next hclosed =>
  split
  · exact h
  have hclosed : c.connectionState = .disconnected := by simpa using hclosed
  have hdispatched : c.dispatchedIn (c.connectionGeneration + 1) = [] :=
    (hin.future (Nat.lt_succ_self _)).2
  have hposted : c.postedIn (c.connectionGeneration + 1) = [] := by
    rw [postedIn, List.filter_eq_nil_iff.mpr, List.map_nil]
    intro p hp hgeneration
    have hpast := h.postedPast p hp
    simp only [decide_eq_true_eq] at hgeneration
    omega
  refine ⟨⟨nofun, nofun, nofun, nofun⟩, fun p hp => (h.postedPast p hp).trans (Nat.le_succ _),
    fun _ => ?_, fun _ => ⟨[], ?_, g, hstart hclosed, rfl⟩⟩
  · show none = lastIdentity (c.dispatchedIn (c.connectionGeneration + 1))
    rw [hdispatched]
    rfl
  · show c.postedIn (c.connectionGeneration + 1) =
      (c.dispatchedIn (c.connectionGeneration + 1)).filterMap invocationOf
    rw [hdispatched, hposted]
    rfl

/-- Taking a message adds the invocation it asks for to those posted. -/
theorem Delivering.dispatched (h : Delivering start c g) (hopen : c.connectionState ≠ .disconnected)
    {message : Message} (h' : Dispatched message c c') : Delivering start c' g := by
  have hin : c'.dispatchedIn c'.connectionGeneration =
      c.dispatchedIn c.connectionGeneration ++ [message] := by
    have hlog : c'.dispatched = c.dispatched ++ [message].map (c.connectionGeneration, ·) :=
      h'.dispatched
    rw [dispatchedIn_append hlog, h'.generation, if_pos rfl]
  obtain ⟨attempt, hposted⟩ := h'.posted
  constructor
  · refine ⟨fun _ => ?_, fun _ => ?_, fun _ => ?_, ?_⟩
    · rw [h'.onPlayerIdentity]
      exact h.subscribed.onPlayerIdentity hopen
    · rw [h'.onWorldStateSnapshot]
      exact h.subscribed.onWorldStateSnapshot hopen
    · rw [h'.onDisconnected]
      exact h.subscribed.onDisconnected hopen
    · rw [h'.state, h'.onConnectionFailed]
      exact h.subscribed.onConnectionFailed
  · intro p hp
    rw [hposted] at hp
    rw [h'.generation]
    rcases List.mem_append.mp hp with hp | hp
    · exact h.postedPast p hp
    · obtain ⟨invocation, -, rfl⟩ := List.mem_map.mp hp
      exact Nat.le_refl _
  · intro _
    rw [h'.playerIdentity, hin, lastIdentity_concat, h.identity hopen]
  · intro _
    obtain ⟨delivered, hasked, hgame⟩ := h.delivered hopen
    refine ⟨delivered, ?_, hgame⟩
    rw [hin, List.filterMap_append, ← hasked, postedIn, hposted, h'.generation, List.filter_append,
      List.map_append, List.append_assoc]
    congr 2
    cases hinvocation : invocationOf message with
    | none => simp [hinvocation]
    | some invocation => simp [hinvocation]

/-- A callback is asked for by a message, and what it does to the game state is known. -/
theorem invocationOf_cases {message : Message} {invocation : Invocation}
    (h : invocationOf message = some invocation) :
    (∃ identity, identityOf message = some identity ∧ invocation = .playerIdentity identity) ∨
      ∃ snapshot, snapshotOf message = some snapshot ∧
        invocation = .worldStateSnapshot snapshot := by
  unfold invocationOf at h
  split at h
  · next identity hidentity =>
      cases h
      exact Or.inl ⟨identity, hidentity, rfl⟩
  · obtain ⟨snapshot, hsnapshot, rfl⟩ := Option.map_eq_some_iff.mp h
    exact Or.inr ⟨snapshot, hsnapshot, rfl⟩

/-- The front of the posted callbacks, when it is of the current connection: it is the next one the
dispatched messages ask for. -/
theorem Delivered.next {delivered : List Invocation} (h : Delivered start c g delivered)
    {p : PostedCallback} {rest : List PostedCallback} (hposted : c.posted = p :: rest)
    (hgeneration : p.generation = c.connectionGeneration) (invocations : List (ℕ × Invocation)) :
    delivered ++ [p.invocation] <+:
        (c.dispatchedIn c.connectionGeneration).filterMap invocationOf ∧
      Delivered start { c with posted := rest, invocations := invocations } (g.receive p.invocation)
        (delivered ++ [p.invocation]) := by
  have hfront : c.postedIn c.connectionGeneration =
      p.invocation :: (rest.filter (·.generation = c.connectionGeneration)).map (·.invocation) := by
    rw [postedIn, hposted, List.filter_cons_of_pos (by simp [hgeneration])]
    rfl
  have hasked : (delivered ++ [p.invocation]) ++
      (rest.filter (·.generation = c.connectionGeneration)).map (·.invocation) =
        (c.dispatchedIn c.connectionGeneration).filterMap invocationOf := by
    rw [← h.asked, hfront, List.append_assoc]
    rfl
  obtain ⟨g₀, hstart, rfl⟩ := h.gameState
  exact ⟨⟨_, hasked⟩, hasked, g₀, hstart, by rw [List.foldl_append]; rfl⟩

/-- A posted callback has run, or was too late to run. -/
theorem Delivering.posted (h : Delivering start c g) {inp : ℕ → List UInt8}
    (hin : c.ReceiveSide inp)
    {p : PostedCallback} {rest : List PostedCallback} (hposted : c.posted = p :: rest)
    (invocations : List (ℕ × Invocation)) :
    Delivering start { c with posted := rest, invocations := invocations }
      (if c.isCurrentOperation p.generation .connected then g.receive p.invocation else g) where
  subscribed := ⟨h.subscribed.onPlayerIdentity, h.subscribed.onWorldStateSnapshot,
    h.subscribed.onDisconnected, h.subscribed.onConnectionFailed⟩
  postedPast q hq := h.postedPast q (hposted ▸ List.mem_cons_of_mem _ hq)
  identity := h.identity
  delivered hopen := by
    obtain ⟨delivered, hdelivered⟩ := h.delivered hopen
    by_cases hgeneration : p.generation = c.connectionGeneration
    · obtain ⟨hbefore, hnext⟩ := hdelivered.next hposted hgeneration invocations
      have hconnected : c.connectionState = .connected := by
        cases hstate : c.connectionState with
        | connected => rfl
        | disconnected => exact absurd hstate hopen
        | resolving =>
            rw [(hin.opening (Or.inl hstate)).2.2.1] at hbefore
            simp at hbefore
        | connecting =>
            rw [(hin.opening (Or.inr hstate)).2.2.1] at hbefore
            simp at hbefore
      rw [if_pos (by simp [isCurrentOperation, hgeneration, hconnected])]
      exact ⟨_, hnext⟩
    · rw [if_neg (by simp [isCurrentOperation, hgeneration])]
      refine ⟨delivered, ?_, hdelivered.gameState⟩
      have hskip : c.postedIn c.connectionGeneration =
          (rest.filter (·.generation = c.connectionGeneration)).map (·.invocation) := by
        rw [postedIn, hposted, List.filter_cons_of_neg (by simpa using hgeneration)]
      have hasked := hdelivered.asked
      rw [hskip] at hasked
      exact hasked

end Delivering

/-! ## The posted callbacks of the application -/

/-- What `handlePosted` does for an application that does not call back: the callback runs if its
connection is the current one. -/
theorem handlePosted_eq (clock : ℕ → UInt64) {c : NetworkClient} {p : PostedCallback}
    {rest : List PostedCallback} (hposted : c.posted = p :: rest) (a : ClientApplication) :
    ∃ invocations, (c.retirePosted 0).handlePosted (ClientApplication.environment clock) p a =
      ({ c with posted := rest, invocations := invocations },
        if c.isCurrentOperation p.generation .connected then
          a.handle c.connectionGeneration p.invocation
        else a) := by
  have hretired : c.retirePosted 0 = { c with posted := rest } := by
    simp [retirePosted, hposted]
  unfold handlePosted
  rw [hretired]
  by_cases hcurrent : c.isCurrentOperation p.generation .connected = true
  · rw [if_neg (by simpa [isCurrentOperation] using hcurrent), if_pos hcurrent]
    exact ⟨_, rfl⟩
  · have hlate : isCurrentOperation { c with posted := rest } p.generation .connected = false := by
      simpa [isCurrentOperation] using hcurrent
    rw [if_pos (by rw [hlate]; rfl), if_neg hcurrent]
    exact ⟨c.invocations, rfl⟩

/-- The handlers of the application apply what they are given to the game state. -/
theorem handle_gameState (a : ClientApplication) (generation : ℕ) {message : Message}
    {invocation : Invocation} (h : invocationOf message = some invocation) :
    (a.handle generation invocation).clientGameState = a.clientGameState.receive invocation := by
  rcases invocationOf_cases h with ⟨identity, -, rfl⟩ | ⟨snapshot, -, rfl⟩
  · simp only [ClientApplication.handle, ClientApplication.handlePlayerIdentity,
      ClientGameState.receive]
    rcases a.clientGameState.applyPlayerIdentity_cases identity with hno | hyes
    · rw [hno]
      rfl
    · rw [hyes]
      rfl
  · simp only [ClientApplication.handle, ClientApplication.handleWorldStateSnapshot,
      ClientGameState.receive]
    rcases a.clientGameState.applyWorldStateSnapshot_cases snapshot with hno | ⟨hyes, -⟩
    · rw [hno]
      rfl
    · rw [hyes]
      rfl

end NetworkClient

end NetworkArena.Client
