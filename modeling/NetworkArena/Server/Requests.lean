/-
# NetworkArena.Server.Requests -- a session that is only asked what it serves

The messages a session serves are pings and valid player inputs (`IsServed`). What it does with one
of them is spelled out here, and a rule is derived for properties of the session and of the world
its callbacks act on (`Keeps`): what the elementary updates keep is kept by every handler, and what
serving a message keeps as well is kept by a read, if the bytes read are those of messages it
serves.
-/
import NetworkArena.Server.SessionStreams

namespace NetworkArena.Server

open NetworkArena.Foundation
open NetworkArena.Shared

variable {σ : Type}

/-- The lines a session prints when what it received violates the protocol. -/
def SessionDiagnostic.isViolation : SessionDiagnostic → Bool
  | .invalidMessageSize _ => true
  | .unsupportedMessageType _ => true
  | .invalidPingPayload _ => true
  | .invalidPlayerInputPayload _ => true
  | _ => false

namespace Session

def violations (s : Session) : List SessionDiagnostic :=
  s.diagnostics.filter SessionDiagnostic.isViolation

theorem violations_report {s : Session} {diagnostic : SessionDiagnostic}
    (h : diagnostic.isViolation = false) : (s.report diagnostic).violations = s.violations := by
  simp [violations, report, h]

/-! ## What handlers keep -/

/-- A property of a session and of the world of its callbacks that the updates made by its handlers
keep, sending and dispatching apart. -/
structure Keeps (callbacks : SessionCallbacks σ) (P : Session → σ → Prop) : Prop where
  report : ∀ {s w} diagnostic, diagnostic.isViolation = false → P s w → P (s.report diagnostic) w
  queues : ∀ {s : Session} {w} accumulatedBuffer sendQueue pendingSendBytes reads writes, P s w →
    P { s with
      accumulatedBuffer := accumulatedBuffer
      sendQueue := sendQueue
      pendingSendBytes := pendingSendBytes
      readsOutstanding := reads
      writesOutstanding := writes } w
  close : ∀ {s w}, P s w → P (s.close callbacks w).1 (s.close callbacks w).2

section Keeps

variable {callbacks : SessionCallbacks σ} {P : Session → σ → Prop} (hP : Keeps callbacks P)
  {s : Session} {w : σ}

include hP

theorem Keeps.writeNext (h : P s w) : P s.writeNext w := by
  obtain ⟨writes, hwrites⟩ := writeNext_eq s
  rw [hwrites]
  exact hP.queues _ _ _ _ writes h

theorem Keeps.readNext (h : P s w) : P s.readNext w := by
  unfold Session.readNext
  split
  · exact h
  · exact hP.queues _ _ _ (s.readsOutstanding + 1) _ h

theorem Keeps.handleWrite (error : Option ErrorCode) (count : ℕ) (h : P s w) :
    P (s.handleWrite callbacks error count w).1 (s.handleWrite callbacks error count w).2 := by
  have hcleared : ∀ {s : Session}, P s w → P { s with sendQueue := [], pendingSendBytes := 0 } w :=
    fun h => hP.queues _ [] 0 _ _ h
  unfold Session.handleWrite
  split
  · exact h
  cases error with
  | some error =>
      have hreported : P (if (error != .operationAborted) = true then s.report (.sendFailed error)
          else s) w := by
        split
        · exact hP.report _ rfl h
        · exact h
      dsimp only
      revert hreported
      generalize (if (error != .operationAborted) = true then s.report (.sendFailed error)
        else s) = reported
      intro hreported
      split
      · exact hP.close (hcleared hreported)
      · exact hcleared hreported
  | none =>
      cases s.sendQueue with
      | nil => exact hP.close (hP.queues _ _ 0 _ _ h)
      | cons front rest =>
          dsimp only
          split
          · exact hP.close (hcleared (hP.report _ rfl h))
          split
          · exact hP.close (hcleared (hP.report _ rfl h))
          · have htaken : P { s with
                pendingSendBytes := s.pendingSendBytes - front.length, sendQueue := rest } w :=
              hP.queues _ rest (s.pendingSendBytes - front.length) _ _ h
            refine hP.queues _ _ 0 _ _ ?_
            split
            · exact hP.writeNext htaken
            · exact htaken

theorem Keeps.reportReadError (error : ErrorCode) (h : P s w) : P (s.reportReadError error) w := by
  unfold Session.reportReadError
  split
  · exact hP.report _ rfl h
  · split
    · exact hP.report _ rfl h
    · split
      · exact hP.report _ rfl h
      · exact h

end Keeps

/-! ## Serving a message -/

inductive IsServed : Message → Prop
  | ping (ping : PingPayload) : IsServed ⟨.ping, ping.bytes⟩
  | playerInput {input : PlayerInputPayload} (h : isValidPlayerInput input = true) :
      IsServed ⟨.playerInput, input.bytes⟩

/-- The session once a message is recorded and printed. -/
def logged (s : Session) (message : Message) : Session :=
  { s with dispatched := s.dispatched ++ [message] }.report
    (.messageReceived message.type message.header.size message.payload.length)

section Serving

variable (callbacks : SessionCallbacks σ) (s : Session) (w : σ)

/-- A ping is answered with its own payload. -/
theorem dispatchOn_ping (ping : PingPayload) :
    dispatchOn callbacks ⟨.ping, ping.bytes⟩ (s, w) =
      (((s.logged ⟨.ping, ping.bytes⟩).send .pong ping.bytes).1,
        ((s.logged ⟨.ping, ping.bytes⟩).send .pong ping.bytes).2, w) := by
  unfold dispatchOn dispatchMessage
  dsimp only
  rw [if_pos (by rfl), handlePing, Checked.get_eq (decodePingPayload_bytes ping {})]
  rfl

/-- A valid input is handed to the server. -/
theorem dispatchOn_playerInput {input : PlayerInputPayload}
    (h : isValidPlayerInput input = true) {onPlayerInput : SessionId → PlayerInputPayload → σ → σ}
    (honPlayerInput : callbacks.onPlayerInput = some onPlayerInput) :
    dispatchOn callbacks ⟨.playerInput, input.bytes⟩ (s, w) =
      (true, s.logged ⟨.playerInput, input.bytes⟩, onPlayerInput s.id input w) := by
  have hno : ¬ (Message.mk .playerInput input.bytes).header.type = .ping := by
    show ¬ MessageType.playerInput = MessageType.ping
    decide
  unfold dispatchOn dispatchMessage
  dsimp only
  rw [if_neg hno, if_pos (by rfl), handlePlayerInput,
    Checked.get_eq (decodePlayerInputPayload_bytes h {})]
  simp only [Bool.not_true, Bool.false_eq_true, if_false, honPlayerInput]
  rfl

end Serving

/-- Sending changes the queue and what is accepted, or prints. -/
theorem send_violations (s : Session) (type : MessageType) (payload : List UInt8) :
    (s.send type payload).2.violations = s.violations := by
  by_cases haccepts : s.Accepts ⟨type, payload⟩
  · have hsend := send_accepted haccepts
    dsimp only at hsend
    rw [hsend]
    rfl
  unfold Session.send
  split
  · rfl
  split
  · rfl
  split
  · exact violations_report rfl
  split
  split
  · exact violations_report rfl
  split
  · exact violations_report rfl
  next hclosed hsocket hsendable _ encoded message hencode hok hroom =>
    exfalso
    have hencode' : (if (Message.mk type payload).Fits then
        (true, (Message.mk type payload).bytes) else (false, [])) = (encoded, message) := by
      rw [← hencode]
      exact ((Message.mk type payload).encode_get _).symm
    split at hencode'
    · next hfits =>
        cases hencode'
        refine haccepts ⟨by simpa using hclosed, by simpa using hsocket, by simpa using hsendable,
          hfits, ?_⟩
        simp only [Bool.or_eq_true, decide_eq_true_eq, not_or] at hroom
        omega
    · cases hencode'
      exact hok rfl

/-! ## Reading requests -/

/-- What `HandleRead` does when the bytes it received are processed. -/
def readOn (callbacks : SessionCallbacks σ) (error : Option ErrorCode) (s : Session) (w : σ) :
    Session × σ :=
  match error with
  | none => (s.readNext, w)
  | some error => (s.reportReadError error).close callbacks w

/-- **A read of messages of a script.** The bytes received and those in the buffer start the
messages that are still to come. What serving a message keeps, from one message to the next, holds
after the read, of the messages served by then. -/
theorem handleRead_along {callbacks : SessionCallbacks σ} {P : List Message → Session → σ → Prop}
    (hP : ∀ done, Keeps callbacks (P done)) {script : List Message} (hfits : ∀ m ∈ script, m.Fits)
    (hstep : ∀ done m rest s w, script = done ++ m :: rest → s.closed = false → P done s w →
      P (done ++ [m]) (dispatchOn callbacks m (s, w)).2.1 (dispatchOn callbacks m (s, w)).2.2 ∧
        (dispatchOn callbacks m (s, w)).2.1.closed = false)
    {done todo : List Message} (hscript : script = done ++ todo) {s : Session} {w : σ}
    {received : List UInt8}
    (hbytes : s.accumulatedBuffer ++ received <+: todo.flatMap Message.bytes) (h : P done s w)
    (error : Option ErrorCode) :
    ∃ done', done' <+: script ∧ P done' (s.handleRead callbacks error received w).1
      (s.handleRead callbacks error received w).2 := by
  -- what comes after the messages are served
  have hafter : ∀ {done' : List Message} {s : Session} {w : σ}, done' <+: script → P done' s w →
      ∃ done'', done'' <+: script ∧
        P done'' (s.readOn callbacks error w).1 (s.readOn callbacks error w).2 := by
    intro done' s w hbefore h
    cases error with
    | none => exact ⟨done', hbefore, (hP done').readNext h⟩
    | some error => exact ⟨done', hbefore, (hP done').close ((hP done').reportReadError error h)⟩
  unfold Session.handleRead
  split
  · exact ⟨done, ⟨todo, hscript.symm⟩, h⟩
  next hlive =>
  by_cases hreceived : received.length > 0
  swap
  · simp only [if_neg hreceived, Bool.not_true, Bool.false_eq_true, if_false]
    exact hafter ⟨todo, hscript.symm⟩ h
  simp only [if_pos hreceived]
  rw [processReceivedData_get]
  have hstarted : P done { s with accumulatedBuffer := s.accumulatedBuffer ++ received } w :=
    (hP done).queues _ _ _ _ _ h
  obtain ⟨hsize, ⟨done', hbefore, hserved, -⟩, -⟩ := FrameReader.drain_along
    (dispatchOn callbacks) messageReader_encode (by rfl)
    (P := fun done t => P done t.1 t.2 ∧ t.1.closed = false) (messageReader_frames hfits)
    (fun done m rest t hsplit ht => hstep done m rest t.1 t.2 hsplit ht.2 ht.1)
    (s.accumulatedBuffer ++ received)
    ({ s with accumulatedBuffer := s.accumulatedBuffer ++ received }, w) hscript hbytes
    ⟨hstarted, by simpa using hlive⟩
  revert hsize hserved
  rcases messageReader.drain (dispatchOn callbacks) (s.accumulatedBuffer ++ received)
    ({ s with accumulatedBuffer := s.accumulatedBuffer ++ received }, w) with
      ⟨verdict, rest, s', w'⟩
  intro hsize hserved
  have hrest : P done' { s' with accumulatedBuffer := rest } w' :=
    (hP done').queues _ _ _ _ _ hserved
  cases verdict with
  | waiting =>
      simp only [Bool.not_true, Bool.false_eq_true, if_false]
      exact hafter hbefore hrest
  | malformed => exact absurd rfl hsize
  | rejected => exact ⟨done', hbefore, hrest⟩

end Session

end NetworkArena.Server
