/-
# NetworkArena.Client.SendQueue -- what a client counts of its queue

The counterpart of `Server.BackPressure`, and here the counter is right: `HandleWrite` of the client
takes the size of the completed message off the counter and returns after starting the next write.
Together with the order of the stream (`SendSide`) this says what a successful completion finds: the
front of the queue is the message that was written, and the counter covers it. So the ways in which
`HandleWrite` gives up after a successful write are never taken.
-/
import NetworkArena.Client.ClientRuns

namespace NetworkArena.Client

open NetworkArena.Foundation
open NetworkArena.Shared

variable {α : Type}

namespace NetworkClient

/-- The bytes of the messages in the queue. -/
def queuedBytes (c : NetworkClient) : ℕ := (c.sendQueue.map List.length).sum

structure Counted (c : NetworkClient) : Prop where
  counter : c.pendingSendBytes = c.queuedBytes
  limit : c.queuedBytes ≤ maxPendingSendBytes
  idle : c.connectionState = .disconnected → c.sendQueue = []

section Counted

variable {c c' : NetworkClient}

theorem counted_initial : Counted {} := ⟨rfl, Nat.zero_le _, fun _ => rfl⟩

theorem Counted.of_same (h : c.Counted) (hsame : SameConnection c c') : c'.Counted := by
  have hqueued : c'.queuedBytes = c.queuedBytes := by rw [queuedBytes, queuedBytes, hsame.queue]
  refine ⟨?_, ?_, ?_⟩
  · rw [hqueued, hsame.pending]
    exact h.counter
  · rw [hqueued]
    exact h.limit
  · rw [hsame.state, hsame.queue]
    exact h.idle

/-- An emptied queue. -/
theorem counted_empty (hqueue : c.sendQueue = []) (hpending : c.pendingSendBytes = 0) :
    c.Counted := by
  have hqueued : c.queuedBytes = 0 := by rw [queuedBytes, hqueue]; rfl
  exact ⟨hpending.trans hqueued.symm, hqueued ▸ Nat.zero_le _, fun _ => hqueue⟩

theorem Counted.enqueue (h : c.Counted) {message : Message} (haccepts : c.Accepts message) :
    (c.enqueue message).Counted := by
  have hqueued : (c.enqueue message).queuedBytes = c.queuedBytes + message.bytes.length := by
    simp [queuedBytes, NetworkClient.enqueue]
  have hroom := haccepts.room
  refine ⟨?_, ?_, ?_⟩
  · rw [hqueued, ← h.counter]
    rfl
  · rw [hqueued, ← h.counter]
    exact hroom
  · intro hstate
    exact absurd (haccepts.connected.symm.trans hstate) (by decide)

theorem counted_survives : Survives Counted where
  connect {c} host port callbacks h := by
    unfold connect
    split
    · exact h
    split
    · exact h
    · exact counted_empty rfl rfl
  disconnect {c} h := by
    unfold disconnect
    split
    · exact h
    · exact counted_empty rfl rfl
  send {c} type payload h := by
    rcases send_cases c type payload with ⟨haccepts, hsend⟩ | ⟨-, diagnostics, hsend⟩
    · rw [hsend]
      exact h.enqueue haccepts
    · rw [hsend]
      exact h.of_same ⟨rfl, rfl, rfl, rfl, rfl, rfl, rfl, rfl, rfl⟩
  report _ h := h.of_same ⟨rfl, rfl, rfl, rfl, rfl, rfl, rfl, rfl, rfl⟩
  readClock _ h := h.of_same ⟨rfl, rfl, rfl, rfl, rfl, rfl, rfl, rfl, rfl⟩
  invocations _ h := h.of_same ⟨rfl, rfl, rfl, rfl, rfl, rfl, rfl, rfl, rfl⟩

/-! ## Handlers -/

/-- The queue of a client that is not disconnected afterwards. -/
theorem Counted.moved (h : c.Counted) (hqueue : c'.sendQueue = c.sendQueue)
    (hpending : c'.pendingSendBytes = c.pendingSendBytes)
    (hstate : c'.connectionState ≠ .disconnected) : c'.Counted := by
  have hqueued : c'.queuedBytes = c.queuedBytes := by rw [queuedBytes, queuedBytes, hqueue]
  refine ⟨?_, ?_, fun hno => absurd hno hstate⟩
  · rw [hqueued, hpending]
    exact h.counter
  · rw [hqueued]
    exact h.limit

theorem counted_handled (env : ClientEnvironment α) : Handled env Counted Counted where
  weaken h := h
  calls calls h := counted_survives.calls env.clock calls h
  dispatch message a _ h := h.of_same (dispatchOn_frame env message (_, a)).1
  buffer _ h := ⟨h.counter, h.limit, h.idle⟩
  reads _ _ h := ⟨h.counter, h.limit, h.idle⟩
  resolved _ h := h.moved rfl rfl nofun
  connected _ h := h.moved rfl rfl nofun
  failed _ _ _ := counted_empty rfl rfl
  ended _ _ _ := counted_empty rfl rfl

/-! ## A completed write -/

/-- **A successful write of the current connection** takes the front message off the queue and its
size off the counter, and starts the next one. -/
theorem handleWrite_done {out : ℕ → List UInt8} (hsends : c.SendSide out) (h : c.Counted) {i : ℕ}
    {write : ClientWrite} (hwrite : c.writesOutstanding[i]? = some write)
    (hdone : write.op.sent = write.op.buffer.length)
    (hcurrent : write.generation = c.connectionGeneration)
    (hconnected : c.connectionState = .connected) (env : ClientEnvironment α) (a : α) :
    ∃ rest, c.sendQueue = write.op.buffer :: rest ∧
      (c.retireWrite i).handleWrite env none write.op.sent write.generation a =
        ({ c.retireWrite i with
          pendingSendBytes := c.pendingSendBytes - write.op.buffer.length
          sendQueue := rest
          writesOutstanding := (c.retireWrite i).writesOutstanding ++
            (rest.take 1).map (⟨write.generation, ⟨·, 0⟩⟩) }, a) := by
  obtain ⟨before, behind, hwrites, -, -⟩ := split_at_index hwrite
  obtain ⟨-, -, remaining, hwriter, -⟩ := hsends.onlyWrite hconnected hwrites hcurrent
  obtain ⟨rest, hqueue, -⟩ := hwriter.complete hdone
  have hpending : c.pendingSendBytes = write.op.buffer.length + (rest.map List.length).sum := by
    rw [h.counter, queuedBytes, hqueue]
    rfl
  have hactive : (c.retireWrite i).isCurrentOperation write.generation .connected = true := by
    simp only [isCurrentOperation, Bool.and_eq_true, beq_iff_eq]
    exact ⟨hcurrent, hconnected⟩
  refine ⟨rest, hqueue, ?_⟩
  unfold NetworkClient.handleWrite
  rw [if_neg (by simp [hactive]), show (c.retireWrite i).sendQueue = write.op.buffer :: rest from
    hqueue, hdone]
  dsimp only
  rw [if_neg (by simp), if_neg (by
    rw [show (c.retireWrite i).pendingSendBytes = c.pendingSendBytes from rfl, hpending]
    omega)]
  cases rest with
  | nil =>
      have hzero : c.pendingSendBytes - write.op.buffer.length = 0 := by
        rw [hpending, List.map_nil, List.sum_nil]
        omega
      rw [if_neg (by simp), if_neg (by simpa [NetworkClient.retireWrite] using hzero)]
      simp [NetworkClient.retireWrite]
  | cons next rest =>
      rw [if_pos (by simp), writeNext_current (c := { c.retireWrite i with
        pendingSendBytes := (c.retireWrite i).pendingSendBytes - write.op.buffer.length
        sendQueue := next :: rest }) hactive (hsends.socket (Or.inr hconnected)) rfl]
      rfl

theorem Counted.handleWrite {out : ℕ → List UInt8} (hsends : c.SendSide out) (h : c.Counted)
    {i : ℕ} {write : ClientWrite} (hwrite : c.writesOutstanding[i]? = some write)
    {error : Option ErrorCode} (hdone : error = none → write.op.sent = write.op.buffer.length)
    (env : ClientEnvironment α) (a : α) :
    ((c.retireWrite i).handleWrite env error write.op.sent write.generation a).1.Counted := by
  by_cases hcurrent : (c.retireWrite i).isCurrentOperation write.generation .connected = true
  swap
  · have hlate : (c.retireWrite i).handleWrite env error write.op.sent write.generation a =
        (c.retireWrite i, a) := if_pos (by simpa using hcurrent)
    rw [hlate]
    exact ⟨h.counter, h.limit, h.idle⟩
  cases error with
  | some error =>
      have hreported : ((c.retireWrite i).report (.sendFailed error)).Counted :=
        ⟨h.counter, h.limit, h.idle⟩
      have hended := (counted_handled env).completeDisconnection error write.generation a hreported
      have hfailed : (c.retireWrite i).handleWrite env (some error) write.op.sent
          write.generation a = ((c.retireWrite i).report (.sendFailed error)).completeDisconnection
            env error write.generation a := if_neg (by simpa using hcurrent)
      rw [hfailed]
      exact hended
  | none =>
      simp only [isCurrentOperation, NetworkClient.retireWrite, Bool.and_eq_true,
        beq_iff_eq] at hcurrent
      obtain ⟨rest, hqueue, hhandled⟩ := handleWrite_done hsends h hwrite (hdone rfl) hcurrent.1
        hcurrent.2 env a
      have hqueued : c.queuedBytes = write.op.buffer.length + (rest.map List.length).sum := by
        rw [queuedBytes, hqueue]
        rfl
      rw [hhandled]
      refine ⟨?_, ?_, ?_⟩
      · show c.pendingSendBytes - write.op.buffer.length = (rest.map List.length).sum
        rw [h.counter, hqueued]
        omega
      · show (rest.map List.length).sum ≤ maxPendingSendBytes
        have hlimit := h.limit
        omega
      · intro hno
        exact absurd (hcurrent.2.symm.trans hno) (by decide)

/-! ## The queue of a client -/

/-- The counter is the size of the queue and within the limit. While connected, what is being
written on this connection is the front message and nothing else; while disconnected nothing is
queued. -/
structure QueueIntegrity (c : NetworkClient) : Prop where
  counter : c.pendingSendBytes = c.queuedBytes
  limit : c.queuedBytes ≤ maxPendingSendBytes
  writing : c.connectionState = .connected →
    (c.writesIn c.connectionGeneration).map (·.buffer) = c.sendQueue.take 1
  idle : c.connectionState = .disconnected → c.sendQueue = [] ∧ c.pendingSendBytes = 0

theorem Counted.integrity {out : ℕ → List UInt8} (hsends : c.SendSide out) (h : c.Counted) :
    c.QueueIntegrity where
  counter := h.counter
  limit := h.limit
  writing hconnected := by
    obtain ⟨remaining, hwriter, -⟩ := hsends.inOrder hconnected
    revert hwriter
    generalize c.writesIn c.connectionGeneration = writes
    generalize c.sendQueue = queue
    intro hwriter
    cases hwriter with
    | idle => rfl
    | writing front rest sent hsent => rfl
  idle hdisconnected := by
    have hqueue := h.idle hdisconnected
    refine ⟨hqueue, ?_⟩
    rw [h.counter, queuedBytes, hqueue]
    rfl

end Counted

end NetworkClient

theorem ClientRun.counted_step {env : ClientEnvironment α} {r r' : ClientRun α}
    {input : ClientInput} (hsends : r.client.SendSide r.out) (h : r.client.Counted)
    (hstep : r.step env input = some r') : r'.client.Counted := by
  refine ClientRun.step_keeps (NetworkClient.counted_handled env)
    (fun _ _ _ _ _ _ h => ⟨h.counter, h.limit, h.idle⟩)
    (fun _ _ h => ⟨h.counter, h.limit, h.idle⟩) h ?_ ?_ hstep
  · intro i error write _ hwrite hdone
    exact h.handleWrite hsends hwrite hdone env r.application
  · intro i callback _ _
    unfold NetworkClient.handlePosted
    split
    · exact ⟨h.counter, h.limit, h.idle⟩
    · exact NetworkClient.counted_survives.invoke env _ _ _ ⟨h.counter, h.limit, h.idle⟩

/-- **The send queue of a client keeps its integrity.** This holds in every state of every run, and
a write that succeeds there never ends the connection nor prints anything: the messages about an
empty queue and about a wrong count of bytes are never printed. (`NetworkClient.Counts` says how
often `Connect` and `Disconnect` may succeed.) -/
theorem client_queue_integrity (env : ClientEnvironment α) (application : α)
    (inputs : List ClientInput) (r : ClientRun α)
    (h : runFrom (ClientRun.step env) { application } inputs = some r) :
    r.client.QueueIntegrity ∧
      ∀ i r', r.step env (.written i none) = some r' →
        r'.client.disconnections = r.client.disconnections ∧
          r'.client.diagnostics = r.client.diagnostics ∧
          r'.client.connectionState = r.client.connectionState := by
  have hboth : r.client.SendSide r.out ∧ r.client.Counted :=
    runFrom_induction (P := fun r : ClientRun α => r.client.SendSide r.out ∧ r.client.Counted)
      (fun r input r' hr hstep =>
        ⟨ClientRun.sendSide_step hr.1 hstep, ClientRun.counted_step hr.1 hr.2 hstep⟩)
      ⟨NetworkClient.sendSide_initial, NetworkClient.counted_initial⟩ h
  obtain ⟨hsends, hcounted⟩ := hboth
  refine ⟨hcounted.integrity hsends, fun i r' hstep => ?_⟩
  cases ClientRun.step_cases hstep with
  | @written _ _ write hwrite hdone =>
  by_cases hcurrent :
      (r.client.retireWrite i).isCurrentOperation write.generation .connected = true
  · simp only [NetworkClient.isCurrentOperation, NetworkClient.retireWrite, Bool.and_eq_true,
      beq_iff_eq] at hcurrent
    obtain ⟨rest, -, hhandled⟩ := NetworkClient.handleWrite_done hsends hcounted hwrite
      (by simpa using hdone) hcurrent.1 hcurrent.2 env r.application
    rw [hhandled]
    exact ⟨rfl, rfl, rfl⟩
  · have hlate : (r.client.retireWrite i).handleWrite env none write.op.sent write.generation
        r.application = (r.client.retireWrite i, r.application) := if_pos (by simpa using hcurrent)
    rw [hlate]
    exact ⟨rfl, rfl, rfl⟩

/-- An application that does nothing when it is called back. -/
def silent : ClientEnvironment Unit where
  clock n := UInt64.ofNat n
  invoke _ _ a := ([], a)

/-- Two pings are sent, the second while the first is being written; a late completion comes in
after a new connection has been made. -/
def twoPings : List ClientInput :=
  [.call (.connect "localhost" 9000 {}), .resolved 1 none, .connected 1 none, .call .sendPing,
    .call .sendPing, .transfer 0 12, .call .disconnect, .call (.connect "localhost" 9000 {}),
    .resolved 3 none, .connected 3 none, .call .sendPing, .call .sendPing, .written 0 none,
    .transfer 0 12]

/-- The theorem on a run with a late completion, before a completion of its own. -/
theorem client_queue_integrity_twoPings : ∃ r,
    runFrom (ClientRun.step silent) { application := () } twoPings = some r ∧
      r.client.pendingSendBytes = 24 ∧ r.client.QueueIntegrity := by
  have hrun : (runFrom (ClientRun.step silent) { application := () } twoPings).map
      (fun r => r.client.pendingSendBytes) = some 24 := by
    decide +kernel
  obtain ⟨r, hr, hpending⟩ := Option.map_eq_some_iff.mp hrun
  exact ⟨r, hr, hpending, (client_queue_integrity silent () twoPings r hr).1⟩

end NetworkArena.Client
