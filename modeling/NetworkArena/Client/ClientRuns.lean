/-
# NetworkArena.Client.ClientRuns -- a client by itself

Runs of one client and its application. Anything can be called at any time, by the application from
inside its callbacks as well; what asio owes can complete in any order, with or without an error,
however late; a read brings any bytes; and a write hands on its bytes little by little and succeeds
when all of them are handed on. `out` collects what was handed on, by connection.

`supplied` remembers which callbacks each attempt was given, read off the client while the attempt
is resolving its host.
-/
import NetworkArena.Client.NetworkClientStreams
import NetworkArena.Foundation.Transition

namespace NetworkArena.Client

open NetworkArena.Foundation
open NetworkArena.Shared

variable {α : Type}

/-- The callbacks a client holds. -/
def NetworkClient.held (c : NetworkClient) : SuppliedCallbacks where
  onConnected := c.onConnected.isSome
  onConnectionFailed := c.onConnectionFailed.isSome
  onDisconnected := c.onDisconnected.isSome
  onPlayerIdentity := c.onPlayerIdentity.isSome
  onWorldStateSnapshot := c.onWorldStateSnapshot.isSome

structure ClientRun (α : Type) where
  client : NetworkClient := {}
  application : α
  out : ℕ → List UInt8 := fun _ => []
  supplied : ℕ → SuppliedCallbacks := fun _ => {}

inductive ClientInput where
  | call (call : ApiCall)
  | resolved (generation : ℕ) (error : Option ErrorCode)
  | connected (generation : ℕ) (error : Option ErrorCode)
  | read (generation : ℕ) (received : List UInt8) (error : Option ErrorCode)
  /-- The `i`-th outstanding write hands on some bytes. -/
  | transfer (i count : ℕ)
  | written (i : ℕ) (error : Option ErrorCode)
  | posted (i : ℕ)
  deriving DecidableEq, Repr

namespace ClientRun

/-- The run after a handler. -/
def after (r : ClientRun α) (t : NetworkClient × α) : ClientRun α :=
  { r with
    client := t.1
    application := t.2
    supplied :=
      if t.1.connectionState = .resolving then
        Function.update r.supplied t.1.connectionGeneration t.1.held
      else r.supplied }

def step (env : ClientEnvironment α) (r : ClientRun α) : ClientInput → Option (ClientRun α)
  | .call call => some (r.after (call.run env.clock r.client, r.application))
  | .resolved g error =>
    if g ∈ r.client.resolvesOutstanding then
      some (r.after ((r.client.retireResolve g).handleResolve env error g r.application))
    else none
  | .connected g error =>
    if g ∈ r.client.connectsOutstanding then
      some (r.after ((r.client.retireConnect g).handleConnect env error g r.application))
    else none
  | .read g received error =>
    if g ∈ r.client.readsOutstanding ∧ received.length ≤ NetworkClient.receiveBufferSize then
      some (r.after ((r.client.retireRead g).handleRead env error received g r.application))
    else none
  | .transfer i count =>
    match r.client.writesOutstanding[i]? with
    | none => none
    | some write =>
      if r.client.socketOpen = true ∧ write.generation = r.client.connectionGeneration ∧
          write.op.sent + count ≤ write.op.buffer.length then
        some { r.after (r.client.transfer i count, r.application) with
          out := Function.update r.out write.generation
            (r.out write.generation ++ write.op.next count) }
      else none
  | .written i error =>
    match r.client.writesOutstanding[i]? with
    | none => none
    | some write =>
      if error = none → write.op.sent = write.op.buffer.length then
        some (r.after ((r.client.retireWrite i).handleWrite env error write.op.sent
          write.generation r.application))
      else none
  | .posted i =>
    match r.client.posted[i]? with
    | none => none
    | some callback =>
      some (r.after ((r.client.retirePosted i).handlePosted env callback r.application))

/-- What an event needs to happen in a run, and what it leaves. -/
inductive Step (env : ClientEnvironment α) (r : ClientRun α) : ClientInput → ClientRun α → Prop
  | call (call : ApiCall) :
    Step env r (.call call) (r.after (call.run env.clock r.client, r.application))
  | resolved (g : ℕ) (error : Option ErrorCode) (hresolve : g ∈ r.client.resolvesOutstanding) :
    Step env r (.resolved g error)
      (r.after ((r.client.retireResolve g).handleResolve env error g r.application))
  | connected (g : ℕ) (error : Option ErrorCode) (hconnect : g ∈ r.client.connectsOutstanding) :
    Step env r (.connected g error)
      (r.after ((r.client.retireConnect g).handleConnect env error g r.application))
  | read (g : ℕ) (received : List UInt8) (error : Option ErrorCode)
      (hread : g ∈ r.client.readsOutstanding)
      (hfits : received.length ≤ NetworkClient.receiveBufferSize) :
    Step env r (.read g received error)
      (r.after ((r.client.retireRead g).handleRead env error received g r.application))
  | transfer (i count : ℕ) {write : ClientWrite}
      (hwrite : r.client.writesOutstanding[i]? = some write)
      (hsocket : r.client.socketOpen = true)
      (hcurrent : write.generation = r.client.connectionGeneration)
      (hcount : write.op.sent + count ≤ write.op.buffer.length) :
    Step env r (.transfer i count) { r.after (r.client.transfer i count, r.application) with
      out := Function.update r.out write.generation
        (r.out write.generation ++ write.op.next count) }
  | written (i : ℕ) (error : Option ErrorCode) {write : ClientWrite}
      (hwrite : r.client.writesOutstanding[i]? = some write)
      (hdone : error = none → write.op.sent = write.op.buffer.length) :
    Step env r (.written i error)
      (r.after ((r.client.retireWrite i).handleWrite env error write.op.sent write.generation
        r.application))
  | posted (i : ℕ) {callback : PostedCallback} (hcallback : r.client.posted[i]? = some callback) :
    Step env r (.posted i)
      (r.after ((r.client.retirePosted i).handlePosted env callback r.application))

theorem step_cases {env : ClientEnvironment α} {r r' : ClientRun α} {input : ClientInput}
    (hstep : r.step env input = some r') : r.Step env input r' := by
  cases input with
  | call call =>
      cases hstep
      exact .call call
  | resolved g error =>
      simp only [step] at hstep
      split at hstep
      · next hresolve =>
          cases hstep
          exact .resolved g error hresolve
      · cases hstep
  | connected g error =>
      simp only [step] at hstep
      split at hstep
      · next hconnect =>
          cases hstep
          exact .connected g error hconnect
      · cases hstep
  | read g received error =>
      simp only [step] at hstep
      split at hstep
      · next hguard =>
          cases hstep
          exact .read g received error hguard.1 hguard.2
      · cases hstep
  | transfer i count =>
      simp only [step] at hstep
      split at hstep
      · cases hstep
      next write hwrite =>
      split at hstep
      · next hguard =>
          cases hstep
          exact .transfer i count hwrite hguard.1 hguard.2.1 hguard.2.2
      · cases hstep
  | written i error =>
      simp only [step] at hstep
      split at hstep
      · cases hstep
      next write hwrite =>
      split at hstep
      · next hdone =>
          cases hstep
          exact .written i error hwrite hdone
      · cases hstep
  | posted i =>
      simp only [step] at hstep
      split at hstep
      · cases hstep
      next callback hcallback =>
      cases hstep
      exact .posted i hcallback

end ClientRun

/-! ## What a step keeps -/

/-- Where the handlers lead, every step leads, if completed writes and posted callbacks lead there
as well. -/
theorem ClientRun.step_keeps {env : ClientEnvironment α} {P Q : NetworkClient → Prop}
    (hP : NetworkClient.Handled env P Q)
    (houtstanding : ∀ {c : NetworkClient} resolves connects reads,
      resolves ⊆ c.resolvesOutstanding → connects ⊆ c.connectsOutstanding →
      reads ⊆ c.readsOutstanding → P c → P { c with
        resolvesOutstanding := resolves
        connectsOutstanding := connects
        readsOutstanding := reads })
    (htransfer : ∀ {c} i count, P c → P (c.transfer i count))
    {r r' : ClientRun α} {input : ClientInput} (h : P r.client)
    (hwritten : ∀ i error write, input = .written i error →
      r.client.writesOutstanding[i]? = some write →
      (error = none → write.op.sent = write.op.buffer.length) →
      Q ((r.client.retireWrite i).handleWrite env error write.op.sent write.generation
        r.application).1)
    (hposted : ∀ i callback, input = .posted i → r.client.posted[i]? = some callback →
      Q ((r.client.retirePosted i).handlePosted env callback r.application).1)
    (hstep : r.step env input = some r') : Q r'.client := by
  cases ClientRun.step_cases hstep with
  | call call => exact hP.calls [call] (hP.weaken h)
  | resolved g error =>
      have hretired := houtstanding (r.client.resolvesOutstanding.erase g)
        r.client.connectsOutstanding r.client.readsOutstanding List.erase_subset
        (List.Subset.refl _) (List.Subset.refl _) h
      exact hP.handleResolve error g r.application hretired
  | connected g error =>
      have hretired := houtstanding r.client.resolvesOutstanding
        (r.client.connectsOutstanding.erase g) r.client.readsOutstanding (List.Subset.refl _)
        List.erase_subset (List.Subset.refl _) h
      exact hP.handleConnect error g r.application hretired
  | read g received error =>
      have hretired := houtstanding r.client.resolvesOutstanding r.client.connectsOutstanding
        (r.client.readsOutstanding.erase g) (List.Subset.refl _) (List.Subset.refl _)
        List.erase_subset h
      exact hP.handleRead error received g r.application hretired
  | transfer i count => exact hP.weaken (htransfer i count h)
  | written i error hwrite hdone => exact hwritten i error _ rfl hwrite hdone
  | posted i hcallback => exact hposted i _ rfl hcallback

/-! ## The bytes of a run -/

/-- **A client by itself sends in order**: its streams are those of `SendSide`. -/
theorem ClientRun.sendSide_step {env : ClientEnvironment α} {r r' : ClientRun α}
    {input : ClientInput} (h : r.client.SendSide r.out) (hstep : r.step env input = some r') :
    r'.client.SendSide r'.out := by
  cases ClientRun.step_cases hstep with
  | call call => exact (NetworkClient.sendSide_survives r.out).run env.clock call h
  | resolved g error =>
      have hretired : (r.client.retireResolve g).SendSide r.out :=
        h.of_same ⟨rfl, rfl, rfl, rfl, rfl, rfl, rfl, rfl, rfl⟩
      exact (NetworkClient.sendSide_handled env r.out).handleResolve error g r.application
        hretired
  | connected g error =>
      have hretired : (r.client.retireConnect g).SendSide r.out :=
        h.of_same ⟨rfl, rfl, rfl, rfl, rfl, rfl, rfl, rfl, rfl⟩
      exact (NetworkClient.sendSide_handled env r.out).handleConnect error g r.application
        hretired
  | read g received error =>
      have hP := NetworkClient.sendSide_handled env r.out
      exact hP.handleRead error received g r.application
        (hP.reads _ (fun _ hg => Or.inl (List.mem_of_mem_erase hg)) h)
  | transfer i count hwrite hsocket hcurrent hcount =>
      have htransferred := h.transfer hwrite hsocket hcurrent hcount
      dsimp only
      rw [hcurrent]
      exact htransferred
  | written i error hwrite hdone => exact h.handleWrite env hwrite error hdone r.application
  | posted i =>
      have hretired : (r.client.retirePosted i).SendSide r.out :=
        h.of_same ⟨rfl, rfl, rfl, rfl, rfl, rfl, rfl, rfl, rfl⟩
      exact hretired.handlePosted env _ r.application

end NetworkArena.Client
