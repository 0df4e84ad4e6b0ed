/-
# NetworkArena.System.Channel -- a client, its connections and their sessions

The two ends put together. A client goes through many connections, one for each generation that gets
as far as being established; the server holds a session for each one it accepted. Between the two
are a pipe upstream and a pipe downstream: TCP delivers the bytes of a connection in order, and a
started write hands on its buffer contiguously, in pieces of any size. A read takes what has
arrived, at most as many bytes as the receive buffer holds.

Every handler of both ends is an event, and so is every call that can come from outside; an event
that asio or the network cannot produce in a state has no successor there. Completions may be late:
of a closed socket, and of an earlier generation.

The result is the channel itself: on each connection, what one end has dispatched is the beginning
of what the other end's `Send` accepted.
-/
import NetworkArena.Client.NetworkClientReceiving
import NetworkArena.Foundation.Transition
import NetworkArena.Server.SessionStreams

namespace NetworkArena.System

open NetworkArena.Foundation
open NetworkArena.Shared
open NetworkArena.Server (Session SessionCallbacks SessionId)
open NetworkArena.Client (NetworkClient ClientEnvironment ApiCall)

variable {σ α : Type}

/-! ## The state -/

/-- The session of a connection, and whether `Start` was called on it. -/
structure ServerEnd where
  session : Session
  started : Bool := false
  deriving DecidableEq, Repr

/-- An established connection: what is on the way, and the session once the server accepted it. -/
structure Link where
  serverEnd : Option ServerEnd := none
  upstream : Pipe UInt8 := {}
  downstream : Pipe UInt8 := {}
  deriving DecidableEq, Repr

/-- A client with its application, and the connections it had so far by generation. -/
structure Channel (α : Type) where
  client : NetworkClient := {}
  application : α
  links : ℕ → Option Link := fun _ => none

namespace Link

/-- The messages the session of a connection accepted. -/
def accepted (link : Option Link) : List Message :=
  ((link.bind Link.serverEnd).map fun server => server.session.accepted).getD []

/-- The messages the session of a connection dispatched. -/
def dispatched (link : Option Link) : List Message :=
  ((link.bind Link.serverEnd).map fun server => server.session.dispatched).getD []

/-- The bytes the client has handed to a connection. -/
def upstreamWritten (link : Option Link) : List UInt8 :=
  (link.map fun link => link.upstream.written).getD []

/-- The bytes the client has read from a connection. -/
def downstreamReceived (link : Option Link) : List UInt8 :=
  (link.map fun link => link.downstream.received).getD []

end Link

/-! ## The server's end of one connection -/

inductive ServerEvent where
  | start
  | send (message : Message)
  | stop
  | read (count : ℕ) (error : Option ErrorCode)
  | transfer (i count : ℕ)
  | written (i : ℕ) (error : Option ErrorCode)
  deriving DecidableEq, Repr

/-- A read brings what has arrived and fits into the receive buffer; without an error it brings
something. -/
def Readable (pipe : Pipe UInt8) (bufferSize count : ℕ) (error : Option ErrorCode) : Prop :=
  count ≤ bufferSize ∧ pipe.consumed + count ≤ pipe.written.length ∧ (error = none → 0 < count)

instance (pipe : Pipe UInt8) (bufferSize count : ℕ) (error : Option ErrorCode) :
    Decidable (Readable pipe bufferSize count error) := inferInstanceAs (Decidable (_ ∧ _ ∧ _))

/-- `async_write` reports success when all of the buffer has been handed on. -/
def Completes (op : WriteOp UInt8) (error : Option ErrorCode) : Prop :=
  error = none → op.sent = op.buffer.length

instance (op : WriteOp UInt8) (error : Option ErrorCode) : Decidable (Completes op error) :=
  inferInstanceAs (Decidable (_ → _))

def Link.serverStep (callbacks : SessionCallbacks σ) (link : Link) (server : ServerEnd) (w : σ) :
    ServerEvent → Option (Link × σ)
  | .start =>
    if server.started then none
    else some ({ link with serverEnd := some ⟨server.session.start, true⟩ }, w)
  | .send message =>
    let (_, session) := server.session.send message.type message.payload
    some ({ link with serverEnd := some { server with session } }, w)
  | .stop =>
    let (session, w) := server.session.stop callbacks w
    some ({ link with serverEnd := some { server with session } }, w)
  | .read count error =>
    if server.session.readsOutstanding ≠ 0 ∧
        Readable link.upstream Session.receiveBufferSize count error then
      let (session, w) := server.session.retireRead.handleRead callbacks error
        (link.upstream.next count) w
      some ({ link with
        serverEnd := some { server with session }
        upstream := link.upstream.consume count }, w)
    else none
  | .transfer i count =>
    match server.session.writesOutstanding[i]? with
    | none => none
    | some op =>
      if server.session.socketOpen = true ∧ op.sent + count ≤ op.buffer.length then
        some ({ link with
          serverEnd := some { server with session := server.session.transfer i count }
          downstream := link.downstream.write (op.next count) }, w)
      else none
  | .written i error =>
    match server.session.writesOutstanding[i]? with
    | none => none
    | some op =>
      if Completes op error then
        let (session, w) := (server.session.retireWrite i).handleWrite callbacks error op.sent w
        some ({ link with serverEnd := some { server with session } }, w)
      else none

/-! ## What holds of one connection -/

/-- A session in order with the bytes read from its connection and handed to it. -/
structure ServerEnd.InOrder (server : ServerEnd) (inp out : List UInt8) : Prop where
  sends : server.session.SendSide out
  receives : server.session.ReceiveSide inp
  unstarted : server.started = false → server.session.dispatched = [] ∧
    server.session.accumulatedBuffer = [] ∧ server.session.readsOutstanding = 0 ∧ inp = []

structure Link.InOrder (link : Link) : Prop where
  upstream : link.upstream.consumed ≤ link.upstream.written.length
  downstream : link.downstream.consumed ≤ link.downstream.written.length
  serverEnd : ∀ server, link.serverEnd = some server →
    server.InOrder link.upstream.received link.downstream.written
  unaccepted : link.serverEnd = none → link.upstream.received = [] ∧ link.downstream.written = []

/-- The session of a connection may change as long as it stays in order. -/
theorem Link.InOrder.withServerEnd {link : Link} (h : link.InOrder) {server : ServerEnd}
    (hserver : server.InOrder link.upstream.received link.downstream.written) :
    { link with serverEnd := some server }.InOrder where
  upstream := h.upstream
  downstream := h.downstream
  serverEnd := fun server' hserver' => by
    cases hserver'
    exact hserver
  unaccepted := nofun

section ServerStep

variable {server : ServerEnd} {inp out : List UInt8}

/-- A handler that leaves the receive side of a session alone. -/
theorem ServerEnd.InOrder.sending (h : server.InOrder inp out) {session : Session}
    {out' : List UInt8} (hsends : session.SendSide out') (hreceives : session.ReceiveSide inp)
    (hdispatched : session.dispatched = server.session.dispatched)
    (hbuffer : session.accumulatedBuffer = server.session.accumulatedBuffer)
    (hreads : session.readsOutstanding = server.session.readsOutstanding) :
    { server with session }.InOrder inp out' where
  sends := hsends
  receives := hreceives
  unstarted hstarted := by
    rw [hdispatched, hbuffer, hreads]
    exact h.unstarted hstarted

/-- A session that was just created, on a connection nothing was read from or handed to. -/
theorem ServerEnd.inOrder_create (id : SessionId) :
    ServerEnd.InOrder { session := { id } } [] [] :=
  ⟨Session.sendSide_create id, ⟨by simp, by simp, by simp, nofun⟩, fun _ => ⟨rfl, rfl, rfl, rfl⟩⟩

theorem ServerEnd.InOrder.start (h : server.InOrder inp out) (hstarted : server.started = false) :
    ServerEnd.InOrder ⟨server.session.start, true⟩ inp out where
  sends := by
    unfold Session.start
    split
    · exact h.sends
    · exact Session.SendSide.readNext
        ((Session.sendSide_updates (σ := Unit) ⟨none, none⟩ out).report _ h.sends)
  receives := by
    obtain ⟨hdispatched, hbuffer, hreads, rfl⟩ := h.unstarted hstarted
    exact Session.receiveSide_start hdispatched hbuffer hreads
  unstarted := nofun

theorem ServerEnd.InOrder.send (h : server.InOrder inp out) (type : MessageType)
    (payload : List UInt8) :
    { server with session := (server.session.send type payload).2 }.InOrder inp out :=
  h.sending ((Session.sendSide_updates (σ := Unit) ⟨none, none⟩ out).send type payload h.sends)
    (h.receives.send type payload) (by simp) (by simp) (by simp)

theorem ServerEnd.InOrder.stop (h : server.InOrder inp out) (callbacks : SessionCallbacks σ)
    (w : σ) :
    { server with session := (server.session.stop callbacks w).1 }.InOrder inp out :=
  h.sending ((Session.sendSide_updates callbacks out).close w h.sends)
    (h.receives.close callbacks w) (Session.close_dispatched ..)
    (Session.close_accumulatedBuffer ..) (Session.close_readsOutstanding ..)

theorem ServerEnd.InOrder.read (h : server.InOrder inp out)
    (hread : server.session.readsOutstanding ≠ 0) (callbacks : SessionCallbacks σ) (w : σ)
    (error : Option ErrorCode) (received : List UInt8) :
    { server with
      session := (server.session.retireRead.handleRead callbacks error received w).1 }.InOrder
      (inp ++ received) out where
  sends := (show server.session.retireRead.SendSide out from
    ⟨h.sends.fits, h.sends.sent, h.sends.inOrder, h.sends.shut⟩).handleRead callbacks w error _
  receives := h.receives.handleRead hread callbacks w error received
  unstarted hstarted := absurd (h.unstarted hstarted).2.2.1 hread

theorem ServerEnd.InOrder.written (h : server.InOrder inp out) (callbacks : SessionCallbacks σ)
    (w : σ) {i : ℕ} {op : WriteOp UInt8} (hop : server.session.writesOutstanding[i]? = some op)
    (error : Option ErrorCode) (hdone : Completes op error) :
    { server with
      session := ((server.session.retireWrite i).handleWrite callbacks error op.sent w).1 }.InOrder
      inp out := by
  obtain ⟨-, hdispatched, hbuffer, hreads, -⟩ :=
    Session.handleWrite_frame callbacks (server.session.retireWrite i) w error op.sent
  exact h.sending (h.sends.handleWrite callbacks w hop error hdone)
    (h.receives.handleWrite callbacks w i error op.sent) hdispatched hbuffer hreads

end ServerStep

/-- **A step of the server's end** keeps the connection in order. The bytes handed to it upstream
and those read from it downstream are the client's business. -/
theorem Link.InOrder.serverStep {callbacks : SessionCallbacks σ} {link link' : Link}
    {server : ServerEnd} {w w' : σ} {event : ServerEvent} (h : link.InOrder)
    (hserver : link.serverEnd = some server)
    (hstep : link.serverStep callbacks server w event = some (link', w')) :
    link'.InOrder ∧ link'.upstream.written = link.upstream.written ∧
      link'.downstream.received = link.downstream.received := by
  have hin := h.serverEnd server hserver
  cases event with
  | start =>
      simp only [Link.serverStep] at hstep
      split at hstep
      · cases hstep
      · next hstarted =>
          cases hstep
          exact ⟨h.withServerEnd (hin.start (by simpa using hstarted)), rfl, rfl⟩
  | send message =>
      cases hstep
      exact ⟨h.withServerEnd (hin.send message.type message.payload), rfl, rfl⟩
  | stop =>
      cases hstep
      exact ⟨h.withServerEnd (hin.stop callbacks w), rfl, rfl⟩
  | read count error =>
      simp only [Link.serverStep] at hstep
      split at hstep
      · next hguard =>
          obtain ⟨hread, -, havailable, -⟩ := hguard
          cases hstep
          -- the bytes that are read leave the pipe and extend what the session has received
          have hnext := hin.read hread callbacks w error (link.upstream.next count)
          rw [← Pipe.received_consume] at hnext
          refine ⟨⟨havailable, h.downstream, fun server' hserver' => ?_, nofun⟩, rfl, rfl⟩
          cases hserver'
          exact hnext
      · cases hstep
  | transfer i count =>
      simp only [Link.serverStep] at hstep
      split at hstep
      · cases hstep
      · next op hop =>
          split at hstep
          · next hguard =>
              obtain ⟨hsocket, hcount⟩ := hguard
              cases hstep
              refine ⟨⟨h.upstream, ?_, fun server' hserver' => ?_, nofun⟩, rfl,
                Pipe.received_write h.downstream _⟩
              · exact h.downstream.trans (by simp)
              · cases hserver'
                exact hin.sending (hin.sends.transfer hsocket hop hcount)
                  (hin.receives.transfer i count) rfl rfl rfl
          · cases hstep
  | written i error =>
      simp only [Link.serverStep] at hstep
      split at hstep
      · cases hstep
      · next op hop =>
          split at hstep
          · next hdone =>
              cases hstep
              exact ⟨h.withServerEnd (hin.written callbacks w hop error hdone), rfl, rfl⟩
          · cases hstep

/-! ## The client's end -/

inductive ClientEvent where
  | call (call : ApiCall)
  | resolved (generation : ℕ) (error : Option ErrorCode)
  | connected (generation : ℕ) (error : Option ErrorCode)
  | read (generation count : ℕ) (error : Option ErrorCode)
  | transfer (i count : ℕ)
  | written (i : ℕ) (error : Option ErrorCode)
  | posted (i : ℕ)
  deriving DecidableEq, Repr

def Channel.clientStep (env : ClientEnvironment α) (channel : Channel α) :
    ClientEvent → Option (Channel α)
  | .call call => some { channel with client := call.run env.clock channel.client }
  | .resolved g error =>
    if g ∈ channel.client.resolvesOutstanding then
      let (client, application) :=
        (channel.client.retireResolve g).handleResolve env error g channel.application
      some { channel with client, application }
    else none
  | .connected g error =>
    if g ∈ channel.client.connectsOutstanding ∧ (error = none → (channel.links g).isSome) then
      let (client, application) :=
        (channel.client.retireConnect g).handleConnect env error g channel.application
      some { channel with client, application }
    else none
  | .read g count error =>
    match channel.links g with
    | none => none
    | some link =>
      if g ∈ channel.client.readsOutstanding ∧
          Readable link.downstream NetworkClient.receiveBufferSize count error then
        let (client, application) := (channel.client.retireRead g).handleRead env error
          (link.downstream.next count) g channel.application
        some {
          client
          application
          links := Function.update channel.links g
            (some { link with downstream := link.downstream.consume count }) }
      else none
  | .transfer i count =>
    match channel.client.writesOutstanding[i]? with
    | none => none
    | some write =>
      match channel.links write.generation with
      | none => none
      | some link =>
        if channel.client.socketOpen = true ∧
            write.generation = channel.client.connectionGeneration ∧
            write.op.sent + count ≤ write.op.buffer.length then
          some { channel with
            client := channel.client.transfer i count
            links := Function.update channel.links write.generation
              (some { link with upstream := link.upstream.write (write.op.next count) }) }
        else none
  | .written i error =>
    match channel.client.writesOutstanding[i]? with
    | none => none
    | some write =>
      if Completes write.op error then
        let (client, application) := (channel.client.retireWrite i).handleWrite env error
          write.op.sent write.generation channel.application
        some { channel with client, application }
      else none
  | .posted i =>
    match channel.client.posted[i]? with
    | none => none
    | some callback =>
      let (client, application) :=
        (channel.client.retirePosted i).handlePosted env callback channel.application
      some { channel with client, application }

/-- What an event needs to happen at the client's end, and what it leaves. -/
inductive Channel.ClientStep (env : ClientEnvironment α) (channel : Channel α) :
    ClientEvent → Channel α → Prop where
  | call (call : ApiCall) :
    ClientStep env channel (.call call)
      { channel with client := call.run env.clock channel.client }
  | resolved (g : ℕ) (error : Option ErrorCode)
      (hresolve : g ∈ channel.client.resolvesOutstanding) :
    ClientStep env channel (.resolved g error) { channel with
      client := ((channel.client.retireResolve g).handleResolve env error g channel.application).1
      application :=
        ((channel.client.retireResolve g).handleResolve env error g channel.application).2 }
  | connected (g : ℕ) (error : Option ErrorCode)
      (hconnect : g ∈ channel.client.connectsOutstanding)
      (hlink : error = none → (channel.links g).isSome) :
    ClientStep env channel (.connected g error) { channel with
      client := ((channel.client.retireConnect g).handleConnect env error g channel.application).1
      application :=
        ((channel.client.retireConnect g).handleConnect env error g channel.application).2 }
  | read (g count : ℕ) (error : Option ErrorCode) {link : Link}
      (hlink : channel.links g = some link) (hread : g ∈ channel.client.readsOutstanding)
      (hreadable : Readable link.downstream NetworkClient.receiveBufferSize count error) :
    ClientStep env channel (.read g count error) {
      client := ((channel.client.retireRead g).handleRead env error
        (link.downstream.next count) g channel.application).1
      application := ((channel.client.retireRead g).handleRead env error
        (link.downstream.next count) g channel.application).2
      links := Function.update channel.links g
        (some { link with downstream := link.downstream.consume count }) }
  | transfer (i count : ℕ) {write : Client.ClientWrite} {link : Link}
      (hwrite : channel.client.writesOutstanding[i]? = some write)
      (hlink : channel.links write.generation = some link)
      (hsocket : channel.client.socketOpen = true)
      (hcurrent : write.generation = channel.client.connectionGeneration)
      (hcount : write.op.sent + count ≤ write.op.buffer.length) :
    ClientStep env channel (.transfer i count) { channel with
      client := channel.client.transfer i count
      links := Function.update channel.links write.generation
        (some { link with upstream := link.upstream.write (write.op.next count) }) }
  | written (i : ℕ) (error : Option ErrorCode) {write : Client.ClientWrite}
      (hwrite : channel.client.writesOutstanding[i]? = some write)
      (hdone : Completes write.op error) :
    ClientStep env channel (.written i error) { channel with
      client := ((channel.client.retireWrite i).handleWrite env error write.op.sent
        write.generation channel.application).1
      application := ((channel.client.retireWrite i).handleWrite env error write.op.sent
        write.generation channel.application).2 }
  | posted (i : ℕ) {callback : Client.PostedCallback}
      (hcallback : channel.client.posted[i]? = some callback) :
    ClientStep env channel (.posted i) { channel with
      client := ((channel.client.retirePosted i).handlePosted env callback channel.application).1
      application :=
        ((channel.client.retirePosted i).handlePosted env callback channel.application).2 }

theorem Channel.clientStep_cases {env : ClientEnvironment α} {channel channel' : Channel α}
    {event : ClientEvent} (hstep : channel.clientStep env event = some channel') :
    channel.ClientStep env event channel' := by
  cases event with
  | call call =>
      cases hstep
      exact .call call
  | resolved g error =>
      simp only [Channel.clientStep] at hstep
      split at hstep
      · next hresolve =>
          cases hstep
          exact .resolved g error hresolve
      · cases hstep
  | connected g error =>
      simp only [Channel.clientStep] at hstep
      split at hstep
      · next hguard =>
          cases hstep
          exact .connected g error hguard.1 hguard.2
      · cases hstep
  | read g count error =>
      simp only [Channel.clientStep] at hstep
      split at hstep
      · cases hstep
      next link hlink =>
      split at hstep
      · next hguard =>
          cases hstep
          exact .read g count error hlink hguard.1 hguard.2
      · cases hstep
  | transfer i count =>
      simp only [Channel.clientStep] at hstep
      split at hstep
      · cases hstep
      next write hwrite =>
      split at hstep
      · cases hstep
      next link hlink =>
      split at hstep
      · next hguard =>
          cases hstep
          exact .transfer i count hwrite hlink hguard.1 hguard.2.1 hguard.2.2
      · cases hstep
  | written i error =>
      simp only [Channel.clientStep] at hstep
      split at hstep
      · cases hstep
      next write hwrite =>
      split at hstep
      · next hdone =>
          cases hstep
          exact .written i error hwrite hdone
      · cases hstep
  | posted i =>
      simp only [Channel.clientStep] at hstep
      split at hstep
      · cases hstep
      next callback hcallback =>
      cases hstep
      exact .posted i hcallback

/-! ## The whole -/

inductive Event where
  | client (event : ClientEvent)
  /-- The network establishes the connection a client is waiting for. -/
  | established (generation : ℕ)
  /-- The server accepts an established connection and creates its session. -/
  | accept (generation : ℕ) (id : SessionId)
  | server (generation : ℕ) (event : ServerEvent)
  deriving DecidableEq, Repr

/-- A step of a channel and of the world the sessions' callbacks act on. -/
def Channel.step (env : ClientEnvironment α) (callbacks : SessionCallbacks σ) :
    Channel α × σ → Event → Option (Channel α × σ)
  | (channel, w), .client event => (channel.clientStep env event).map (·, w)
  | (channel, w), .established g =>
    if g ∈ channel.client.connectsOutstanding ∧ channel.links g = none then
      some ({ channel with links := Function.update channel.links g (some {}) }, w)
    else none
  | (channel, w), .accept g id =>
    match channel.links g with
    | none => none
    | some link =>
      if link.serverEnd = none then
        some ({ channel with
          links := Function.update channel.links g
            (some { link with serverEnd := some { session := { id } } }) }, w)
      else none
  | (channel, w), .server g event =>
    match channel.links g with
    | none => none
    | some link =>
      match link.serverEnd with
      | none => none
      | some server =>
        (link.serverStep callbacks server w event).map fun (link, w) =>
          ({ channel with links := Function.update channel.links g (some link) }, w)

/-! ## What holds of the whole -/

/-- Every end of every connection is in order. -/
structure Channel.InOrder (channel : Channel α) : Prop where
  sends : channel.client.SendSide (Link.upstreamWritten ∘ channel.links)
  receives : channel.client.ReceiveSide (Link.downstreamReceived ∘ channel.links)
  links : ∀ g link, channel.links g = some link → link.InOrder

theorem Channel.inOrder_initial (application : α) : Channel.InOrder { application } where
  sends := Client.NetworkClient.sendSide_initial
  receives := Client.NetworkClient.receiveSide_initial
  links := nofun

section ClientStep

variable {channel channel' : Channel α}

theorem Channel.InOrder.link (h : channel.InOrder) {g : ℕ} {link' : Link} (hlink' : link'.InOrder)
    (g' : ℕ) (link : Link) (hlink : Function.update channel.links g (some link') g' = some link) :
    link.InOrder := by
  by_cases hg : g' = g
  · rw [hg, Function.update_self] at hlink
    cases hlink
    exact hlink'
  · rw [Function.update_of_ne hg] at hlink
    exact h.links g' link hlink

/-- A step that changes a connection without taking anything from the client or giving it
anything. -/
theorem Channel.InOrder.withLink (h : channel.InOrder) {g : ℕ} {link' : Link}
    (hlink' : link'.InOrder)
    (hup : link'.upstream.written = Link.upstreamWritten (channel.links g))
    (hdown : link'.downstream.received = Link.downstreamReceived (channel.links g)) :
    { channel with links := Function.update channel.links g (some link') }.InOrder where
  sends := by
    rw [Function.comp_update, show Link.upstreamWritten (some link') = _ from hup,
      ← Function.comp_apply (f := Link.upstreamWritten), Function.update_eq_self]
    exact h.sends
  receives := by
    rw [Function.comp_update, show Link.downstreamReceived (some link') = _ from hdown,
      ← Function.comp_apply (f := Link.downstreamReceived), Function.update_eq_self]
    exact h.receives
  links := h.link hlink'

/-- A step of the client alone. -/
theorem Channel.InOrder.withClient (h : channel.InOrder) {client : NetworkClient}
    (application : α) (hsends : client.SendSide (Link.upstreamWritten ∘ channel.links))
    (hreceives : client.ReceiveSide (Link.downstreamReceived ∘ channel.links)) :
    { channel with client, application }.InOrder where
  sends := hsends
  receives := hreceives
  links := h.links

theorem Channel.InOrder.read (h : channel.InOrder) (env : ClientEnvironment α) {g count : ℕ}
    {link : Link} (hlink : channel.links g = some link)
    (hread : g ∈ channel.client.readsOutstanding)
    (hcount : link.downstream.consumed + count ≤ link.downstream.written.length)
    (error : Option ErrorCode) :
    Channel.InOrder {
      client := ((channel.client.retireRead g).handleRead env error
        (link.downstream.next count) g channel.application).1
      application := ((channel.client.retireRead g).handleRead env error
        (link.downstream.next count) g channel.application).2
      links := Function.update channel.links g
        (some { link with downstream := link.downstream.consume count }) } where
  sends := by
    have hup : Link.upstreamWritten ∘ Function.update channel.links g
        (some { link with downstream := link.downstream.consume count }) =
          Link.upstreamWritten ∘ channel.links := by
      rw [Function.comp_update, show Link.upstreamWritten (some
        { link with downstream := link.downstream.consume count }) =
          (Link.upstreamWritten ∘ channel.links) g by simp [hlink, Link.upstreamWritten],
        Function.update_eq_self]
    rw [hup]
    exact (Client.NetworkClient.sendSide_handled env _).handleRead error _ g channel.application
      ((Client.NetworkClient.sendSide_handled env _).reads _
        (fun _ hg => Or.inl (List.mem_of_mem_erase hg)) h.sends)
  receives := by
    have hdown : Link.downstreamReceived ∘ Function.update channel.links g
        (some { link with downstream := link.downstream.consume count }) =
          Function.update (Link.downstreamReceived ∘ channel.links) g
            ((Link.downstreamReceived ∘ channel.links) g ++ link.downstream.next count) := by
      rw [Function.comp_update, Function.comp_apply, hlink]
      exact congrArg _ (Pipe.received_consume ..)
    rw [hdown]
    exact h.receives.handleRead env hread error _ channel.application
  links := by
    have hold := h.links g link hlink
    exact h.link ⟨hold.upstream, hcount, hold.serverEnd, hold.unaccepted⟩

theorem Channel.InOrder.transfer (h : channel.InOrder) {i count : ℕ} {write : Client.ClientWrite}
    {link : Link} (hwrite : channel.client.writesOutstanding[i]? = some write)
    (hlink : channel.links write.generation = some link)
    (hsocket : channel.client.socketOpen = true)
    (hcurrent : write.generation = channel.client.connectionGeneration)
    (hcount : write.op.sent + count ≤ write.op.buffer.length) :
    { channel with
      client := channel.client.transfer i count
      links := Function.update channel.links write.generation
        (some { link with upstream := link.upstream.write (write.op.next count) }) }.InOrder where
  sends := by
    have hup : Link.upstreamWritten ∘ Function.update channel.links write.generation
        (some { link with upstream := link.upstream.write (write.op.next count) }) =
          Function.update (Link.upstreamWritten ∘ channel.links)
            channel.client.connectionGeneration
            ((Link.upstreamWritten ∘ channel.links) channel.client.connectionGeneration ++
              write.op.next count) := by
      rw [Function.comp_update, ← hcurrent, Function.comp_apply, hlink]
      rfl
    rw [hup]
    exact h.sends.transfer hwrite hsocket hcurrent hcount
  receives := by
    have hdown : Link.downstreamReceived ∘ Function.update channel.links write.generation
        (some { link with upstream := link.upstream.write (write.op.next count) }) =
          Link.downstreamReceived ∘ channel.links := by
      rw [Function.comp_update, show Link.downstreamReceived (some
        { link with upstream := link.upstream.write (write.op.next count) }) =
          (Link.downstreamReceived ∘ channel.links) write.generation by
            simp [hlink, Link.downstreamReceived], Function.update_eq_self]
    rw [hdown]
    exact h.receives.of_eq rfl rfl rfl rfl rfl
  links := by
    have hold := h.links _ link hlink
    have hreceived := Pipe.received_write hold.upstream (write.op.next count)
    refine h.link ⟨hold.upstream.trans (by simp), hold.downstream, ?_, ?_⟩
    · rw [hreceived]
      exact hold.serverEnd
    · rw [hreceived]
      exact hold.unaccepted

/-- **A step of the client's end** keeps every connection in order. -/
theorem Channel.InOrder.clientStep (h : channel.InOrder) (env : ClientEnvironment α)
    {event : ClientEvent} (hstep : channel.clientStep env event = some channel') :
    channel'.InOrder := by
  cases Channel.clientStep_cases hstep with
  | call call =>
      exact h.withClient channel.application
        ((Client.NetworkClient.sendSide_survives _).run env.clock call h.sends)
        ((Client.NetworkClient.receiveSide_survives _).run env.clock call h.receives)
  | resolved g error hresolve =>
      have hsends : (channel.client.retireResolve g).SendSide _ := h.sends.of_same
        ⟨rfl, rfl, rfl, rfl, rfl, rfl, rfl, rfl, rfl⟩
      have hreceives : (channel.client.retireResolve g).ReceiveSide _ :=
        h.receives.of_eq rfl rfl rfl rfl rfl
      exact h.withClient _
        ((Client.NetworkClient.sendSide_handled env _).handleResolve error g _ hsends)
        (hreceives.handleResolve env error g _)
  | connected g error hconnect hlink =>
      have hsends : (channel.client.retireConnect g).SendSide _ := h.sends.of_same
        ⟨rfl, rfl, rfl, rfl, rfl, rfl, rfl, rfl, rfl⟩
      have hreceives : (channel.client.retireConnect g).ReceiveSide _ :=
        h.receives.of_eq rfl rfl rfl rfl rfl
      exact h.withClient _
        ((Client.NetworkClient.sendSide_handled env _).handleConnect error g _ hsends)
        (hreceives.handleConnect env error g _)
  | read g count error hlink hread hreadable => exact h.read env hlink hread hreadable.2.1 error
  | transfer i count hwrite hlink hsocket hcurrent hcount =>
      exact h.transfer hwrite hlink hsocket hcurrent hcount
  | written i error hwrite hdone =>
      exact h.withClient _ (h.sends.handleWrite env hwrite error hdone channel.application)
        (h.receives.handleWrite env i error _ _ channel.application)
  | posted i hcallback =>
      have hsends : (channel.client.retirePosted i).SendSide _ := h.sends.of_same
        ⟨rfl, rfl, rfl, rfl, rfl, rfl, rfl, rfl, rfl⟩
      have hreceives : (channel.client.retirePosted i).ReceiveSide _ :=
        h.receives.of_eq rfl rfl rfl rfl rfl
      exact h.withClient _ (hsends.handlePosted env _ _) (hreceives.handlePosted env _ _)

end ClientStep

/-- A connection that comes up has carried nothing. -/
theorem Channel.InOrder.established {channel : Channel α} (h : channel.InOrder) {g : ℕ}
    (hnew : channel.links g = none) :
    { channel with links := Function.update channel.links g (some {}) }.InOrder :=
  h.withLink ⟨Nat.le_refl 0, Nat.le_refl 0, nofun, fun _ => ⟨rfl, rfl⟩⟩
    (by rw [hnew]; rfl) (by rw [hnew]; rfl)

/-- **Every step** keeps every connection in order. -/
theorem Channel.InOrder.step {env : ClientEnvironment α} {callbacks : SessionCallbacks σ}
    {t t' : Channel α × σ} {event : Event} (h : t.1.InOrder)
    (hstep : Channel.step env callbacks t event = some t') : t'.1.InOrder := by
  obtain ⟨channel, w⟩ := t
  cases event with
  | client event =>
      simp only [Channel.step, Option.map_eq_some_iff] at hstep
      obtain ⟨channel', hclient, rfl⟩ := hstep
      exact h.clientStep env hclient
  | established g =>
      simp only [Channel.step] at hstep
      split at hstep
      · next hguard =>
          cases hstep
          exact h.established hguard.2
      · cases hstep
  | accept g id =>
      simp only [Channel.step] at hstep
      split at hstep
      · cases hstep
      next link hlink =>
      split at hstep
      · next hunaccepted =>
          cases hstep
          have hold : link.InOrder := h.links g link hlink
          obtain ⟨hreceived, hwritten⟩ := hold.unaccepted hunaccepted
          refine h.withLink (hold.withServerEnd ?_) (by rw [hlink]; rfl) (by rw [hlink]; rfl)
          rw [hreceived, hwritten]
          exact ServerEnd.inOrder_create id
      · cases hstep
  | server g event =>
      simp only [Channel.step] at hstep
      split at hstep
      · cases hstep
      next link hlink =>
      split at hstep
      · cases hstep
      next server hserver =>
      simp only [Option.map_eq_some_iff] at hstep
      obtain ⟨⟨link', w'⟩, hserverStep, rfl⟩ := hstep
      have hold : link.InOrder := h.links g link hlink
      obtain ⟨hlink', hup, hdown⟩ := hold.serverStep hserver hserverStep
      exact h.withLink hlink' (by rw [hup, hlink]; rfl) (by rw [hdown, hlink]; rfl)

/-! ## The channel -/

/-- The messages accepted and dispatched at the two ends of one connection are told apart by their
bytes, so a prefix of the bytes is a prefix of the messages. -/
theorem Channel.InOrder.delivers {channel : Channel α} (h : channel.InOrder) (g : ℕ) :
    Link.dispatched (channel.links g) <+: channel.client.acceptedIn g ∧
      channel.client.dispatchedIn g <+: Link.accepted (channel.links g) := by
  have hsentFits : ∀ m ∈ channel.client.acceptedIn g, m.Fits := by
    intro m hm
    obtain ⟨p, hp, rfl⟩ := List.mem_map.mp hm
    exact h.sends.fits p (List.mem_of_mem_filter hp)
  have hreadFits : ∀ m ∈ channel.client.dispatchedIn g, m.Fits := by
    intro m hm
    obtain ⟨p, hp, rfl⟩ := List.mem_map.mp hm
    exact h.receives.fits p (List.mem_of_mem_filter hp)
  have hsent := h.sends.sent g
  have hread := h.receives.read g
  simp only [Function.comp_apply, Link.upstreamWritten] at hsent
  simp only [Function.comp_apply, Link.downstreamReceived] at hread
  cases hlink : channel.links g with
  | none =>
      rw [hlink] at hread
      have hnothing : channel.client.dispatchedIn g <+: [] :=
        prefix_of_bytes_prefix nofun hreadFits hread
      exact ⟨List.nil_prefix, hnothing⟩
  | some link =>
      rw [hlink] at hsent hread
      have hold := h.links g link hlink
      cases hserver : link.serverEnd with
      | none =>
          obtain ⟨-, hwritten⟩ := hold.unaccepted hserver
          have hempty : link.downstream.received = [] := by
            rw [Pipe.received, hwritten, List.take_nil]
          rw [Option.map_some, Option.getD_some, hempty] at hread
          have hnothing : channel.client.dispatchedIn g <+: [] :=
            prefix_of_bytes_prefix nofun hreadFits hread
          simp only [Link.dispatched, Link.accepted, Option.bind_some, hserver, Option.map_none,
            Option.getD_none]
          exact ⟨List.nil_prefix, hnothing⟩
      | some server =>
          have hin := hold.serverEnd server hserver
          simp only [Link.dispatched, Link.accepted, Option.bind_some, hserver, Option.map_some,
            Option.getD_some]
          constructor
          · exact prefix_of_bytes_prefix hsentFits hin.receives.fits
              (hin.receives.read.trans (link.upstream.received_isPrefix.trans hsent))
          · exact prefix_of_bytes_prefix hin.sends.fits hreadFits
              (hread.trans (link.downstream.received_isPrefix.trans hin.sends.sent))

/-- **Each connection is a channel in both directions.** After every run, what the session of a
connection has dispatched starts what the client's `Send` accepted on this connection, and what the
client has dispatched on it starts what the session's `Send` accepted; a connection that was never
accepted dispatches nothing. `Send` accepts by recording exactly the message it was given, and a
message it refuses leaves queue, byte counter and record as they were. (`NetworkClient.Counts` says
how often `Connect` and `Disconnect` may succeed.) -/
theorem channel_delivers (env : ClientEnvironment α) (callbacks : SessionCallbacks σ)
    (application : α) (world world' : σ) (events : List Event) (channel : Channel α)
    (h : runFrom (Channel.step env callbacks) ({ application }, world) events =
      some (channel, world')) :
    (∀ g, Link.dispatched (channel.links g) <+: channel.client.acceptedIn g ∧
      channel.client.dispatchedIn g <+: Link.accepted (channel.links g)) ∧
    (∀ type payload, ((channel.client.send type payload).1 = false →
        (channel.client.send type payload).2.sendQueue = channel.client.sendQueue ∧
        (channel.client.send type payload).2.pendingSendBytes = channel.client.pendingSendBytes ∧
        (channel.client.send type payload).2.accepted = channel.client.accepted) ∧
      ((channel.client.send type payload).1 = true →
        (channel.client.send type payload).2.accepted = channel.client.accepted ++
          [(channel.client.connectionGeneration, ⟨type, payload⟩)])) ∧
    (∀ g link server, channel.links g = some link → link.serverEnd = some server →
      ∀ type payload, ((server.session.send type payload).1 = false →
          (server.session.send type payload).2.sendQueue = server.session.sendQueue ∧
          (server.session.send type payload).2.pendingSendBytes =
            server.session.pendingSendBytes ∧
          (server.session.send type payload).2.accepted = server.session.accepted) ∧
        ((server.session.send type payload).1 = true →
          (server.session.send type payload).2.accepted =
            server.session.accepted ++ [⟨type, payload⟩])) := by
  have hinv : channel.InOrder := runFrom_induction
    (P := fun t : Channel α × σ => t.1.InOrder) (fun _ _ _ hin hstep => hin.step hstep)
    (Channel.inOrder_initial application) h
  refine ⟨hinv.delivers, ?_, ?_⟩
  · intro type payload
    exact ⟨Client.NetworkClient.send_false _ type payload,
      Client.NetworkClient.send_true _ type payload⟩
  · intro g link server hlink hserver type payload
    exact ⟨Session.send_false _ type payload, Session.send_true _ type payload⟩

/-- An application that does nothing when it is called back. -/
def quiet : ClientEnvironment Unit where
  clock n := UInt64.ofNat n
  invoke _ _ a := ([], a)

/-- A ping and its pong, cut into several reads. -/
def pingPong : List Event := [
  .client (.call (.connect "localhost" 9000 {})),
  .client (.resolved 1 none), .established 1, .client (.connected 1 none),
  .client (.call .sendPing),
  .accept 1 7, .server 1 .start,
  .client (.transfer 0 5), .server 1 (.read 5 none),
  .client (.transfer 0 7), .client (.written 0 none), .server 1 (.read 7 none),
  .server 1 (.transfer 0 12), .client (.read 1 9 none), .client (.read 1 3 none)]

/-- The theorem on a run that carries a message each way. -/
theorem channel_delivers_ping_pong : ∃ channel,
    runFrom (Channel.step quiet ⟨none, none⟩) ({ application := () }, ()) pingPong =
      some (channel, ()) ∧
    Link.dispatched (channel.links 1) = [⟨.ping, List.replicate 8 0⟩] ∧
    channel.client.dispatchedIn 1 = [⟨.pong, List.replicate 8 0⟩] ∧
    ∀ g, Link.dispatched (channel.links g) <+: channel.client.acceptedIn g ∧
      channel.client.dispatchedIn g <+: Link.accepted (channel.links g) := by
  have hrun : (runFrom (Channel.step quiet ⟨none, none⟩) ({ application := () }, ())
      pingPong).map (fun t => (Link.dispatched (t.1.links 1), t.1.client.dispatchedIn 1)) =
        some ([⟨.ping, List.replicate 8 0⟩], [⟨.pong, List.replicate 8 0⟩]) := by
    decide +kernel
  obtain ⟨⟨channel, ⟨⟩⟩, hsome, hdispatched⟩ := Option.map_eq_some_iff.mp hrun
  obtain ⟨hserver, hclient⟩ := Prod.mk.inj hdispatched
  exact ⟨channel, hsome, hserver, hclient,
    (channel_delivers quiet ⟨none, none⟩ () () () pingPong channel hsome).1⟩

end NetworkArena.System
