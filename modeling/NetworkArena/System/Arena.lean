/-
# NetworkArena.System.Arena -- one server and any number of clients

The joint system. Clients are numbered; each is a `Channel` with the application of
`Client.ClientApplication` around it. The server's session objects are the server's ends of the
connections, so a session is known by its client, the generation of the connection and its id, and
the world in which the server acts is the channels of all clients.

Clients are honest: they send through `SendPing` and `SendPlayerInput` only, `Connect` is called
with all the callbacks of the application, and posted callbacks run in the order they were posted.
What happens is otherwise free: who connects, presses keys, disconnects or loses its connection,
when the server ticks, and how the network cuts and delays the bytes.
-/
import NetworkArena.Client.ClientApplication
import NetworkArena.Server.Server
import NetworkArena.System.Channel

namespace NetworkArena.System

open NetworkArena.Foundation
open NetworkArena.Shared
open NetworkArena.Server
open NetworkArena.Client

/-! ## Session objects -/

/-- A session object: the connection it owns, and its id. -/
structure SessionRef where
  client : ℕ
  generation : ℕ
  id : SessionId
  deriving DecidableEq, Repr

instance : SessionObject SessionRef := ⟨SessionRef.id⟩

abbrev Channels := ℕ → Channel ClientApplication

namespace Channels

/-- The session of a connection, once the server has accepted it. -/
def sessionAt (channels : Channels) (n g : ℕ) : Option ServerEnd :=
  ((channels n).links g).bind Link.serverEnd

/-- Give a connection a session, or change it. -/
def setSession (channels : Channels) (n g : ℕ) (server : ServerEnd) : Channels :=
  match (channels n).links g with
  | none => channels
  | some link =>
    Function.update channels n { channels n with
      links := Function.update (channels n).links g (some { link with serverEnd := some server }) }

/-- Change the session of a connection, if there is one. -/
def modifySession (channels : Channels) (n g : ℕ) (f : ServerEnd → ServerEnd) : Channels :=
  match channels.sessionAt n g with
  | none => channels
  | some server => channels.setSession n g (f server)

end Channels

section Channels

variable {channels : Channels} {n g : ℕ}

/-- What changes the connections of a client leaves the client and its application alone. -/
theorem Channels.update_links (channels : Channels) (n : ℕ) (links : ℕ → Option Link) (n' : ℕ) :
    (Function.update channels n { channels n with links } n').client = (channels n').client ∧
      (Function.update channels n { channels n with links } n').application =
        (channels n').application := by
  by_cases hn : n' = n
  · rw [hn, Function.update_self]
    exact ⟨rfl, rfl⟩
  · rw [Function.update_of_ne hn]
    exact ⟨rfl, rfl⟩

@[simp]
theorem Channels.setSession_client (channels : Channels) (n g : ℕ) (server : ServerEnd) (n' : ℕ) :
    (channels.setSession n g server n').client = (channels n').client := by
  unfold Channels.setSession
  cases (channels n).links g with
  | none => rfl
  | some link => exact (channels.update_links n _ n').1

@[simp]
theorem Channels.setSession_application (channels : Channels) (n g : ℕ) (server : ServerEnd)
    (n' : ℕ) : (channels.setSession n g server n').application = (channels n').application := by
  unfold Channels.setSession
  cases (channels n).links g with
  | none => rfl
  | some link => exact (channels.update_links n _ n').2

theorem Channels.sessionAt_setSession {link : Link} (hlink : (channels n).links g = some link)
    (server : ServerEnd) (n' g' : ℕ) :
    (channels.setSession n g server).sessionAt n' g' =
      if n' = n ∧ g' = g then some server else channels.sessionAt n' g' := by
  unfold Channels.setSession Channels.sessionAt
  simp only [hlink]
  by_cases hn : n' = n
  · subst hn
    rw [Function.update_self]
    dsimp only
    by_cases hg : g' = g
    · subst hg
      rw [Function.update_self, if_pos ⟨rfl, rfl⟩]
      rfl
    · rw [Function.update_of_ne hg, if_neg fun h => hg h.2]
  · rw [Function.update_of_ne hn, if_neg fun h => hn h.1]

/-- A session that changes in order keeps all connections in order. -/
theorem Channels.inOrder_setSession (h : ∀ n, (channels n).InOrder) {link : Link}
    (hlink : (channels n).links g = some link) {server : ServerEnd}
    (hserver : server.InOrder link.upstream.received link.downstream.written) (n' : ℕ) :
    (channels.setSession n g server n').InOrder := by
  unfold Channels.setSession
  simp only [hlink]
  by_cases hn : n' = n
  · subst hn
    rw [Function.update_self]
    exact (h n').withLink (((h n').links g link hlink).withServerEnd hserver)
      (by rw [hlink]; rfl) (by rw [hlink]; rfl)
  · rw [Function.update_of_ne hn]
    exact h n'

theorem Channels.sessionAt_eq_some {server : ServerEnd} :
    channels.sessionAt n g = some server ↔
      ∃ link, (channels n).links g = some link ∧ link.serverEnd = some server :=
  Option.bind_eq_some_iff

/-- A client that moves takes its connections with it. -/
theorem Channels.sessionAt_update (channels : Channels) (n : ℕ)
    (channel : Channel ClientApplication) (n' g' : ℕ) :
    Channels.sessionAt (Function.update channels n channel) n' g' =
      if n' = n then (channel.links g').bind Link.serverEnd else channels.sessionAt n' g' := by
  unfold Channels.sessionAt
  by_cases hn : n' = n
  · rw [if_pos hn, hn, Function.update_self]
  · rw [if_neg hn, Function.update_of_ne hn]

@[simp]
theorem Channels.modifySession_client (channels : Channels) (n g : ℕ) (f : ServerEnd → ServerEnd)
    (n' : ℕ) : (channels.modifySession n g f n').client = (channels n').client := by
  unfold Channels.modifySession
  cases channels.sessionAt n g with
  | none => rfl
  | some server => exact Channels.setSession_client ..

@[simp]
theorem Channels.modifySession_application (channels : Channels) (n g : ℕ)
    (f : ServerEnd → ServerEnd) (n' : ℕ) :
    (channels.modifySession n g f n').application = (channels n').application := by
  unfold Channels.modifySession
  cases channels.sessionAt n g with
  | none => rfl
  | some server => exact Channels.setSession_application ..

theorem Channels.sessionAt_modifySession (channels : Channels) (n g : ℕ)
    (f : ServerEnd → ServerEnd) (n' g' : ℕ) :
    (channels.modifySession n g f).sessionAt n' g' =
      if n' = n ∧ g' = g then (channels.sessionAt n g).map f else channels.sessionAt n' g' := by
  unfold Channels.modifySession
  cases hsession : channels.sessionAt n g with
  | none =>
      by_cases hsame : n' = n ∧ g' = g
      · rw [if_pos hsame, hsame.1, hsame.2]
        exact hsession
      · rw [if_neg hsame]
  | some server =>
      obtain ⟨link, hlink, -⟩ := Channels.sessionAt_eq_some.mp hsession
      exact Channels.sessionAt_setSession hlink (f server) n' g'

theorem Channels.inOrder_modifySession (h : ∀ n, (channels n).InOrder)
    {f : ServerEnd → ServerEnd}
    (hf : ∀ server inp out, channels.sessionAt n g = some server → server.InOrder inp out →
      (f server).InOrder inp out) (n' : ℕ) : (channels.modifySession n g f n').InOrder := by
  unfold Channels.modifySession
  cases hsession : channels.sessionAt n g with
  | none => exact h n'
  | some server =>
      obtain ⟨link, hlink, hserver⟩ := Channels.sessionAt_eq_some.mp hsession
      exact Channels.inOrder_setSession h hlink
        (hf server _ _ hsession (((h n).links g link hlink).serverEnd server hserver)) n'

end Channels

/-- Notes whether `onClosed_` was called. -/
def closeRecorder : SessionCallbacks Bool := ⟨some fun _ _ => true, none⟩

/-- The session objects of a server that accepts the connection of generation `g` of client `n`. A
destroyed session has closed its socket. -/
def sessionObjects (n g : ℕ) : SessionObjects SessionRef Channels where
  isHeld session channels :=
    (channels.sessionAt session.client session.generation).any fun server =>
      server.session.readsOutstanding ≠ 0 || !server.session.writesOutstanding.isEmpty
  create id channels := (⟨n, g, id⟩, channels.setSession n g { session := { id } })
  destroy session channels :=
    channels.modifySession session.client session.generation fun server =>
      { server with session := { server.session with closed := true, socketOpen := false } }
  start session channels :=
    channels.modifySession session.client session.generation fun server =>
      ⟨server.session.start, true⟩
  send session type payload channels :=
    ((channels.sessionAt session.client session.generation).any fun server =>
        (server.session.send type payload).1,
      channels.modifySession session.client session.generation fun server =>
        { server with session := (server.session.send type payload).2 })
  stop session channels :=
    ((channels.sessionAt session.client session.generation).any fun server =>
        (server.session.stop closeRecorder false).2,
      channels.modifySession session.client session.generation fun server =>
        { server with session := (server.session.stop closeRecorder false).1 })

/-! ## The system -/

structure Arena (K : Type) where
  server : Server K SessionRef
  channels : Channels := fun _ => { application := {} }

inductive ArenaEvent (K : Type) where
  /-- Something happens on the connections of a client. -/
  | channel (n : ℕ) (event : Event)
  | update (n : ℕ) (keys : Keys)
  | shutdown (n : ℕ)
  /-- The server accepts a connection. -/
  | accept (n g : ℕ)
  | tick (deltaSeconds : K)
  | stop

def ArenaEvent.isTick {K : Type} : ArenaEvent K → Bool
  | .tick _ => true
  | _ => false

/-- The calls an honest client makes. -/
def isHonestCall : ApiCall → Bool
  | .connect _ _ callbacks => callbacks == {}
  | .disconnect => true
  | .send _ => false
  | .sendPing => true
  | .sendPlayerInput _ => true

def isConnect : ApiCall → Bool
  | .connect _ _ _ => true
  | _ => false

/-- What can happen on a connection by itself. Sessions are created, started and stopped by the
server, and it is the server that sends on them. -/
def isHonest : Event → Bool
  | .client (.call call) => isHonestCall call
  | .client (.posted i) => i == 0
  | .client _ => true
  | .established _ => true
  | .accept _ _ => false
  | .server _ .start => false
  | .server _ (.send _) => false
  | .server _ .stop => false
  | .server _ _ => true

namespace Arena

variable {K : Type} [Field K] [LinearOrder K]

def initial : Arena K := { server := Server.create }

def setChannel (t : Arena K) (n : ℕ) (channel : Channel ClientApplication) : Arena K :=
  { t with channels := Function.update t.channels n channel }

variable [IsStrictOrderedRing K] [FloorRing K] [HasSqrt K]

/-- A step of the system. `clock n` are the readings of the clock of client `n`, and `toFloat` is
how the server writes a number of its simulation as a `float`. -/
def step (clock : ℕ → ℕ → UInt64) (toFloat : K → FloatBits) (t : Arena K) :
    ArenaEvent K → Option (Arena K)
  | .channel n event =>
    if isHonest event then
      (Channel.step (ClientApplication.environment (clock n)) Server.callbacks
        (t.channels n, t.server) event).map fun (channel, server) =>
          { t with server }.setChannel n channel
    else none
  | .update n keys =>
    let (client, application) :=
      ClientApplication.update (clock n) keys (t.channels n).client (t.channels n).application
    some (t.setChannel n { t.channels n with client, application })
  | .shutdown n =>
    let (client, application) :=
      ClientApplication.shutdown (t.channels n).client (t.channels n).application
    some (t.setChannel n { t.channels n with client, application })
  | .accept n g =>
    match (t.channels n).links g with
    | none => none
    | some link =>
      if link.serverEnd = none then
        let (server, channels) := t.server.handleAccept (sessionObjects n g) t.channels
        some { server, channels }
      else none
  | .tick deltaSeconds =>
    let (server, channels) :=
      t.server.handleTick (sessionObjects 0 0) toFloat deltaSeconds t.channels
    some { server, channels }
  | .stop =>
    let (server, channels) := t.server.stop (sessionObjects 0 0) t.channels
    some { server, channels }

/-- What an event needs to happen in the system, and what it leaves. -/
inductive Step (clock : ℕ → ℕ → UInt64) (toFloat : K → FloatBits) (t : Arena K) :
    ArenaEvent K → Arena K → Prop
  | client (n : ℕ) (event : ClientEvent) {channel : Channel ClientApplication}
      (hevent : isHonest (.client event) = true)
      (hstep : (t.channels n).clientStep (ClientApplication.environment (clock n)) event =
        some channel) :
    Step clock toFloat t (.channel n (.client event)) (t.setChannel n channel)
  | established (n g : ℕ) (hnew : (t.channels n).links g = none) :
    Step clock toFloat t (.channel n (.established g)) (t.setChannel n { t.channels n with
      links := Function.update (t.channels n).links g (some {}) })
  | server (n g : ℕ) (event : ServerEvent) {channel : Channel ClientApplication}
      {server : Server K SessionRef} (hevent : isHonest (.server g event) = true)
      (hstep : Channel.step (ClientApplication.environment (clock n)) Server.callbacks
        (t.channels n, t.server) (.server g event) = some (channel, server)) :
    Step clock toFloat t (.channel n (.server g event)) ({ t with server }.setChannel n channel)
  | update (n : ℕ) (keys : Keys) :
    Step clock toFloat t (.update n keys) (t.setChannel n { t.channels n with
      client := (ClientApplication.update (clock n) keys (t.channels n).client
        (t.channels n).application).1
      application := (ClientApplication.update (clock n) keys (t.channels n).client
        (t.channels n).application).2 })
  | shutdown (n : ℕ) :
    Step clock toFloat t (.shutdown n) (t.setChannel n { t.channels n with
      client := (ClientApplication.shutdown (t.channels n).client (t.channels n).application).1
      application :=
        (ClientApplication.shutdown (t.channels n).client (t.channels n).application).2 })
  | accept (n g : ℕ) {link : Link} (hlink : (t.channels n).links g = some link)
      (hnew : link.serverEnd = none) :
    Step clock toFloat t (.accept n g)
      ⟨(t.server.handleAccept (sessionObjects n g) t.channels).1,
        (t.server.handleAccept (sessionObjects n g) t.channels).2⟩
  | tick (deltaSeconds : K) :
    Step clock toFloat t (.tick deltaSeconds)
      ⟨(t.server.handleTick (sessionObjects 0 0) toFloat deltaSeconds t.channels).1,
        (t.server.handleTick (sessionObjects 0 0) toFloat deltaSeconds t.channels).2⟩
  | stop :
    Step clock toFloat t .stop ⟨(t.server.stop (sessionObjects 0 0) t.channels).1,
      (t.server.stop (sessionObjects 0 0) t.channels).2⟩

theorem step_cases {clock : ℕ → ℕ → UInt64} {toFloat : K → FloatBits} {t t' : Arena K}
    {event : ArenaEvent K} (hstep : step clock toFloat t event = some t') :
    Step clock toFloat t event t' := by
  cases event with
  | channel n event =>
      simp only [step] at hstep
      split at hstep
      swap
      · cases hstep
      next hevent =>
      obtain ⟨⟨channel, server⟩, hone, rfl⟩ := Option.map_eq_some_iff.mp hstep
      cases event with
      | client event =>
          obtain ⟨channel', hclient, hsame⟩ := Option.map_eq_some_iff.mp hone
          cases hsame
          exact .client n event hevent hclient
      | established g =>
          simp only [Channel.step] at hone
          split at hone
          · next hguard =>
              cases hone
              exact .established n g hguard.2
          · cases hone
      | accept g id => cases hevent
      | server g event => exact .server n g event hevent hone
  | update n keys =>
      cases hstep
      exact .update n keys
  | shutdown n =>
      cases hstep
      exact .shutdown n
  | accept n g =>
      simp only [step] at hstep
      split at hstep
      · cases hstep
      next link hlink =>
      split at hstep
      · next hnew =>
          cases hstep
          exact .accept n g hlink hnew
      · cases hstep
  | tick deltaSeconds =>
      cases hstep
      exact .tick deltaSeconds
  | stop =>
      cases hstep
      exact .stop

end Arena

end NetworkArena.System
