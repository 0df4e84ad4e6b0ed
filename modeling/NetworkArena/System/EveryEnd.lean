/-
# NetworkArena.System.EveryEnd -- properties of every session and of every client

A property of one session that its own handlers keep, and so does what the server does with
sessions, holds of every session in every run (`SessionInvariant`). What the server does with
sessions is to create, start, stop and destroy them, and to send the identity and the snapshots on
them; pongs are sent by the sessions themselves. Likewise for a property of one client and what the
application does with it (`ClientInvariant`).
-/
import NetworkArena.System.Reachable

namespace NetworkArena.System

open NetworkArena.Foundation
open NetworkArena.Shared
open NetworkArena.Server
open NetworkArena.Client

variable {K : Type}

/-! ## Every session -/

/-- What a property of sessions needs to hold of every session. -/
structure SessionInvariant (P : Session → Prop) : Prop where
  create : ∀ id, P { id }
  entered : ∀ id payload, P (({ id } : Session).send .playerIdentity payload).2.start
  send : ∀ {s : Session} payload, P s → P (s.send .worldStateSnapshot payload).2
  close : ∀ {s : Session}, P s → P (s.close closeRecorder false).1
  destroy : ∀ {s : Session}, P s → P { s with closed := true, socketOpen := false }
  read : ∀ {s : Session} {σ : Type} (callbacks : SessionCallbacks σ) error received w,
    s.readsOutstanding ≠ 0 → P s → P (s.retireRead.handleRead callbacks error received w).1
  transfer : ∀ {s : Session} i count, P s → P (s.transfer i count)
  written : ∀ {s : Session} {σ : Type} (callbacks : SessionCallbacks σ) i error count w,
    P s → P ((s.retireWrite i).handleWrite callbacks error count w).1

/-- The property holds of every session there is. -/
def AllSessions (P : Session → Prop) (channels : Channels) : Prop :=
  ∀ n g server, channels.sessionAt n g = some server → P server.session

section Sessions

variable {P : Session → Prop} {channels : Channels} {n g : ℕ}

theorem AllSessions.modifySession (h : AllSessions P channels) {f : ServerEnd → ServerEnd}
    (hf : ∀ server, channels.sessionAt n g = some server → P server.session →
      P (f server).session) : AllSessions P (channels.modifySession n g f) := by
  intro n' g' server hserver
  rw [Channels.sessionAt_modifySession] at hserver
  split at hserver
  · obtain ⟨old, hold, rfl⟩ := Option.map_eq_some_iff.mp hserver
    exact hf old hold (h n g old hold)
  · exact h n' g' server hserver

theorem AllSessions.setSession (h : AllSessions P channels) {link : Link}
    (hlink : (channels n).links g = some link) {server : ServerEnd} (hnew : P server.session) :
    AllSessions P (channels.setSession n g server) := by
  intro n' g' server' hserver
  rw [Channels.sessionAt_setSession hlink] at hserver
  split at hserver
  · cases hserver
    exact hnew
  · exact h n' g' server' hserver

/-- Only the sessions count. -/
theorem AllSessions.of_sessions (h : AllSessions P channels) {channels' : Channels}
    (hat : ∀ n g, channels'.sessionAt n g = channels.sessionAt n g) : AllSessions P channels' := by
  intro n g server hserver
  rw [hat] at hserver
  exact h n g server hserver

namespace SessionInvariant

variable (hP : SessionInvariant P)

include hP

theorem stopAll (h : AllSessions P channels) (n g : ℕ) (session : SessionRef) :
    AllSessions P ((sessionObjects n g).stop session channels).2 :=
  h.modifySession fun _ _ hsession => hP.close hsession

theorem sendAll (h : AllSessions P channels) (n g : ℕ) (session : SessionRef)
    (payload : List UInt8) :
    AllSessions P ((sessionObjects n g).send session .worldStateSnapshot payload channels).2 :=
  h.modifySession fun _ _ hsession => hP.send payload hsession

theorem broadcastLoop (n g : ℕ) (payload : List UInt8)
    (players : List (SessionId × Player K SessionRef)) (registry : List (SessionId × SessionRef))
    (h : AllSessions P channels) :
    AllSessions P (Room.broadcastLoop (Server.roomSessions (sessionObjects n g))
      .worldStateSnapshot payload players (registry, channels)).2.2 := by
  induction players generalizing channels registry with
  | nil => exact h
  | cons entry players ih =>
      unfold Room.broadcastLoop
      split
      · exact ih registry h
      · next session hgood => exact ih registry (hP.sendAll h n g session payload)

variable [Field K]

theorem dropFailed (n g : ℕ) (failed : List SessionRef) (r : Room K SessionRef)
    (registry : List (SessionId × SessionRef)) (h : AllSessions P channels) :
    AllSessions P (Room.dropFailed (Server.roomSessions (sessionObjects n g)) failed r
      (registry, channels)).2.2 := by
  induction failed generalizing channels r registry with
  | nil => exact h
  | cons session failed ih =>
      have hstopped := hP.stopAll h n g session
      unfold Room.dropFailed Server.roomSessions
      dsimp only
      split
      · exact ih _ _ hstopped
      · exact ih _ _ hstopped

theorem broadcast (n g : ℕ) (payload : List UInt8) (r : Room K SessionRef)
    (registry : List (SessionId × SessionRef)) (h : AllSessions P channels) :
    AllSessions P (r.broadcast (Server.roomSessions (sessionObjects n g)) .worldStateSnapshot
      payload (registry, channels)).2.2 := by
  have htold := hP.broadcastLoop n g payload r.players registry h
  unfold Room.broadcast
  generalize Room.broadcastLoop (Server.roomSessions (sessionObjects n g)) .worldStateSnapshot
    payload r.players (registry, channels) = told at htold
  obtain ⟨⟨expired, failed⟩, registry', channels'⟩ := told
  exact hP.dropFailed n g failed _ registry' htold

theorem stopSession (s : Server K SessionRef) (n g : ℕ) (session : SessionRef)
    (h : AllSessions P channels) :
    AllSessions P (s.stopSession (sessionObjects n g) session channels).2 :=
  hP.stopAll h n g session

/-- **The server stops.** -/
theorem stop (s : Server K SessionRef) (n g : ℕ) (h : AllSessions P channels) :
    AllSessions P (s.stop (sessionObjects n g) channels).2 := by
  have hclose : ∀ (entries : List (SessionId × SessionRef)) (s : Server K SessionRef)
      (channels : Channels), AllSessions P channels →
        AllSessions P (s.closeAll (sessionObjects n g) entries channels).2 := by
    intro entries
    induction entries with
    | nil => exact fun _ _ h => h
    | cons entry entries ih => exact fun s _ h => ih _ _ (hP.stopSession s n g entry.2 h)
  unfold Server.stop
  split
  · exact h
  · exact hclose _ _ _ h

variable [LinearOrder K] [IsStrictOrderedRing K]

/-- **The server accepts a connection.** -/
theorem handleAccept {s : Server K SessionRef} (hseated : s.Seated) {link : Link}
    (hlink : (channels n).links g = some link) (h : AllSessions P channels) :
    AllSessions P (s.handleAccept (sessionObjects n g) channels).2 := by
  have hcreated :
      AllSessions P (channels.setSession n g { session := { id := s.nextSessionId } }) :=
    h.setSession hlink (hP.create s.nextSessionId)
  have hat : (channels.setSession n g { session := { id := s.nextSessionId } }).sessionAt n g =
      some { session := { id := s.nextSessionId } } := by
    rw [Channels.sessionAt_setSession hlink, if_pos ⟨rfl, rfl⟩]
  rcases handleAccept_cases s channels n g with
    ⟨-, hnothing⟩ | ⟨-, ⟨-, hdropped⟩ | ⟨-, hentering⟩⟩
  · rw [hnothing]
    exact h
  · rw [hdropped]
    exact hcreated.modifySession fun _ _ hsession => hP.destroy hsession
  · rcases enterDefaultRoom_cases (s := { s with
        nextSessionId := s.nextSessionId + 1
        sessions := s.sessions ++ [(s.nextSessionId, (⟨n, g, s.nextSessionId⟩ : SessionRef))] })
      (hseated.of_eq rfl rfl) hat with
      ⟨playerId, -, hrefused⟩ | ⟨r', -, -, hsuccess⟩
    · rw [hentering _ hrefused.symm]
      exact hP.stopSession _ n g _ hcreated
    · rw [hentering _ hsuccess.symm]
      -- the session is told who it is and started, both before anything else happens to it
      intro n' g' server hserver
      change (Channels.modifySession (Channels.modifySession _ n g _) n g _).sessionAt n' g' = _
        at hserver
      rw [Channels.sessionAt_modifySession] at hserver
      split at hserver
      · rw [Channels.sessionAt_modifySession, if_pos ⟨rfl, rfl⟩, hat] at hserver
        cases hserver
        exact hP.entered s.nextSessionId (identityMessage s.room.nextPlayerId).payload
      · next hother =>
          rw [Channels.sessionAt_modifySession, if_neg hother] at hserver
          exact hcreated n' g' server hserver

variable [FloorRing K] [HasSqrt K]

theorem tickDefaultRoom (s : Server K SessionRef) (n g : ℕ) (toFloat : K → FloatBits)
    (deltaSeconds : K) (h : AllSessions P channels) :
    AllSessions P (s.tickDefaultRoom (sessionObjects n g) toFloat deltaSeconds channels).2 := by
  unfold Server.tickDefaultRoom
  dsimp only
  split
  · exact h
  · exact hP.broadcast n g _ _ _ h

/-- **A tick of the server.** -/
theorem handleTick (s : Server K SessionRef) (n g : ℕ) (toFloat : K → FloatBits)
    (deltaSeconds : K) (h : AllSessions P channels) :
    AllSessions P (s.handleTick (sessionObjects n g) toFloat deltaSeconds channels).2 := by
  unfold Server.handleTick
  split
  · exact h
  · exact hP.tickDefaultRoom _ n g toFloat _ h

omit [Field K] [LinearOrder K] [IsStrictOrderedRing K] [FloorRing K] [HasSqrt K] in
/-- **A handler of a session.** -/
theorem serverStep {σ : Type} {callbacks : SessionCallbacks σ} {link link' : Link}
    {server : ServerEnd} {w w' : σ} {g : ℕ} {event : ServerEvent}
    (hevent : isHonest (.server g event) = true)
    (hstep : link.serverStep callbacks server w event = some (link', w')) (h : P server.session) :
    ∃ server', link'.serverEnd = some server' ∧ P server'.session := by
  cases event with
  | start => cases hevent
  | send message => cases hevent
  | stop => cases hevent
  | read count error =>
      simp only [Link.serverStep] at hstep
      split at hstep
      · next hguard =>
          cases hstep
          exact ⟨_, rfl, hP.read callbacks error _ w hguard.1 h⟩
      · cases hstep
  | transfer i count =>
      simp only [Link.serverStep] at hstep
      split at hstep
      · cases hstep
      split at hstep
      · cases hstep
        exact ⟨_, rfl, hP.transfer i count h⟩
      · cases hstep
  | written i error =>
      simp only [Link.serverStep] at hstep
      split at hstep
      · cases hstep
      next op _ =>
      split at hstep
      · cases hstep
        exact ⟨_, rfl, hP.written callbacks i error op.sent w h⟩
      · cases hstep

end SessionInvariant

end Sessions

/-! ## Every client -/

section Clients

variable {α : Type}

/-- What a property of clients needs to hold of a client, whatever happens to it. -/
structure ClientInvariant (env : ClientEnvironment α) (P : NetworkClient → Prop) : Prop where
  survives : NetworkClient.Survives P
  handled : NetworkClient.Handled env P P
  owed : ∀ {c : NetworkClient} queue pending resolves connects reads writes posted diagnostics,
    P c → P { c with
      sendQueue := queue
      pendingSendBytes := pending
      resolvesOutstanding := resolves
      connectsOutstanding := connects
      readsOutstanding := reads
      writesOutstanding := writes
      posted := posted
      diagnostics := diagnostics }

variable {env : ClientEnvironment α} {P : NetworkClient → Prop}

/-- **Whatever happens at the client's end.** -/
theorem ClientInvariant.clientStep (hP : ClientInvariant env P) {channel channel' : Channel α}
    {event : ClientEvent} (hstep : channel.clientStep env event = some channel')
    (h : P channel.client) : P channel'.client := by
  cases Channel.clientStep_cases hstep with
  | call call => exact hP.survives.run env.clock call h
  | resolved g error hresolve =>
      have hretired : P (channel.client.retireResolve g) := hP.owed _ _ _ _ _ _ _ _ h
      exact hP.handled.handleResolve error g channel.application hretired
  | connected g error hconnect hlink =>
      have hretired : P (channel.client.retireConnect g) := hP.owed _ _ _ _ _ _ _ _ h
      exact hP.handled.handleConnect error g channel.application hretired
  | read g count error hlink hread hreadable =>
      have hretired : P (channel.client.retireRead g) := hP.owed _ _ _ _ _ _ _ _ h
      exact hP.handled.handleRead error _ g channel.application hretired
  | transfer i count hwrite hlink hsocket hcurrent hcount => exact hP.owed _ _ _ _ _ _ _ _ h
  | written i error hwrite hdone =>
      have hretired : P (channel.client.retireWrite i) := hP.owed _ _ _ _ _ _ _ _ h
      exact hP.handled.handleWrite
        (fun _ _ _ _ h => hP.owed _ _ _ _ _ _ _ _ h) error _ _ channel.application hretired
  | posted i hcallback =>
      have hretired : P (channel.client.retirePosted i) := hP.owed _ _ _ _ _ _ _ _ h
      unfold NetworkClient.handlePosted
      split
      · exact hretired
      · exact hP.survives.invoke env _ _ channel.application hretired

end Clients

/-! ## Every state -/

section Reachable

variable [Field K] [LinearOrder K] [IsStrictOrderedRing K] [FloorRing K] [HasSqrt K]
  {clock : ℕ → ℕ → UInt64} {toFloat : K → FloatBits} {t t' : Arena K} {event : ArenaEvent K}

/-- **Every session**, from a reachable state on. -/
theorem Arena.Reachable.allSessions (h : t.Reachable clock)
    (hstep : Arena.step clock toFloat t event = some t') {P : Session → Prop}
    (hP : SessionInvariant P) (hall : AllSessions P t.channels) : AllSessions P t'.channels := by
  cases Arena.step_cases hstep with
  | client n event hevent hclient =>
      exact hall.of_sessions (Arena.sessionAt_setChannel (Channel.clientStep_serverEnd hclient))
  | established n g hnew =>
      exact hall.of_sessions (Arena.sessionAt_setChannel (Channel.established_serverEnd hnew))
  | server m g event hevent hserver =>
      obtain ⟨link, server, link', hlink, hsession, hone, rfl⟩ := Channel.step_server hserver
      have hbefore : P server.session :=
        hall m g server (Channels.sessionAt_eq_some.mpr ⟨link, hlink, hsession⟩)
      obtain ⟨server', hsession', hafter⟩ := hP.serverStep hevent hone hbefore
      intro n g' server₁ hserver₁
      rw [Arena.sessionAt_setLink { t with server := _ }] at hserver₁
      split at hserver₁
      · obtain rfl : server' = server₁ := Option.some.inj (hsession'.symm.trans hserver₁)
        exact hafter
      · exact hall n g' server₁ hserver₁
  | update n keys => exact hall.of_sessions (Arena.sessionAt_setChannel fun _ => rfl)
  | shutdown n => exact hall.of_sessions (Arena.sessionAt_setChannel fun _ => rfl)
  | accept n g hlink hnew => exact hP.handleAccept h.sound.world.seated hlink hall
  | tick deltaSeconds => exact hP.handleTick t.server 0 0 toFloat deltaSeconds hall
  | stop => exact hP.stop t.server 0 0 hall

omit [Field K] [LinearOrder K] [IsStrictOrderedRing K] [FloorRing K] [HasSqrt K] in
/-- One client moves. -/
theorem Arena.client_setChannel {P : ℕ → NetworkClient → Prop} {n : ℕ}
    {channel : Channel ClientApplication} (h : ∀ m, P m (t.channels m).client)
    (hclient : P n channel.client) (m : ℕ) :
    P m ((t.setChannel n channel).channels m).client := by
  show P m (Function.update t.channels n channel m).client
  by_cases hm : m = n
  · subst hm
    rw [Function.update_self]
    exact hclient
  · rw [Function.update_of_ne hm]
    exact h m

/-- **Every client**, from a reachable state on. -/
theorem Arena.Reachable.allClients (h : t.Reachable clock)
    (hticks : event.isTick = true → t.server.serverTick.toNat + 1 < 2 ^ 64)
    (hstep : Arena.step clock toFloat t event = some t') {P : ℕ → NetworkClient → Prop}
    (hP : ∀ n, ClientInvariant (ClientApplication.environment (clock n)) (P n))
    (hall : ∀ n, P n (t.channels n).client) (n : ℕ) : P n (t'.channels n).client := by
  have hworld := h.sound.world
  cases Arena.step_cases hstep with
  | client m event hevent hclient =>
      exact Arena.client_setChannel hall ((hP m).clientStep hclient (hall m)) n
  | established m g hnew =>
      refine Arena.client_setChannel hall ?_ n
      exact hall m
  | server m g event hevent hserver =>
      obtain ⟨link, server, link', hlink, hsession, hone, rfl⟩ := Channel.step_server hserver
      refine Arena.client_setChannel (t := { t with server := _ }) hall ?_ n
      exact hall m
  | update m keys =>
      exact Arena.client_setChannel hall ((hP m).survives.update (clock m) keys (hall m) _) n
  | shutdown m =>
      exact Arena.client_setChannel hall
        ((hP m).survives.shutdown (hall m) (t.channels m).application) n
  | accept m g hlink hnew =>
      rw [(hworld.handleAccept hlink hnew).2.client n]
      exact hall n
  | tick deltaSeconds =>
      rw [(hworld.handleTick 0 0 toFloat deltaSeconds (hticks rfl)).2.client n]
      exact hall n
  | stop =>
      rw [(hworld.stop 0 0).2.client n]
      exact hall n

end Reachable

end NetworkArena.System
