/-
# NetworkArena.System.ServerSide -- what the sessions of a server have sent

What the server queues on the session of a player is a script: the identity of the player, then
replies, which are pongs with timestamps the client has sent and snapshots. Each snapshot shows the
player on its side, their ticks increase and are not ahead of the server's tick, and those taken
since the start of a running game show it running. A session without a player has queued nothing and
was never started.

`World` bundles this with the seats of the room and the order of all connections; the clients stand
still. The operations of the server keep it: closing a session, a read or a write of a session, a
tick with its broadcast, accepting a connection and stopping.
-/
import NetworkArena.Client.Deliveries
import NetworkArena.Server.Requests
import NetworkArena.Server.Seats
import NetworkArena.System.Arena

namespace NetworkArena.System

open NetworkArena.Foundation
open NetworkArena.Shared
open NetworkArena.Server
open NetworkArena.Client

variable {K : Type}

/-! ## Scripts -/

/-- The ticks of the snapshots among some messages. -/
def ticksOf (messages : List Message) : List ℕ :=
  messages.filterMap fun message => (snapshotOf message).map (·.serverTick.toNat)

/-- The message that tells a client who it is. -/
def identityMessage (playerId : PlayerId) : Message :=
  ⟨.playerIdentity, (PlayerIdentityPayload.mk Server.defaultRoomId playerId).bytes⟩

theorem identityOf_identityMessage {playerId : PlayerId} (h : playerId ≠ 0) :
    identityOf (identityMessage playerId) = some ⟨Server.defaultRoomId, playerId⟩ := by
  rw [identityOf, if_pos (by rfl)]
  unfold identityMessage
  rw [Checked.get_eq (decodePlayerIdentityPayload_bytes
    ⟨show Server.defaultRoomId ≠ 0 by decide, h⟩ {})]
  rfl

theorem snapshotOf_bytes {snapshot : WorldStateSnapshot FloatBits} (h : snapshot.Valid) :
    snapshotOf ⟨.worldStateSnapshot, snapshot.bytes⟩ = some snapshot := by
  rw [snapshotOf, if_pos (by rfl), Checked.get_eq (decode_bytes h .default)]
  rfl

/-- A snapshot of the past, which shows a game that has been running ever since running. -/
structure Truthful (s : Server K SessionRef) (snapshot : WorldStateSnapshot FloatBits) : Prop where
  past : snapshot.serverTick.toNat ≤ s.serverTick.toNat
  running : s.gameStartTick.toNat < snapshot.serverTick.toNat → s.room.gameState = .playing →
    snapshot.gamePlayState = .playing

/-- A snapshot as the session of a player may hold it. -/
structure SoundSnapshot (s : Server K SessionRef) (player : PlayerId × PlayerSide)
    (snapshot : WorldStateSnapshot FloatBits) : Prop where
  valid : snapshot.Valid
  roomId : snapshot.roomId = Server.defaultRoomId
  shows : Shows snapshot player.1 player.2
  counted : snapshot.serverTick ≠ 0
  truthful : Truthful s snapshot

/-- What follows the identity. -/
inductive IsReply (clock : ℕ → UInt64) (clockReads : ℕ) (s : Server K SessionRef)
    (player : PlayerId × PlayerSide) : Message → Prop
  | pong {k : ℕ} (hk : k < clockReads) :
      IsReply clock clockReads s player ⟨.pong, PingPayload.bytes ⟨clock k⟩⟩
  | worldStateSnapshot {snapshot : WorldStateSnapshot FloatBits}
      (h : SoundSnapshot s player snapshot) :
      IsReply clock clockReads s player ⟨.worldStateSnapshot, snapshot.bytes⟩

structure Script (clock : ℕ → UInt64) (clockReads : ℕ) (s : Server K SessionRef)
    (player : PlayerId × PlayerSide) (messages : List Message) : Prop where
  identified : player.1 ≠ 0
  replies : ∃ replies, messages = identityMessage player.1 :: replies ∧
    ∀ m ∈ replies, IsReply clock clockReads s player m
  increasing : (ticksOf messages).Pairwise (· < ·)

/-- What holds of the session of a connection, given the player that was assigned to it. -/
structure HonestEnd (clock : ℕ → UInt64) (clockReads : ℕ) (s : Server K SessionRef)
    (assigned : Option (PlayerId × PlayerSide)) (server : ServerEnd) : Prop where
  violations : server.session.violations = []
  script : ∀ player, assigned = some player →
    Script clock clockReads s player server.session.accepted
  unassigned : assigned = none → server.session.accepted = [] ∧ server.started = false

/-! ## Time passes -/

/-- A later state of a server, as far as snapshots are concerned. -/
structure Later (s s' : Server K SessionRef) : Prop where
  serverTick : s.serverTick.toNat ≤ s'.serverTick.toNat
  running : s'.room.gameState = .playing →
    (s.room.gameState = .playing ∧ s'.gameStartTick = s.gameStartTick) ∨
      s.serverTick.toNat ≤ s'.gameStartTick.toNat

section Later

variable {s s' : Server K SessionRef} {clock : ℕ → UInt64} {clockReads clockReads' : ℕ}
  {player : PlayerId × PlayerSide}

/-- No tick, no new game. -/
theorem Later.of_eq (htick : s'.serverTick = s.serverTick)
    (hstart : s'.gameStartTick = s.gameStartTick)
    (hrunning : s'.room.gameState = .playing → s.room.gameState = .playing) : Later s s' :=
  ⟨by rw [htick], fun h => Or.inl ⟨hrunning h, hstart⟩⟩

theorem Later.refl (s : Server K SessionRef) : Later s s := .of_eq rfl rfl id

theorem Later.trans {s'' : Server K SessionRef} (h : Later s s') (h' : Later s' s'') :
    Later s s'' := by
  refine ⟨h.serverTick.trans h'.serverTick, fun hplaying => ?_⟩
  rcases h'.running hplaying with ⟨hbefore, hsame⟩ | hnew
  · rcases h.running hbefore with ⟨hfirst, hsame'⟩ | hnew
    · exact Or.inl ⟨hfirst, hsame.trans hsame'⟩
    · exact Or.inr (hsame ▸ hnew)
  · exact Or.inr (h.serverTick.trans hnew)

theorem Truthful.later {snapshot : WorldStateSnapshot FloatBits} (h : Truthful s snapshot)
    (h' : Later s s') : Truthful s' snapshot where
  past := h.past.trans h'.serverTick
  running hstart hplaying := by
    rcases h'.running hplaying with ⟨hbefore, hsame⟩ | hnew
    · exact h.running (hsame ▸ hstart) hbefore
    · have hpast := h.past
      omega

theorem SoundSnapshot.later {snapshot : WorldStateSnapshot FloatBits}
    (h : SoundSnapshot s player snapshot) (h' : Later s s') : SoundSnapshot s' player snapshot :=
  ⟨h.valid, h.roomId, h.shows, h.counted, h.truthful.later h'⟩

theorem IsReply.later {m : Message} (h : IsReply clock clockReads s player m) (h' : Later s s')
    (hreads : clockReads ≤ clockReads') : IsReply clock clockReads' s' player m := by
  cases h with
  | pong hk => exact .pong (Nat.lt_of_lt_of_le hk hreads)
  | worldStateSnapshot h => exact .worldStateSnapshot (h.later h')

theorem Script.later {messages : List Message} (h : Script clock clockReads s player messages)
    (h' : Later s s') (hreads : clockReads ≤ clockReads') :
    Script clock clockReads' s' player messages := by
  obtain ⟨replies, hmessages, hreplies⟩ := h.replies
  exact ⟨h.identified, ⟨replies, hmessages, fun m hm => (hreplies m hm).later h' hreads⟩,
    h.increasing⟩

theorem HonestEnd.later {assigned : Option (PlayerId × PlayerSide)} {server : ServerEnd}
    (h : HonestEnd clock clockReads s assigned server) (h' : Later s s')
    (hreads : clockReads ≤ clockReads') : HonestEnd clock clockReads' s' assigned server :=
  ⟨h.violations, fun player hplayer => (h.script player hplayer).later h' hreads, h.unassigned⟩

/-- Only what a session has accepted counts, and what it has printed about violations. -/
theorem HonestEnd.of_eq {assigned : Option (PlayerId × PlayerSide)} {server server' : ServerEnd}
    (h : HonestEnd clock clockReads s assigned server)
    (hviolations : server'.session.violations = server.session.violations)
    (haccepted : server'.session.accepted = server.session.accepted)
    (hstarted : server'.started = server.started) :
    HonestEnd clock clockReads s assigned server' where
  violations := hviolations.trans h.violations
  script player hplayer := haccepted ▸ h.script player hplayer
  unassigned hnone := by
    rw [haccepted, hstarted]
    exact h.unassigned hnone

/-- A script goes on. -/
theorem Script.concat {messages : List Message} (h : Script clock clockReads s player messages)
    {m : Message} (hm : IsReply clock clockReads s player m)
    (hticks : ∀ snapshot, snapshotOf m = some snapshot →
      ∀ tick ∈ ticksOf messages, tick < snapshot.serverTick.toNat) :
    Script clock clockReads s player (messages ++ [m]) := by
  obtain ⟨replies, rfl, hreplies⟩ := h.replies
  refine ⟨h.identified, ⟨replies ++ [m], rfl, fun m' hm' => ?_⟩, ?_⟩
  · rcases List.mem_append.mp hm' with hm' | hm'
    · exact hreplies m' hm'
    · rw [List.mem_singleton.mp hm']
      exact hm
  · rw [ticksOf, List.filterMap_append]
    refine List.pairwise_append.mpr ⟨h.increasing, ?_, ?_⟩
    · cases hsnapshot : snapshotOf m with
      | none => simp [hsnapshot]
      | some snapshot => simp [hsnapshot]
    · intro tick htick tick' htick'
      obtain ⟨m', hm', hsome⟩ := List.mem_filterMap.mp htick'
      rw [List.mem_singleton.mp hm'] at hsome
      obtain ⟨snapshot, hsnapshot, rfl⟩ := Option.map_eq_some_iff.mp hsome
      exact hticks snapshot hsnapshot tick htick

/-- A pong carries no snapshot. -/
theorem snapshotOf_pong (payload : List UInt8) : snapshotOf ⟨.pong, payload⟩ = none :=
  NetworkClient.snapshotOf_of_type (show MessageType.pong ≠ .worldStateSnapshot by decide)

theorem snapshotOf_identityMessage (playerId : PlayerId) :
    snapshotOf (identityMessage playerId) = none :=
  NetworkClient.snapshotOf_of_type (show MessageType.playerIdentity ≠ .worldStateSnapshot by decide)

/-- The ticks of a script have been reached. -/
theorem Script.ticks_past {messages : List Message}
    (h : Script clock clockReads s player messages) {tick : ℕ} (htick : tick ∈ ticksOf messages) :
    tick ≤ s.serverTick.toNat := by
  obtain ⟨replies, rfl, hreplies⟩ := h.replies
  obtain ⟨m, hm, hsome⟩ := List.mem_filterMap.mp htick
  obtain ⟨snapshot, hsnapshot, rfl⟩ := Option.map_eq_some_iff.mp hsome
  rcases List.mem_cons.mp hm with rfl | hm
  · rw [snapshotOf_identityMessage] at hsnapshot
    cases hsnapshot
  · cases hreplies m hm with
    | pong hk =>
        rw [snapshotOf_pong] at hsnapshot
        cases hsnapshot
    | worldStateSnapshot hsound =>
        rw [snapshotOf_bytes hsound.valid] at hsnapshot
        cases hsnapshot
        exact hsound.truthful.past

end Later

/-! ## The callbacks of the sessions -/

section Callbacks

variable [Field K] {s : Server K SessionRef}

theorem later_leaveDefaultRoom (s : Server K SessionRef) (id : SessionId) :
    Later s (s.leaveDefaultRoom id) :=
  .of_eq rfl rfl (s.room.leave_frame id).2.2.2

theorem later_handleSessionClosed (s : Server K SessionRef) (id : SessionId) :
    Later s (s.handleSessionClosed id) :=
  .of_eq rfl rfl (s.room.leave_frame id).2.2.2

theorem later_handlePlayerInput [LinearOrder K] [HasSqrt K] (s : Server K SessionRef)
    (id : SessionId) (input : PlayerInputPayload) : Later s (s.handlePlayerInput id input) := by
  refine .of_eq rfl rfl ?_
  intro hplaying
  rw [← (s.room.applyPlayerInput_frame id input).2.2.2]
  exact hplaying

end Callbacks

/-! ## The world of the server -/

/-- The sessions of all connections, next to the server that made them. -/
structure World [Field K] [LinearOrder K] (clock : ℕ → ℕ → UInt64) (s : Server K SessionRef)
    (channels : Channels) : Prop where
  inOrder : ∀ n, (channels n).InOrder
  seated : s.Seated
  ends : ∀ n g server, channels.sessionAt n g = some server →
    HonestEnd (clock n) (channels n).client.clockReads s
      (s.assigned ⟨n, g, server.session.id⟩) server
  known : ∀ session player, s.assigned session = some player → ∃ server,
    channels.sessionAt session.client session.generation = some server ∧
      server.session.id = session.id

section World

variable [Field K] [LinearOrder K] {clock : ℕ → ℕ → UInt64} {s s' : Server K SessionRef}
  {channels channels' : Channels} {n g : ℕ} {server : ServerEnd}

theorem world_initial : World clock (Server.create : Server K SessionRef)
    fun _ => { application := {} } where
  inOrder _ := Channel.inOrder_initial _
  seated := Server.seated_create
  ends := nofun
  known := nofun

/-- What has happened to the session of a connection: nothing, or it is as it should be again. -/
inductive EndKept (clock : ℕ → UInt64) (clockReads : ℕ) (s : Server K SessionRef) (n g : ℕ) :
    Option ServerEnd → Option ServerEnd → Prop
  | same {server : Option ServerEnd} : EndKept clock clockReads s n g server server
  | changed {server server' : ServerEnd} (hid : server'.session.id = server.session.id)
      (h : HonestEnd clock clockReads s (s.assigned ⟨n, g, server'.session.id⟩) server') :
      EndKept clock clockReads s n g (some server) (some server')

/-- **The sessions may change**, one by one, and time may pass. -/
theorem World.change (h : World clock s channels) (hinOrder : ∀ n, (channels' n).InOrder)
    (hseated : s'.Seated) (hlater : Later s s') (hassigned : s'.assigned = s.assigned)
    (hreads : ∀ n, (channels n).client.clockReads ≤ (channels' n).client.clockReads)
    (hends : ∀ n g, EndKept (clock n) (channels' n).client.clockReads s' n g
      (channels.sessionAt n g) (channels'.sessionAt n g)) : World clock s' channels' where
  inOrder := hinOrder
  seated := hseated
  ends n g server' hserver' := by
    have hkept := hends n g
    rw [hserver'] at hkept
    generalize hserver : channels.sessionAt n g = before at hkept
    cases hkept with
    | same =>
        rw [hassigned]
        exact (h.ends n g server' hserver).later hlater (hreads n)
    | changed hid hend => exact hend
  known session player hplayer := by
    rw [hassigned] at hplayer
    obtain ⟨server, hserver, hid⟩ := h.known session player hplayer
    have hkept := hends session.client session.generation
    rw [hserver] at hkept
    generalize hserver' :
      channels'.sessionAt session.client session.generation = after at hkept
    cases hkept with
    | same => exact ⟨server, rfl, hid⟩
    | changed hid' hend => exact ⟨_, rfl, hid'.trans hid⟩

/-- The server goes on, and no session changes. -/
theorem World.still (h : World clock s channels) (hseated : s'.Seated) (hlater : Later s s')
    (hassigned : s'.assigned = s.assigned) : World clock s' channels :=
  h.change h.inOrder hseated hlater hassigned (fun _ => Nat.le_refl _) fun _ _ => .same

/-- **One session changes.** -/
theorem World.modifySession (h : World clock s channels) (hseated : s'.Seated)
    (hlater : Later s s') (hassigned : s'.assigned = s.assigned) {f : ServerEnd → ServerEnd}
    (hinOrder : ∀ server inp out, channels.sessionAt n g = some server →
      server.InOrder inp out → (f server).InOrder inp out)
    (hid : ∀ server, (f server).session.id = server.session.id)
    (hend : ∀ server, channels.sessionAt n g = some server →
      HonestEnd (clock n) (channels n).client.clockReads s'
        (s'.assigned ⟨n, g, server.session.id⟩) server →
      HonestEnd (clock n) (channels n).client.clockReads s'
        (s'.assigned ⟨n, g, server.session.id⟩) (f server)) :
    World clock s' (channels.modifySession n g f) := by
  refine h.change (Channels.inOrder_modifySession h.inOrder hinOrder) hseated hlater hassigned
    (fun n' => by rw [Channels.modifySession_client]) fun n' g' => ?_
  rw [Channels.sessionAt_modifySession, Channels.modifySession_client]
  by_cases hsame : n' = n ∧ g' = g
  · obtain ⟨rfl, rfl⟩ := hsame
    rw [if_pos ⟨rfl, rfl⟩]
    cases hserver : channels.sessionAt n' g' with
    | none => exact .same
    | some server =>
        refine .changed (hid server) ?_
        rw [hid server]
        refine hend server hserver ?_
        rw [hassigned]
        exact (h.ends n' g' server hserver).later hlater (Nat.le_refl _)
  · rw [if_neg hsame]
    exact .same

end World

/-! ## Giving sessions up -/

/-- A later state of the server and of its sessions. The clients stand still. -/
structure Moves (s s' : Server K SessionRef) (channels channels' : Channels) : Prop where
  later : Later s s'
  assigned : ∀ session player, s.assigned session = some player →
    s'.assigned session = some player
  client : ∀ n, (channels' n).client = (channels n).client
  application : ∀ n, (channels' n).application = (channels n).application

section Moves

variable {s s' s'' : Server K SessionRef} {channels channels' channels'' : Channels}

theorem Moves.refl (s : Server K SessionRef) (channels : Channels) :
    Moves s s channels channels :=
  ⟨.refl s, fun _ _ h => h, fun _ => rfl, fun _ => rfl⟩

theorem Moves.trans (h : Moves s s' channels channels') (h' : Moves s' s'' channels' channels'') :
    Moves s s'' channels channels'' where
  later := h.later.trans h'.later
  assigned session player hplayer := h'.assigned session player (h.assigned session player hplayer)
  client n := (h'.client n).trans (h.client n)
  application n := (h'.application n).trans (h.application n)

theorem moves_modifySession (hlater : Later s s')
    (hassigned : ∀ session player, s.assigned session = some player →
      s'.assigned session = some player) (channels : Channels) (n g : ℕ)
    (f : ServerEnd → ServerEnd) : Moves s s' channels (channels.modifySession n g f) :=
  ⟨hlater, hassigned, fun _ => Channels.modifySession_client .., fun _ =>
    Channels.modifySession_application ..⟩

end Moves

section Stopping

variable [Field K] [LinearOrder K] {clock : ℕ → ℕ → UInt64} {s : Server K SessionRef}
  {channels : Channels}

omit [Field K] [LinearOrder K] in
/-- Closing a session changes nothing of what it has sent and printed. -/
theorem HonestEnd.stop {clock : ℕ → UInt64} {clockReads : ℕ} {assigned} {server : ServerEnd}
    (h : HonestEnd clock clockReads s assigned server) :
    HonestEnd clock clockReads s assigned
      { server with session := (server.session.stop closeRecorder false).1 } := by
  refine h.of_eq ?_ (Session.close_accepted ..) rfl
  show ((server.session.close closeRecorder false).1.diagnostics.filter _) = _
  rw [Session.close_eq]
  split <;> rfl

/-- A session is stopped, and the server may be a later one. -/
theorem World.stops (h : World clock s channels) (n g : ℕ) (session : SessionRef)
    {s' : Server K SessionRef} (hseated : s'.Seated) (hlater : Later s s')
    (hassigned : s'.assigned = s.assigned) :
    World clock s' ((sessionObjects n g).stop session channels).2 ∧
      Moves s s' channels ((sessionObjects n g).stop session channels).2 := by
  refine ⟨h.modifySession hseated hlater hassigned ?_ ?_ ?_, ?_⟩
  · intro server inp out _ hin
    exact hin.stop closeRecorder false
  · intro server
    exact Session.close_id ..
  · intro server _ hend
    exact hend.stop
  · exact moves_modifySession hlater (fun session player hplayer => by rw [hassigned, hplayer]) ..

/-- **The server stops a session.** -/
theorem World.stopSession (h : World clock s channels) (n g : ℕ) (session : SessionRef) :
    World clock (s.stopSession (sessionObjects n g) session channels).1
        (s.stopSession (sessionObjects n g) session channels).2 ∧
      Moves s (s.stopSession (sessionObjects n g) session channels).1 channels
        (s.stopSession (sessionObjects n g) session channels).2 := by
  unfold Server.stopSession
  dsimp only
  split
  · exact h.stops n g session (h.seated.handleSessionClosed _) (later_handleSessionClosed s _) rfl
  · exact h.stops n g session h.seated (.refl s) rfl

/-- **The server stops.** -/
theorem World.stop (h : World clock s channels) (n g : ℕ) :
    World clock (s.stop (sessionObjects n g) channels).1 (s.stop (sessionObjects n g) channels).2 ∧
      Moves s (s.stop (sessionObjects n g) channels).1 channels
        (s.stop (sessionObjects n g) channels).2 := by
  have hclose : ∀ (entries : List (SessionId × SessionRef)) (s : Server K SessionRef)
      (channels : Channels), World clock s channels →
        World clock (s.closeAll (sessionObjects n g) entries channels).1
            (s.closeAll (sessionObjects n g) entries channels).2 ∧
          Moves s (s.closeAll (sessionObjects n g) entries channels).1 channels
            (s.closeAll (sessionObjects n g) entries channels).2 := by
    intro entries
    induction entries with
    | nil =>
        intro s channels h
        exact ⟨h.still (h.seated.of_eq rfl rfl) (.of_eq rfl rfl id) rfl,
          .of_eq rfl rfl id, fun _ _ hplayer => hplayer, fun _ => rfl, fun _ => rfl⟩
    | cons entry entries ih =>
        intro s channels h
        obtain ⟨hfirst, hmoves⟩ := h.stopSession n g entry.2
        obtain ⟨hrest, hmoves'⟩ := ih _ _ hfirst
        exact ⟨hrest, hmoves.trans hmoves'⟩
  unfold Server.stop
  split
  · exact ⟨h, .refl s channels⟩
  · have hstopped : World clock { s with stopped := true } channels :=
      h.still (h.seated.of_eq rfl rfl) (.of_eq rfl rfl id) rfl
    obtain ⟨hworld, hmoves⟩ := hclose s.sessions _ channels hstopped
    exact ⟨hworld, ⟨hmoves.later.serverTick, hmoves.later.running⟩, hmoves.assigned, hmoves.client,
      hmoves.application⟩

end Stopping

/-! ## Broadcasting -/

section Broadcasting

variable {clock : ℕ → UInt64} {clockReads : ℕ} {s : Server K SessionRef}
  {assigned : Option (PlayerId × PlayerSide)} {server : ServerEnd}

/-- **The server sends a reply** on the session of a player. -/
theorem HonestEnd.send (h : HonestEnd clock clockReads s assigned server)
    (hplayer : assigned ≠ none) {m : Message}
    (hm : ∀ player, assigned = some player → IsReply clock clockReads s player m)
    (hticks : ∀ snapshot, snapshotOf m = some snapshot →
      ∀ tick ∈ ticksOf server.session.accepted, tick < snapshot.serverTick.toNat) :
    HonestEnd clock clockReads s assigned
      { server with session := (server.session.send m.type m.payload).2 } := by
  refine ⟨(Session.send_violations ..).trans h.violations, fun player hassigned => ?_,
    fun hnone => absurd hnone hplayer⟩
  have hscript := h.script player hassigned
  show Script clock clockReads s player (server.session.send m.type m.payload).2.accepted
  cases hsent : (server.session.send m.type m.payload).1 with
  | true =>
      rw [Session.send_true server.session m.type m.payload hsent]
      exact hscript.concat (hm player hassigned) hticks
  | false =>
      rw [(Session.send_false server.session m.type m.payload hsent).2.2]
      exact hscript

end Broadcasting

section Broadcast

variable [Field K] [LinearOrder K] {clock : ℕ → ℕ → UInt64} {s : Server K SessionRef}
  {channels : Channels}

/-- Players may leave. -/
theorem World.leaves (h : World clock s channels) (ids : List SessionId) :
    World clock { s with room := ids.foldl Room.leave s.room } channels ∧
      Moves s { s with room := ids.foldl Room.leave s.room } channels channels := by
  induction ids generalizing s with
  | nil => exact ⟨h, .refl s channels⟩
  | cons id ids ih =>
      have hleft : World clock (s.leaveDefaultRoom id) channels :=
        h.still (h.seated.leaveDefaultRoom id) (later_leaveDefaultRoom s id) rfl
      obtain ⟨hworld, hmoves⟩ := ih hleft
      exact ⟨hworld, Moves.trans ⟨later_leaveDefaultRoom s id, fun _ _ hplayer => hplayer,
        fun _ => rfl, fun _ => rfl⟩ hmoves⟩

/-- The server once its room has done something with the sessions. -/
def withRoom (s : Server K SessionRef)
    (t : Room K SessionRef × List (SessionId × SessionRef) × Channels) : Server K SessionRef :=
  { s with room := t.1, sessions := t.2.1 }

/-- **The sessions that could not take a message** are stopped. -/
theorem World.dropFailed (h : World clock s channels) (n g : ℕ) (failed : List SessionRef)
    {t : Room K SessionRef × List (SessionId × SessionRef) × Channels}
    (ht : Room.dropFailed (Server.roomSessions (sessionObjects n g)) failed s.room
      (s.sessions, channels) = t) :
    World clock (withRoom s t) t.2.2 ∧ Moves s (withRoom s t) channels t.2.2 := by
  induction failed generalizing s channels with
  | nil =>
      subst ht
      exact ⟨h, .refl s channels⟩
  | cons session failed ih =>
      -- whether or not the session was still open, the player leaves
      have hstopped : ∀ (ids : List SessionId) registry, World clock { s with
            room := ids.foldl Room.leave (s.room.leave session.id), sessions := registry }
          ((sessionObjects n g).stop session channels).2 ∧
          Moves s { s with
              room := ids.foldl Room.leave (s.room.leave session.id), sessions := registry }
            channels ((sessionObjects n g).stop session channels).2 := by
        intro ids registry
        obtain ⟨hleft, hmoves⟩ := h.leaves (session.id :: ids)
        have hseated : Server.Seated { s with
            room := ids.foldl Room.leave (s.room.leave session.id), sessions := registry } :=
          hleft.seated.of_eq rfl rfl
        exact h.stops n g session hseated ⟨hmoves.later.serverTick, hmoves.later.running⟩ rfl
      unfold Room.dropFailed Server.roomSessions at ht
      dsimp only at ht
      split at ht
      · obtain ⟨hfirst, hmoves⟩ := hstopped [session.id]
          (s.sessions.filter fun entry => entry.1 ≠ session.id)
        obtain ⟨hrest, hmoves'⟩ := ih hfirst ht
        exact ⟨hrest, hmoves.trans hmoves'⟩
      · obtain ⟨hfirst, hmoves⟩ := hstopped [] s.sessions
        obtain ⟨hrest, hmoves'⟩ := ih hfirst ht
        exact ⟨hrest, hmoves.trans hmoves'⟩

/-- A snapshot, and players who may be told of it. -/
structure Addressed (s : Server K SessionRef) (channels : Channels)
    (snapshot : WorldStateSnapshot FloatBits)
    (players : List (SessionId × Player K SessionRef)) : Prop where
  sound : ∀ entry ∈ players, ∀ session, entry.2.session = some session →
    ∃ player, s.assigned session = some player ∧ SoundSnapshot s player snapshot
  distinct : (players.filterMap (·.2.session)).Nodup
  earlier : ∀ entry ∈ players, ∀ session, entry.2.session = some session →
    ∀ server, channels.sessionAt session.client session.generation = some server →
      ∀ tick ∈ ticksOf server.session.accepted, tick < snapshot.serverTick.toNat

/-- A session that was assigned a player is known by its connection. -/
theorem World.session_eq (h : World clock s channels) {session : SessionRef}
    {player : PlayerId × PlayerSide} (hplayer : s.assigned session = some player)
    {server : ServerEnd}
    (hserver : channels.sessionAt session.client session.generation = some server) :
    server.session.id = session.id := by
  obtain ⟨known, hknown, hid⟩ := h.known session player hplayer
  rw [hserver] at hknown
  cases hknown
  exact hid

/-- One player is told. -/
theorem World.sendSnapshot (h : World clock s channels) (n g : ℕ)
    {snapshot : WorldStateSnapshot FloatBits} {entry : SessionId × Player K SessionRef}
    {players : List (SessionId × Player K SessionRef)}
    (haddressed : Addressed s channels snapshot (entry :: players)) {session : SessionRef}
    (hsession : entry.2.session = some session) :
    World clock s ((sessionObjects n g).send session .worldStateSnapshot snapshot.bytes
        channels).2 ∧
      Addressed s ((sessionObjects n g).send session .worldStateSnapshot snapshot.bytes
        channels).2 snapshot players := by
  obtain ⟨player, hplayer, hsound⟩ :=
    haddressed.sound entry List.mem_cons_self session hsession
  have hsnapshot := snapshotOf_bytes hsound.valid
  constructor
  · refine h.modifySession h.seated (.refl s) rfl ?_ ?_ ?_
    · intro server inp out _ hin
      exact hin.send ..
    · intro server
      exact Session.send_id ..
    · intro server hserver hend
      rw [h.session_eq hplayer hserver] at hend ⊢
      rw [show s.assigned ⟨session.client, session.generation, session.id⟩ = some player from
        hplayer] at hend ⊢
      refine hend.send nofun (m := ⟨.worldStateSnapshot, snapshot.bytes⟩) ?_ ?_
      · intro player' hsame
        cases hsame
        exact .worldStateSnapshot hsound
      · intro snapshot' hsnapshot' tick htick
        rw [hsnapshot] at hsnapshot'
        cases hsnapshot'
        exact haddressed.earlier entry List.mem_cons_self session hsession server hserver tick htick
  · have hdistinct := haddressed.distinct
    simp only [List.filterMap_cons, hsession, List.nodup_cons] at hdistinct
    refine ⟨fun entry' hentry' => haddressed.sound entry' (List.mem_cons_of_mem _ hentry'),
      hdistinct.2, ?_⟩
    intro entry' hentry' session' hsession' server' hserver'
    have hin' := List.mem_cons_of_mem entry hentry'
    rw [show ((sessionObjects n g).send session .worldStateSnapshot snapshot.bytes channels).2 =
      channels.modifySession session.client session.generation _ from rfl,
      Channels.sessionAt_modifySession] at hserver'
    split at hserver'
    · next hsame =>
        -- then it is the same session, which is not told twice
        exfalso
        obtain ⟨server, hserver, -⟩ := Option.map_eq_some_iff.mp hserver'
        obtain ⟨player', hplayer', -⟩ := haddressed.sound entry' hin' session' hsession'
        have hid := h.session_eq hplayer hserver
        rw [← hsame.1, ← hsame.2] at hserver
        have hid' := h.session_eq hplayer' hserver
        have heq : session' = session := by
          obtain ⟨client, generation, id⟩ := session
          obtain ⟨client', generation', id'⟩ := session'
          obtain ⟨rfl, rfl⟩ := hsame
          rw [show id' = id from hid'.symm.trans hid]
        exact hdistinct.1 (List.mem_filterMap.mpr ⟨entry', hentry', heq ▸ hsession'⟩)
    · exact haddressed.earlier entry' hin' session' hsession' server' hserver'

/-- **All players are told.** -/
theorem World.broadcastLoop (h : World clock s channels) (n g : ℕ)
    {snapshot : WorldStateSnapshot FloatBits}
    {players : List (SessionId × Player K SessionRef)}
    (haddressed : Addressed s channels snapshot players)
    (registry : List (SessionId × SessionRef)) :
    (Room.broadcastLoop (Server.roomSessions (sessionObjects n g)) .worldStateSnapshot
        snapshot.bytes players (registry, channels)).2.1 = registry ∧
      World clock s (Room.broadcastLoop (Server.roomSessions (sessionObjects n g))
        .worldStateSnapshot snapshot.bytes players (registry, channels)).2.2 ∧
      Moves s s channels (Room.broadcastLoop (Server.roomSessions (sessionObjects n g))
        .worldStateSnapshot snapshot.bytes players (registry, channels)).2.2 := by
  induction players generalizing channels with
  | nil => exact ⟨rfl, h, .refl s channels⟩
  | cons entry players ih =>
      unfold Room.broadcastLoop
      split
      · exact ih h ⟨fun entry' hentry' => haddressed.sound entry' (List.mem_cons_of_mem _ hentry'),
          (haddressed.distinct.sublist ((List.sublist_cons_self _ _).filterMap _)),
          fun entry' hentry' => haddressed.earlier entry' (List.mem_cons_of_mem _ hentry')⟩
      · next session hgood =>
          have hsession : entry.2.session = some session := (Option.filter_eq_some_iff.mp hgood).1
          obtain ⟨hworld, haddressed'⟩ := h.sendSnapshot n g haddressed hsession
          obtain ⟨hregistry, hrest, hmoves⟩ := ih hworld haddressed'
          refine ⟨hregistry, hrest, Moves.trans ?_ hmoves⟩
          exact moves_modifySession (.refl s) (fun _ _ hplayer => hplayer) ..

end Broadcast

/-! ## Ticks -/

section Ticks

variable [Field K] [LinearOrder K] {clock : ℕ → ℕ → UInt64} {s : Server K SessionRef}
  {channels : Channels}

/-- The ticks of the snapshots on a session have been reached. -/
theorem World.ticks_past (h : World clock s channels) {n g : ℕ} {server : ServerEnd}
    (hserver : channels.sessionAt n g = some server) {tick : ℕ}
    (htick : tick ∈ ticksOf server.session.accepted) : tick ≤ s.serverTick.toNat := by
  have hend := h.ends n g server hserver
  cases hassigned : s.assigned ⟨n, g, server.session.id⟩ with
  | none =>
      rw [(hend.unassigned hassigned).1] at htick
      cases htick
  | some player => exact (hend.script player hassigned).ticks_past htick

/-- **What a tick captures** may be told to all players of the room. -/
theorem World.addressed_captureSnapshot (h : World clock s channels) (toFloat : K → FloatBits)
    (hvalid : ((s.room.captureSnapshot s.serverTick).map toFloat).Valid)
    (hcounted : s.serverTick ≠ 0)
    (hearlier : ∀ n g server, channels.sessionAt n g = some server →
      ∀ tick ∈ ticksOf server.session.accepted, tick < s.serverTick.toNat) :
    Addressed s channels ((s.room.captureSnapshot s.serverTick).map toFloat) s.room.players := by
  have hseat : ∀ entry ∈ s.room.players, ∀ session, entry.2.session = some session →
      s.assigned session = some ((seatOf entry).playerId, (seatOf entry).side) := by
    intro entry hentry session hsession
    obtain ⟨session', hsession', -, hassigned⟩ :=
      h.seated.assigned (seatOf entry) (Room.mem_seats.mpr ⟨entry, hentry, rfl⟩)
    obtain rfl : session = session' := Option.some.inj (hsession.symm.trans hsession')
    exact hassigned
  refine ⟨?_, ?_, fun entry _ session _ => hearlier _ _⟩
  · intro entry hentry session hsession
    refine ⟨_, hseat entry hentry session hsession, hvalid, h.seated.roomId, ?_, hcounted,
      Nat.le_refl _, fun _ hplaying => hplaying⟩
    exact shows_captureSnapshot h.seated.distinct s.serverTick toFloat
      (Room.mem_seats.mpr ⟨entry, hentry, rfl⟩)
  · -- two players with one session would have one id
    have hdistinct := h.seated.distinct
    rw [Room.seats, List.map_map, List.nodup_iff_pairwise_ne, List.pairwise_map] at hdistinct
    refine List.pairwise_filterMap.mpr (hdistinct.imp_of_mem ?_)
    rintro entry entry' hentry hentry' hne session hsession session' hsession' rfl
    have hsame := (hseat entry hentry session hsession).symm.trans
      (hseat entry' hentry' session hsession')
    exact hne (Prod.mk.inj (Option.some.inj hsame)).1

/-- **A snapshot is broadcast.** -/
theorem World.broadcast (h : World clock s channels) (n g : ℕ)
    {snapshot : WorldStateSnapshot FloatBits} (haddressed : Addressed s channels snapshot
      s.room.players) {t : Room K SessionRef × List (SessionId × SessionRef) × Channels}
    (ht : s.room.broadcast (Server.roomSessions (sessionObjects n g)) .worldStateSnapshot
      snapshot.bytes (s.sessions, channels) = t) :
    World clock (withRoom s t) t.2.2 ∧ Moves s (withRoom s t) channels t.2.2 := by
  obtain ⟨hregistry, hworld, hmoves⟩ := h.broadcastLoop n g haddressed s.sessions
  unfold Room.broadcast at ht
  generalize Room.broadcastLoop (Server.roomSessions (sessionObjects n g)) .worldStateSnapshot
    snapshot.bytes s.room.players (s.sessions, channels) = told at hregistry hworld hmoves ht
  obtain ⟨⟨expired, failed⟩, registry, channels'⟩ := told
  dsimp only at hregistry hworld hmoves ht
  rw [hregistry] at ht
  obtain ⟨hleft, hmoves'⟩ := hworld.leaves expired
  obtain ⟨hdropped, hmoves''⟩ := hleft.dropFailed n g failed ht
  exact ⟨hdropped, (hmoves.trans hmoves').trans hmoves''⟩

/-- What the server does once its room was ticked. -/
def announce (n g : ℕ) (toFloat : K → FloatBits) (s : Server K SessionRef) (channels : Channels) :
    Server K SessionRef × Channels :=
  let snapshot := (s.room.captureSnapshot s.serverTick).map toFloat
  let (encoded, payload) := (encodeWorldStateSnapshotPayload snapshot).get
    (encodeWorldStateSnapshotPayload_inBounds snapshot)
  if !encoded then (s, channels)
  else
    let t := s.room.broadcast (Server.roomSessions (sessionObjects n g)) .worldStateSnapshot
      payload (s.sessions, channels)
    (withRoom s t, t.2.2)

theorem World.announce (h : World clock s channels) (n g : ℕ) (toFloat : K → FloatBits)
    (hcounted : s.serverTick ≠ 0)
    (hearlier : ∀ n g server, channels.sessionAt n g = some server →
      ∀ tick ∈ ticksOf server.session.accepted, tick < s.serverTick.toNat) :
    World clock (announce n g toFloat s channels).1 (announce n g toFloat s channels).2 ∧
      Moves s (announce n g toFloat s channels).1 channels
        (announce n g toFloat s channels).2 := by
  unfold System.announce
  dsimp only
  by_cases hvalid : ((s.room.captureSnapshot s.serverTick).map toFloat).Valid
  · rw [Checked.get_eq (encode_valid hvalid)]
    exact h.broadcast n g (h.addressed_captureSnapshot toFloat hvalid hcounted hearlier) rfl
  · rw [Checked.get_eq (encode_invalid hvalid)]
    exact ⟨h, .refl s channels⟩

variable [IsStrictOrderedRing K] [FloorRing K] [HasSqrt K]

/-- **A tick of the server.** -/
theorem World.handleTick (h : World clock s channels) (n g : ℕ) (toFloat : K → FloatBits)
    (deltaSeconds : K) (hticks : s.serverTick.toNat + 1 < 2 ^ 64) :
    World clock (s.handleTick (sessionObjects n g) toFloat deltaSeconds channels).1
        (s.handleTick (sessionObjects n g) toFloat deltaSeconds channels).2 ∧
      Moves s (s.handleTick (sessionObjects n g) toFloat deltaSeconds channels).1 channels
        (s.handleTick (sessionObjects n g) toFloat deltaSeconds channels).2 := by
  have hnext : (s.serverTick + 1).toNat = s.serverTick.toNat + 1 := by
    rw [UInt64.toNat_add]
    exact Nat.mod_eq_of_lt hticks
  have hcounted : s.serverTick + 1 ≠ 0 := by
    intro hzero
    rw [hzero] at hnext
    cases hnext
  unfold Server.handleTick
  split
  · exact ⟨h, .refl s channels⟩
  dsimp only
  generalize (if deltaSeconds > Server.maxServerTickDeltaSeconds then
    Server.maxServerTickDeltaSeconds else deltaSeconds) = capped
  obtain ⟨-, -, -, hplaying⟩ := s.room.tick_frame capped
  have hlater : Later s { s with serverTick := s.serverTick + 1, room := s.room.tick capped } := by
    refine ⟨?_, fun hrunning => Or.inl ⟨hplaying hrunning, rfl⟩⟩
    show s.serverTick.toNat ≤ (s.serverTick + 1).toNat
    omega
  have hticked : World clock { s with
      serverTick := s.serverTick + 1, room := s.room.tick capped } channels :=
    h.still ((h.seated.tick capped).of_eq rfl rfl) hlater rfl
  obtain ⟨hworld, hmoves⟩ := hticked.announce n g toFloat hcounted
    fun n' g' server hserver tick htick => by
      have hpast := h.ticks_past hserver htick
      show tick < (s.serverTick + 1).toNat
      omega
  exact ⟨hworld, Moves.trans ⟨hlater, fun _ _ hplayer => hplayer, fun _ => rfl, fun _ => rfl⟩
    hmoves⟩

end Ticks

/-! ## Accepting -/

section Accepting

variable [Field K] [LinearOrder K] {clock : ℕ → ℕ → UInt64} {s : Server K SessionRef}
  {channels : Channels} {n g : ℕ} {id : SessionId}

/-- A connection gets its session. -/
theorem World.create (h : World clock s channels) {link : Link}
    (hlink : (channels n).links g = some link) (hnew : link.serverEnd = none) (id : SessionId) :
    World clock s (channels.setSession n g { session := { id } }) := by
  have hnone : channels.sessionAt n g = none := by
    rw [Channels.sessionAt, hlink]
    exact hnew
  obtain ⟨hreceived, hwritten⟩ := ((h.inOrder n).links g link hlink).unaccepted hnew
  refine ⟨Channels.inOrder_setSession h.inOrder hlink ?_, h.seated, ?_, ?_⟩
  · rw [hreceived, hwritten]
    exact ServerEnd.inOrder_create id
  · intro n' g' server hserver
    rw [Channels.sessionAt_setSession hlink] at hserver
    rw [Channels.setSession_client]
    split at hserver
    · next hsame =>
        cases hserver
        refine ⟨rfl, fun player hplayer => ?_, fun _ => ⟨rfl, rfl⟩⟩
        obtain ⟨server, hserver, -⟩ := h.known _ player hplayer
        rw [hsame.1, hsame.2, hnone] at hserver
        cases hserver
    · exact h.ends n' g' server hserver
  · intro session player hplayer
    obtain ⟨server, hserver, hid⟩ := h.known session player hplayer
    rw [Channels.sessionAt_setSession hlink]
    split
    · next hsame =>
        rw [hsame.1, hsame.2, hnone] at hserver
        cases hserver
    · exact ⟨server, hserver, hid⟩

/-- A session object is destroyed. -/
theorem World.destroy (h : World clock s channels) (n g : ℕ) (session : SessionRef) :
    World clock s ((sessionObjects n g).destroy session channels) ∧
      Moves s s channels ((sessionObjects n g).destroy session channels) := by
  refine ⟨h.modifySession h.seated (.refl s) rfl ?_ ?_ ?_, ?_⟩
  · intro server inp out _ hin
    exact hin.sending ⟨hin.sends.fits, hin.sends.sent, nofun, fun _ => rfl⟩
      (hin.receives.of_eq rfl rfl rfl fun _ => rfl) rfl rfl rfl
  · exact fun _ => rfl
  · intro _ _ hend
    exact hend.of_eq rfl rfl rfl
  · exact moves_modifySession (.refl s) (fun _ _ hplayer => hplayer) ..

/-- What `EnterDefaultRoom` leaves of a new session. -/
structure Admission (clock : ℕ → ℕ → UInt64) (s : Server K SessionRef) (channels : Channels)
    (n g : ℕ) (id : SessionId) (result : Bool × Server K SessionRef × Channels) : Prop where
  world : World clock result.2.1 result.2.2
  moves : Moves s result.2.1 channels result.2.2
  unstarted : ∀ server, result.2.2.sessionAt n g = some server → server.started = false
  entered : result.1 = true → (result.2.1.assigned ⟨n, g, id⟩).isSome = true

omit [Field K] [LinearOrder K] in
/-- A session that was just created takes the identity of its player. -/
theorem send_identity (id : SessionId) (playerId : PlayerId) :
    (({ id } : Session).send .playerIdentity (identityMessage playerId).payload).1 = true ∧
      (({ id } : Session).send .playerIdentity (identityMessage playerId).payload).2.accepted =
        [identityMessage playerId] := by
  have hfits : (identityMessage playerId).Fits := by
    unfold Message.Fits identityMessage
    rw [PlayerIdentityPayload.bytes_length]
    decide
  have haccepts : ({ id } : Session).Accepts (identityMessage playerId) := by
    refine ⟨rfl, rfl, rfl, hfits, ?_⟩
    rw [Message.bytes_length]
    show 0 + (4 + (PlayerIdentityPayload.bytes _).length) ≤ _
    rw [PlayerIdentityPayload.bytes_length]
    decide
  have hsend := Session.send_accepted haccepts
  rw [show (identityMessage playerId).type = .playerIdentity from rfl] at hsend
  rw [hsend]
  exact ⟨rfl, rfl⟩

/-- **A new session gets a player**, and is told who it is. -/
theorem World.entered (h : World clock s channels)
    (hserver : channels.sessionAt n g = some { session := { id } }) {r' : Room K SessionRef}
    (hconsistent : r'.Consistent)
    (hentered : s.room.Entered (⟨n, g, id⟩ : SessionRef) r') {s' : Server K SessionRef}
    (hs' : s' = s.recordEntry ⟨n, g, id⟩ s.room.nextPlayerId r') {channels' : Channels}
    (hchannels' : channels' = channels.modifySession n g fun server =>
      { server with session := (server.session.send .playerIdentity
        (identityMessage s.room.nextPlayerId).payload).2 })
    (hnew : s.assigned ⟨n, g, id⟩ = none) :
    World clock s' channels' ∧ Moves s s' channels channels' ∧
      s'.assigned ⟨n, g, id⟩ = some (s.room.nextPlayerId, s.room.freeSide) := by
  obtain ⟨hseated, hassigned⟩ := h.seated.entered hconsistent hentered
  rw [← hs'] at hseated hassigned
  have hothers : ∀ session, session ≠ ⟨n, g, id⟩ → s'.assigned session = s.assigned session := by
    intro session hne
    rw [hs']
    exact Function.update_of_ne hne ..
  -- no tick has passed; if the game starts with this player, it starts at this tick
  have hlater : Later s s' := by
    subst hs'
    refine ⟨Nat.le_refl _, fun hrunning => ?_⟩
    by_cases hbefore : s.room.gameState = .playing
    · exact Or.inl ⟨hbefore, if_neg fun hstart => hstart.2 hbefore⟩
    · right
      rw [show (s.recordEntry ⟨n, g, id⟩ s.room.nextPlayerId r').gameStartTick = s.serverTick from
        if_pos ⟨hrunning, hbefore⟩]
  have hat : ∀ n' g', channels'.sessionAt n' g' = if n' = n ∧ g' = g then
      some { session := (({ id } : Session).send .playerIdentity
        (identityMessage s.room.nextPlayerId).payload).2 } else channels.sessionAt n' g' := by
    intro n' g'
    rw [hchannels', Channels.sessionAt_modifySession, hserver]
    rfl
  have hgrows : ∀ session player, s.assigned session = some player →
      s'.assigned session = some player := by
    intro session player hplayer
    rw [hothers session ?_, hplayer]
    rintro rfl
    rw [hnew] at hplayer
    cases hplayer
  refine ⟨⟨?_, hseated, ?_, ?_⟩, ?_, hassigned⟩
  · rw [hchannels']
    exact Channels.inOrder_modifySession h.inOrder fun server inp out _ hin => hin.send ..
  · intro n' g' server' hserver'
    rw [hchannels', Channels.modifySession_client]
    rw [hat] at hserver'
    split at hserver'
    · next hsame =>
        obtain ⟨rfl, rfl⟩ := hsame
        cases hserver'
        rw [Session.send_id, hassigned]
        refine ⟨Session.send_violations .., fun player hplayer => ?_, nofun⟩
        cases hplayer
        show Script _ _ _ _ (Session.send _ _ _).2.accepted
        rw [(send_identity id s.room.nextPlayerId).2]
        -- its script so far is the identity message, without a snapshot
        refine ⟨hentered.admits.playerId, ⟨[], rfl, nofun⟩, ?_⟩
        rw [ticksOf, List.filterMap_cons, snapshotOf_identityMessage]
        exact List.Pairwise.nil
    · next hother =>
        rw [hothers _ fun heq => hother (by cases heq; exact ⟨rfl, rfl⟩)]
        exact (h.ends n' g' server' hserver').later hlater (Nat.le_refl _)
  · intro session player hplayer
    rw [hat]
    by_cases hsession : session = ⟨n, g, id⟩
    · rw [hsession, if_pos ⟨rfl, rfl⟩]
      exact ⟨_, rfl, Session.send_id ..⟩
    · rw [hothers session hsession] at hplayer
      obtain ⟨server, hknown, hid⟩ := h.known session player hplayer
      split
      · next hsame =>
          rw [hsame.1, hsame.2, hserver] at hknown
          cases hknown
          exact ⟨_, rfl, (Session.send_id ..).trans hid⟩
      · exact ⟨server, hknown, hid⟩
  · rw [hchannels']
    exact moves_modifySession hlater hgrows ..

variable [IsStrictOrderedRing K]

/-- **`EnterDefaultRoom`** of a session that was just created: the room refuses, or all goes
well. -/
theorem enterDefaultRoom_cases (h : s.Seated)
    (hserver : channels.sessionAt n g = some { session := { id } }) :
    (∃ playerId, (playerId = s.room.nextPlayerId ∨
        s.room.nextPlayerId ≠ 0 ∧ playerId = s.room.followingPlayerId) ∧
      s.enterDefaultRoom (sessionObjects n g) ⟨n, g, id⟩ channels =
        (false, { s with room := { s.room with nextPlayerId := playerId } }, channels)) ∨
      ∃ r' : Room K SessionRef, r'.Consistent ∧
        s.room.Entered (⟨n, g, id⟩ : SessionRef) r' ∧
        s.enterDefaultRoom (sessionObjects n g) ⟨n, g, id⟩ channels =
          (true, s.recordEntry ⟨n, g, id⟩ s.room.nextPlayerId r',
            channels.modifySession n g fun server =>
              { server with session := (server.session.send .playerIdentity
                (identityMessage s.room.nextPlayerId).payload).2 }) := by
  unfold Server.enterDefaultRoom
  dsimp only
  rcases s.room.enter_frame (⟨n, g, id⟩ : SessionRef) with
    ⟨playerId, hplayerId, hrefused⟩ | ⟨r', henter, hentered⟩
  · left
    rw [hrefused]
    exact ⟨playerId, hplayerId, rfl⟩
  right
  have hconsistent : r'.Consistent := by
    have hafter := h.consistent.enter (some (⟨n, g, id⟩ : SessionRef))
    rw [henter] at hafter
    exact hafter
  refine ⟨r', hconsistent, hentered, ?_⟩
  have hroom : r'.roomId = Server.defaultRoomId := hentered.roomId.trans h.roomId
  have hvalid : (PlayerIdentityPayload.mk r'.roomId s.room.nextPlayerId).Valid :=
    ⟨by rw [hroom]; exact show Server.defaultRoomId ≠ 0 by decide, hentered.admits.playerId⟩
  rw [henter]
  dsimp only
  rw [show (s.recordEntry (⟨n, g, id⟩ : SessionRef) s.room.nextPlayerId r').room = r' from rfl,
    Checked.get_eq (encodePlayerIdentityPayload_valid hvalid), hroom]
  have hsent : ((sessionObjects n g).send ⟨n, g, id⟩ .playerIdentity
      (identityMessage s.room.nextPlayerId).payload channels).1 = true := by
    show (channels.sessionAt n g).any _ = true
    rw [hserver]
    exact (send_identity id s.room.nextPlayerId).1
  rw [show (PlayerIdentityPayload.mk Server.defaultRoomId s.room.nextPlayerId).bytes =
    (identityMessage s.room.nextPlayerId).payload from rfl, hsent]
  rfl

/-- `EnterDefaultRoom` in the world. -/
theorem World.enterDefaultRoom (h : World clock s channels)
    (hserver : channels.sessionAt n g = some { session := { id } })
    (hnew : s.assigned ⟨n, g, id⟩ = none) :
    Admission clock s channels n g id
      (s.enterDefaultRoom (sessionObjects n g) ⟨n, g, id⟩ channels) := by
  rcases enterDefaultRoom_cases h.seated hserver with
    ⟨playerId, hplayerId, hrefused⟩ | ⟨r', hconsistent, hentered, hsuccess⟩
  · rw [hrefused]
    have hlater : Later s { s with room := { s.room with nextPlayerId := playerId } } :=
      .of_eq rfl rfl fun hplaying => hplaying
    refine ⟨h.still (h.seated.refused hplayerId) hlater rfl,
      ⟨hlater, fun _ _ hplayer => hplayer, fun _ => rfl, fun _ => rfl⟩, ?_, nofun⟩
    intro server hserver'
    rw [hserver] at hserver'
    cases hserver'
    rfl
  · rw [hsuccess]
    obtain ⟨hworld, hmoves, hassigned⟩ := h.entered hserver hconsistent hentered rfl rfl hnew
    refine ⟨hworld, hmoves, ?_, fun _ => Option.isSome_iff_exists.mpr ⟨_, hassigned⟩⟩
    intro server hserver'
    have hat := Channels.sessionAt_modifySession channels n g (fun server =>
      { server with session := (server.session.send .playerIdentity
        (identityMessage s.room.nextPlayerId).payload).2 }) n g
    rw [if_pos ⟨rfl, rfl⟩, hserver] at hat
    cases hat.symm.trans hserver'
    rfl

omit [Field K] [LinearOrder K] [IsStrictOrderedRing K] in
/-- The session of a player starts to read. -/
theorem HonestEnd.start {clock : ℕ → UInt64} {clockReads : ℕ} {assigned} {server : ServerEnd}
    (h : HonestEnd clock clockReads s assigned server) (hplayer : assigned ≠ none) :
    HonestEnd clock clockReads s assigned ⟨server.session.start, true⟩ := by
  have hstart : server.session.start.violations = server.session.violations ∧
      server.session.start.accepted = server.session.accepted := by
    unfold Session.start
    split
    · exact ⟨rfl, rfl⟩
    · unfold Session.readNext
      split
      · exact ⟨Session.violations_report rfl, rfl⟩
      · exact ⟨Session.violations_report rfl, rfl⟩
  refine ⟨hstart.1.trans h.violations, fun player hassigned => ?_,
    fun hnone => absurd hnone hplayer⟩
  show Script clock clockReads s player server.session.start.accepted
  rw [hstart.2]
  exact h.script player hassigned

omit [IsStrictOrderedRing K] in
/-- What follows `EnterDefaultRoom`. -/
theorem Admission.settled {result : Bool × Server K SessionRef × Channels}
    (h : Admission clock s channels n g id result) (after : Server K SessionRef × Channels)
    (hafter : after = if result.1 then
        (result.2.1, (sessionObjects n g).start ⟨n, g, id⟩ result.2.2) else
      result.2.1.stopSession (sessionObjects n g) ⟨n, g, id⟩ result.2.2) :
    World clock after.1 after.2 ∧ Moves s after.1 channels after.2 := by
  obtain ⟨hworld, hmoves, hunstarted, hentered⟩ := h
  subst hafter
  split
  · next hsuccess =>
      refine ⟨hworld.modifySession hworld.seated (.refl _) rfl ?_ ?_ ?_, hmoves.trans ?_⟩
      · intro server inp out hserver hin
        exact hin.start (hunstarted server hserver)
      · intro server
        exact server.session.start_frame.1
      · intro server hserver hend
        obtain ⟨player, hplayer⟩ := Option.isSome_iff_exists.mp (hentered hsuccess)
        have hid := hworld.session_eq hplayer hserver
        refine hend.start ?_
        rw [hid, hplayer]
        nofun
      · exact moves_modifySession (.refl _) (fun _ _ hplayer => hplayer) ..
  · obtain ⟨hstopped, hmoves'⟩ := hworld.stopSession n g ⟨n, g, id⟩
    exact ⟨hstopped, hmoves.trans hmoves'⟩

omit [LinearOrder K] [IsStrictOrderedRing K] in
/-- **What `HandleAccept` can do**: nothing once the server was stopped, drop the new session if its
id is taken, or register it and let it enter. -/
theorem handleAccept_cases (s : Server K SessionRef) (channels : Channels) (n g : ℕ) :
    (s.stopped = true ∧ s.handleAccept (sessionObjects n g) channels = (s, channels)) ∨
      s.stopped = false ∧
        ((∃ entry ∈ s.sessions, entry.1 = s.nextSessionId) ∧
          s.handleAccept (sessionObjects n g) channels =
            ({ s with nextSessionId := s.nextSessionId + 1 },
              (sessionObjects n g).destroy ⟨n, g, s.nextSessionId⟩
                (channels.setSession n g { session := { id := s.nextSessionId } })) ∨
        (∀ entry ∈ s.sessions, entry.1 ≠ s.nextSessionId) ∧
          ∀ result, result = ({ s with
              nextSessionId := s.nextSessionId + 1
              sessions := s.sessions ++
                [(s.nextSessionId, (⟨n, g, s.nextSessionId⟩ : SessionRef))] }).enterDefaultRoom
              (sessionObjects n g) ⟨n, g, s.nextSessionId⟩
              (channels.setSession n g { session := { id := s.nextSessionId } }) →
            s.handleAccept (sessionObjects n g) channels =
              if result.1 then
                (result.2.1, (sessionObjects n g).start ⟨n, g, s.nextSessionId⟩ result.2.2)
              else result.2.1.stopSession (sessionObjects n g) ⟨n, g, s.nextSessionId⟩
                result.2.2) := by
  by_cases hstopped : s.stopped = true
  · exact Or.inl ⟨hstopped, if_pos hstopped⟩
  refine Or.inr ⟨by simpa using hstopped, ?_⟩
  by_cases htaken : (s.sessions.any fun entry => entry.1 = s.nextSessionId) = true
  · refine Or.inl ⟨by simpa using htaken, ?_⟩
    unfold Server.handleAccept
    rw [if_neg hstopped]
    dsimp only
    rw [if_pos htaken]
    rfl
  · refine Or.inr ⟨fun entry hentry hid => ?_, ?_⟩
    · exact htaken (List.any_eq_true.mpr ⟨entry, hentry, decide_eq_true hid⟩)
    rintro result rfl
    unfold Server.handleAccept
    rw [if_neg hstopped]
    dsimp only
    rw [if_neg htaken]
    rfl

/-- **The server accepts a connection.** -/
theorem World.handleAccept (h : World clock s channels) {link : Link}
    (hlink : (channels n).links g = some link) (hnew : link.serverEnd = none) :
    World clock (s.handleAccept (sessionObjects n g) channels).1
        (s.handleAccept (sessionObjects n g) channels).2 ∧
      Moves s (s.handleAccept (sessionObjects n g) channels).1 channels
        (s.handleAccept (sessionObjects n g) channels).2 := by
  have hcreated := h.create hlink hnew s.nextSessionId
  have hserver : (channels.setSession n g { session := { id := s.nextSessionId } }).sessionAt n g =
      some { session := { id := s.nextSessionId } } := by
    rw [Channels.sessionAt_setSession hlink, if_pos ⟨rfl, rfl⟩]
  have hmoves : ∀ s' : Server K SessionRef, s'.room = s.room → s'.assigned = s.assigned →
      s'.serverTick = s.serverTick → s'.gameStartTick = s.gameStartTick →
        Moves s s' channels
          (channels.setSession n g { session := { id := s.nextSessionId } }) := by
    intro s' hroom hassigned htick hstart
    refine ⟨.of_eq htick hstart fun hplaying => hroom ▸ hplaying, fun session player hplayer => ?_,
      fun _ => Channels.setSession_client .., fun _ => Channels.setSession_application ..⟩
    rw [hassigned, hplayer]
  have hunknown : s.assigned ⟨n, g, s.nextSessionId⟩ = none := by
    by_contra hsome
    obtain ⟨player, hplayer⟩ := Option.ne_none_iff_exists'.mp hsome
    obtain ⟨server, hknown, -⟩ := h.known _ player hplayer
    rw [Channels.sessionAt, hlink, Option.bind_some, hnew] at hknown
    cases hknown
  rcases handleAccept_cases s channels n g with
    ⟨-, hnothing⟩ | ⟨-, ⟨-, hdropped⟩ | ⟨-, hentering⟩⟩
  · rw [hnothing]
    exact ⟨h, .refl s channels⟩
  · rw [hdropped]
    have hcounted := hmoves { s with nextSessionId := s.nextSessionId + 1 } rfl rfl rfl rfl
    have hrenumbered : World clock { s with nextSessionId := s.nextSessionId + 1 }
        (channels.setSession n g { session := { id := s.nextSessionId } }) :=
      hcreated.still (hcreated.seated.of_eq rfl rfl) (.of_eq rfl rfl id) rfl
    obtain ⟨hworld, hmoves'⟩ := hrenumbered.destroy n g ⟨n, g, s.nextSessionId⟩
    exact ⟨hworld, hcounted.trans hmoves'⟩
  · have hregistered : World clock { s with
        nextSessionId := s.nextSessionId + 1
        sessions := s.sessions ++ [(s.nextSessionId, (⟨n, g, s.nextSessionId⟩ : SessionRef))] }
        (channels.setSession n g { session := { id := s.nextSessionId } }) :=
      hcreated.still (hcreated.seated.of_eq rfl rfl) (.of_eq rfl rfl id) rfl
    have hadmitted := hregistered.enterDefaultRoom hserver hunknown
    obtain ⟨hworld, hmoves'⟩ := hadmitted.settled _ (hentering _ rfl)
    have hcounted := hmoves { s with
      nextSessionId := s.nextSessionId + 1
      sessions := s.sessions ++ [(s.nextSessionId, ⟨n, g, s.nextSessionId⟩)] } rfl rfl rfl rfl
    exact ⟨hworld, hcounted.trans hmoves'⟩

end Accepting

end NetworkArena.System
