/-
# NetworkArena.System.Players -- who a client believes to be

A player id is given to one session only (`Numbering`), and what a client has been told of itself
was given to one of its sessions (`Introduced`). So no two clients ever take themselves for the
same player, and whatever a client shows, it finds its own player in it.
-/
import NetworkArena.Client.SnapshotHistory
import NetworkArena.System.Holding
import NetworkArena.System.Reachable

namespace NetworkArena.System

open NetworkArena.Foundation
open NetworkArena.Shared
open NetworkArena.Server
open NetworkArena.Client

variable {K : Type}

/-! ## Player ids -/

/-- All ids that were given out lie below the next one, and no two sessions have the same. -/
structure Numbering (s : Server K SessionRef) : Prop where
  below : s.room.nextPlayerId = 0 ∨ ∀ session player, s.assigned session = some player →
    player.1.toNat < s.room.nextPlayerId.toNat
  unique : ∀ session session' player player', s.assigned session = some player →
    s.assigned session' = some player' → player.1 = player'.1 → session = session'

/-- No id is given out. -/
structure SameNumbers (s s' : Server K SessionRef) : Prop where
  assigned : s'.assigned = s.assigned
  nextPlayerId : s'.room.nextPlayerId = s.room.nextPlayerId

section Numbering

variable {s s' s'' : Server K SessionRef}

theorem SameNumbers.refl (s : Server K SessionRef) : SameNumbers s s := ⟨rfl, rfl⟩

theorem SameNumbers.trans (h : SameNumbers s s') (h' : SameNumbers s' s'') : SameNumbers s s'' :=
  ⟨h'.assigned.trans h.assigned, h'.nextPlayerId.trans h.nextPlayerId⟩

theorem Numbering.same (h : Numbering s) (h' : SameNumbers s s') : Numbering s' := by
  obtain ⟨hbelow, hunique⟩ := h
  constructor
  · rw [h'.assigned, h'.nextPlayerId]
    exact hbelow
  · rw [h'.assigned]
    exact hunique

/-- **The room refuses**, and may have skipped an id. -/
theorem Numbering.refused (h : Numbering s) {playerId : PlayerId}
    (hplayerId : playerId = s.room.nextPlayerId ∨
      s.room.nextPlayerId ≠ 0 ∧ playerId = s.room.followingPlayerId) :
    Numbering { s with room := { s.room with nextPlayerId := playerId } } := by
  refine ⟨?_, h.unique⟩
  rcases hplayerId with rfl | ⟨hnext, rfl⟩
  · exact h.below
  · rcases followingPlayerId_toNat s.room with hzero | hfollowing
    · exact Or.inl hzero
    · right
      intro session player hplayer
      have hlt := h.below.resolve_left hnext session player hplayer
      show player.1.toNat < s.room.followingPlayerId.toNat
      omega

variable [Field K]

theorem sameNumbers_handleSessionClosed (s : Server K SessionRef) (id : SessionId) :
    SameNumbers s (Server.handleSessionClosed id s) :=
  ⟨rfl, (s.room.leave_frame id).2.2.1⟩

theorem sameNumbers_stopSession (s : Server K SessionRef) (n g : ℕ) (session : SessionRef)
    (channels : Channels) :
    SameNumbers s (s.stopSession (sessionObjects n g) session channels).1 := by
  unfold Server.stopSession
  dsimp only
  split
  · exact sameNumbers_handleSessionClosed s session.id
  · exact .refl s

/-- **A session enters** under an id that nobody has. -/
theorem Numbering.entered (h : Numbering s) {session : SessionRef}
    (hnew : s.assigned session = none) {r' : Room K SessionRef}
    (hentered : s.room.Entered session r') :
    Numbering (s.recordEntry session s.room.nextPlayerId r') := by
  have hbelow := h.below.resolve_left hentered.admits.playerId
  have hassigned : ∀ session' player,
      (s.recordEntry session s.room.nextPlayerId r').assigned session' = some player →
        session' = session ∧ player.1 = s.room.nextPlayerId ∨
          session' ≠ session ∧ s.assigned session' = some player := by
    intro session' player hplayer
    simp only [Server.recordEntry] at hplayer
    by_cases hsame : session' = session
    · subst hsame
      rw [Function.update_self] at hplayer
      cases hplayer
      exact Or.inl ⟨rfl, rfl⟩
    · rw [Function.update_of_ne hsame] at hplayer
      exact Or.inr ⟨hsame, hplayer⟩
  constructor
  · rw [show (s.recordEntry session s.room.nextPlayerId r').room.nextPlayerId =
      s.room.followingPlayerId from hentered.nextPlayerId]
    rcases followingPlayerId_toNat s.room with hzero | hfollowing
    · exact Or.inl hzero
    · right
      intro session' player hplayer
      rcases hassigned session' player hplayer with ⟨-, hid⟩ | ⟨-, hold⟩
      · rw [hid]
        omega
      · have hlt := hbelow session' player hold
        omega
  · intro session₁ session₂ player₁ player₂ hplayer₁ hplayer₂ hid
    rcases hassigned _ _ hplayer₁ with ⟨hsession₁, hid₁⟩ | ⟨-, hold₁⟩
    · rcases hassigned _ _ hplayer₂ with ⟨hsession₂, -⟩ | ⟨-, hold₂⟩
      · exact hsession₁.trans hsession₂.symm
      · have hlt := hbelow _ _ hold₂
        rw [← hid, hid₁] at hlt
        exact absurd hlt (lt_irrefl _)
    · rcases hassigned _ _ hplayer₂ with ⟨-, hid₂⟩ | ⟨-, hold₂⟩
      · have hlt := hbelow _ _ hold₁
        rw [hid, hid₂] at hlt
        exact absurd hlt (lt_irrefl _)
      · exact h.unique _ _ _ _ hold₁ hold₂ hid

variable [LinearOrder K] [IsStrictOrderedRing K]

/-- **A connection is accepted.** -/
theorem Numbering.handleAccept {channels : Channels} {n g : ℕ} (h : Numbering s)
    (hseated : s.Seated) {link : Link} (hlink : (channels n).links g = some link)
    (hunknown : s.assigned ⟨n, g, s.nextSessionId⟩ = none) :
    Numbering (s.handleAccept (sessionObjects n g) channels).1 := by
  have hserver : (channels.setSession n g { session := { id := s.nextSessionId } }).sessionAt n g =
      some { session := { id := s.nextSessionId } } := by
    rw [Channels.sessionAt_setSession hlink, if_pos ⟨rfl, rfl⟩]
  rcases handleAccept_cases s channels n g with
    ⟨-, hnothing⟩ | ⟨-, ⟨-, hdropped⟩ | ⟨-, hentering⟩⟩
  · rw [hnothing]
    exact h
  · rw [hdropped]
    exact h.same ⟨rfl, rfl⟩
  have hregistered : Numbering { s with
      nextSessionId := s.nextSessionId + 1
      sessions := s.sessions ++ [(s.nextSessionId, (⟨n, g, s.nextSessionId⟩ : SessionRef))] } :=
    h.same ⟨rfl, rfl⟩
  rcases enterDefaultRoom_cases (s := { s with
      nextSessionId := s.nextSessionId + 1
      sessions := s.sessions ++ [(s.nextSessionId, (⟨n, g, s.nextSessionId⟩ : SessionRef))] })
    (hseated.of_eq rfl rfl) hserver with
      ⟨playerId, hplayerId, hrefused⟩ | ⟨r', -, hentered, hsuccess⟩
  · rw [hentering _ hrefused.symm]
    exact (hregistered.refused hplayerId).same (sameNumbers_stopSession _ n g _ _)
  · rw [hentering _ hsuccess.symm]
    exact hregistered.entered hunknown hentered

variable [FloorRing K] [HasSqrt K]

/-- **A tick** gives out no id. -/
theorem sameNumbers_handleTick (s : Server K SessionRef) (n g : ℕ) (toFloat : K → FloatBits)
    (deltaSeconds : K) (channels : Channels) :
    SameNumbers s (s.handleTick (sessionObjects n g) toFloat deltaSeconds channels).1 := by
  unfold Server.handleTick
  split
  · exact .refl s
  dsimp only
  generalize (if deltaSeconds > Server.maxServerTickDeltaSeconds then
    Server.maxServerTickDeltaSeconds else deltaSeconds) = capped
  have hticked : (s.room.tick capped).nextPlayerId = s.room.nextPlayerId :=
    (s.room.tick_frame capped).2.2.1
  unfold Server.tickDefaultRoom
  dsimp only
  split
  · exact ⟨rfl, hticked⟩
  · refine ⟨rfl, ?_⟩
    refine Room.broadcast_induction (P := fun r => r.nextPlayerId = s.room.nextPlayerId) ?_ _ _ _ _
      hticked
    intro r id hsame
    exact (r.leave_frame id).2.2.1.trans hsame

omit [LinearOrder K] [IsStrictOrderedRing K] [FloorRing K] [HasSqrt K] in
theorem sameNumbers_stop (s : Server K SessionRef) (n g : ℕ) (channels : Channels) :
    SameNumbers s (s.stop (sessionObjects n g) channels).1 := by
  have hall : ∀ (entries : List (SessionId × SessionRef)) (s : Server K SessionRef)
      (channels : Channels),
      SameNumbers s (s.closeAll (sessionObjects n g) entries channels).1 := by
    intro entries
    induction entries with
    | nil => exact fun s channels => ⟨rfl, rfl⟩
    | cons entry entries ih =>
        intro s channels
        exact (sameNumbers_stopSession s n g entry.2 channels).trans (ih _ _)
  unfold Server.stop
  split
  · exact .refl s
  · have hstopped : SameNumbers s { s with stopped := true } := ⟨rfl, rfl⟩
    exact hstopped.trans (hall s.sessions _ channels)

omit [IsStrictOrderedRing K] [FloorRing K] in
/-- The handlers of a session give out no id. -/
theorem sameNumbers_keeps (s₀ : Server K SessionRef) :
    Session.Keeps (Server.callbacks : SessionCallbacks (Server K SessionRef))
      fun _ s => SameNumbers s₀ s where
  report _ _ h := h
  queues _ _ _ _ _ h := h
  close {session s} h := by
    unfold Session.close
    split
    · exact h
    dsimp only
    split
    · exact h
    · exact h.trans (sameNumbers_handleSessionClosed s session.id)

omit [IsStrictOrderedRing K] [FloorRing K] in
theorem SameNumbers.dispatch {s₀ : Server K SessionRef} (h : SameNumbers s₀ s)
    {clock : ℕ → UInt64} {clockReads : ℕ} {m : Message}
    (hm : NetworkClient.IsRequest clock clockReads m) (session : Session) :
    SameNumbers s₀ (Session.dispatchOn Server.callbacks m (session, s)).2.2 := by
  cases hm with
  | ping hk =>
      rw [Session.dispatchOn_ping]
      exact h
  | @playerInput input hinput =>
      rw [Session.dispatchOn_playerInput Server.callbacks session s hinput (by rfl)]
      exact h.trans ⟨rfl, (s.room.applyPlayerInput_frame session.id input).2.2.1⟩

variable {clock : ℕ → ℕ → UInt64} {toFloat : K → FloatBits} {t t' : Arena K}

/-- **Every step** keeps the ids apart. -/
theorem Numbering.step (h : Numbering t.server) (hreachable : t.Reachable clock)
    {event : ArenaEvent K} (hstep : Arena.step clock toFloat t event = some t') :
    Numbering t'.server := by
  have hworld := hreachable.sound.world
  cases Arena.step_cases hstep with
  | client n event hevent hclient => exact h
  | established n g hnew => exact h
  | server n g event hevent hserver =>
      obtain ⟨server, server', hhandled⟩ := hreachable.serverStep hevent hserver
        (P := fun _ _ s => SameNumbers t.server s)
        (fun _ => sameNumbers_keeps t.server)
        (fun _ _ session s₁ _ hm _ hsame => hsame.dispatch hm session)
        fun _ _ => .refl _
      exact h.same hhandled.holds
  | update n keys => exact h
  | shutdown n => exact h
  | accept n g hlink hnew =>
      refine h.handleAccept hworld.seated hlink ?_
      -- a connection nobody serves yet has no player
      by_contra hsome
      obtain ⟨player, hplayer⟩ := Option.ne_none_iff_exists'.mp hsome
      obtain ⟨server, hknown, -⟩ := hworld.known _ player hplayer
      rw [Channels.sessionAt, hlink, Option.bind_some, hnew] at hknown
      cases hknown
  | tick deltaSeconds => exact h.same (sameNumbers_handleTick ..)
  | stop => exact h.same (sameNumbers_stop ..)

end Numbering

/-! ## What a client knows of itself -/

/-- A client that knows nothing, or knows the player of one of its sessions and shows it. -/
inductive Introduced (s : Server K SessionRef) (n : ℕ) (game : ClientGameState) : Prop where
  | nobody (hidentity : game.playerIdentity = none) (hworld : game.worldState = none)
  | player {generation : ℕ} {id : SessionId} {player : PlayerId × PlayerSide}
      (hassigned : s.assigned ⟨n, generation, id⟩ = some player)
      (hidentity : game.playerIdentity = some ⟨Server.defaultRoomId, player.1⟩)
      (hshows : ∀ snapshot, game.worldState = some snapshot → Shows snapshot player.1 player.2)

section Introduced

variable {s s' : Server K SessionRef} {n : ℕ} {game : ClientGameState}

theorem Introduced.mono (h : Introduced s n game)
    (hassigned : ∀ session player, s.assigned session = some player →
      s'.assigned session = some player) : Introduced s' n game := by
  cases h with
  | nobody hidentity hworld => exact .nobody hidentity hworld
  | player hplayer hidentity hshows => exact .player (hassigned _ _ hplayer) hidentity hshows

theorem Introduced.identity (h : Introduced s n game) {identity : PlayerIdentityPayload}
    (hidentity : game.playerIdentity = some identity) :
    ∃ generation id player, s.assigned ⟨n, generation, id⟩ = some player ∧
      identity.playerId = player.1 := by
  cases h with
  | nobody hnone hworld =>
      rw [hnone] at hidentity
      cases hidentity
  | @player generation id player hassigned hsome hshows =>
      rw [hsome] at hidentity
      cases hidentity
      exact ⟨generation, id, player, hassigned, rfl⟩

/-- Snapshots do not change who a client is. -/
theorem playerIdentity_receive (snapshots : List (WorldStateSnapshot FloatBits))
    (game : ClientGameState) :
    ((snapshots.map Invocation.worldStateSnapshot).foldl
      ClientGameState.receive game).playerIdentity = game.playerIdentity := by
  induction snapshots generalizing game with
  | nil => rfl
  | cons snapshot snapshots ih =>
      refine (ih (game.applyWorldStateSnapshot snapshot).2).trans ?_
      rcases game.applyWorldStateSnapshot_cases snapshot with hno | ⟨hyes, -⟩
      · rw [hno]
      · rw [hyes]

/-- **What a script tells next**: who the client is, or a snapshot once it knows. -/
theorem Script.tells {clock : ℕ → UInt64} {clockReads : ℕ} {player : PlayerId × PlayerSide}
    {messages : List Message} (h : Script clock clockReads s player messages)
    {delivered : List Invocation} {invocation : Invocation}
    (hasked : delivered ++ [invocation] <+: messages.filterMap invocationOf)
    {game₀ : ClientGameState} (hgame : game = delivered.foldl ClientGameState.receive game₀) :
    invocation = .playerIdentity ⟨Server.defaultRoomId, player.1⟩ ∨
      ∃ snapshot, invocation = .worldStateSnapshot snapshot ∧
        Shows snapshot player.1 player.2 ∧
          game.playerIdentity = some ⟨Server.defaultRoomId, player.1⟩ := by
  rw [h.invocations] at hasked
  cases delivered with
  | nil =>
      rw [List.nil_append, List.cons_prefix_cons] at hasked
      exact Or.inl hasked.1
  | cons first delivered =>
      rw [List.cons_append, List.cons_prefix_cons] at hasked
      obtain ⟨rfl, hrest⟩ := hasked
      obtain ⟨snapshots, hsnapshots, hmap⟩ := List.prefix_map_iff.mp hrest
      obtain ⟨before, last, rfl, hbefore, hlast⟩ := List.map_eq_append_iff.mp hmap.symm
      obtain ⟨snapshot, rfl, rfl⟩ : ∃ snapshot, last = [snapshot] ∧
          Invocation.worldStateSnapshot snapshot = invocation := by
        simpa [List.map_eq_singleton_iff] using hlast
      have hin : snapshot ∈ snapshotsOf messages := hsnapshots.subset (by simp)
      refine Or.inr ⟨snapshot, rfl, (h.snapshots_sound snapshot hin).shows, ?_⟩
      have hvalid : ¬ (Server.defaultRoomId = 0 ∨ player.1 = 0) :=
        not_or.mpr ⟨by decide, h.identified⟩
      rw [hgame, List.foldl_cons, ← hbefore, playerIdentity_receive]
      simp only [ClientGameState.receive, ClientGameState.applyPlayerIdentity, if_neg hvalid]

/-- **A client is told something** that its session was told. -/
theorem Introduced.told {a : ClientApplication} (h : Introduced s n a.clientGameState)
    {clock : ℕ → UInt64} {clockReads : ℕ} {generation : ℕ} {id : SessionId}
    {player : PlayerId × PlayerSide} (hassigned : s.assigned ⟨n, generation, id⟩ = some player)
    {messages : List Message} (hscript : Script clock clockReads s player messages)
    {delivered : List Invocation} {invocation : Invocation}
    (hasked : delivered ++ [invocation] <+: messages.filterMap invocationOf)
    {game₀ : ClientGameState}
    (hgame : a.clientGameState = delivered.foldl ClientGameState.receive game₀) :
    Introduced s n (a.handle generation invocation).clientGameState := by
  rcases hscript.tells hasked hgame with rfl | ⟨snapshot, rfl, hshows, hidentity⟩
  · simp only [ClientApplication.handle, ClientApplication.handlePlayerIdentity]
    rcases a.clientGameState.applyPlayerIdentity_cases ⟨Server.defaultRoomId, player.1⟩ with
      hno | hyes
    · rw [hno]
      exact h
    · rw [hyes]
      refine .player hassigned rfl ?_
      intro shown hshown
      cases hshown
  · simp only [ClientApplication.handle, ClientApplication.handleWorldStateSnapshot]
    rcases a.clientGameState.applyWorldStateSnapshot_cases snapshot with hno | ⟨hyes, -⟩
    · rw [hno]
      exact h
    · rw [hyes]
      refine .player hassigned hidentity ?_
      intro shown hshown
      cases hshown
      exact hshows

variable [Field K] [LinearOrder K] {clock : ℕ → ℕ → UInt64} {t t' : Arena K}

/-- **Whatever happens to a client.** -/
theorem Arena.Reachable.introduced (h : t.Reachable clock)
    (hclock : ∀ i j, i ≤ j → clock n i ≤ clock n j) {event : ClientEvent}
    (hevent : isHonest (.client event) = true) {channel : Channel ClientApplication}
    (hstep : (t.channels n).clientStep (ClientApplication.environment (clock n)) event =
      some channel)
    (hbefore : Introduced t.server n (t.channels n).application.clientGameState) :
    Introduced t.server n channel.application.clientGameState := by
  by_cases hcall : ∃ call, event = .call call ∧ isConnect call = false
  · obtain ⟨call, rfl, -⟩ := hcall
    cases hstep
    exact hbefore
  have hhappens := h.sound.world.clientStep_happens hclock (h.sound.following n) hevent
    (fun call hsame => by
      by_contra hno
      exact hcall ⟨call, hsame, by simpa using hno⟩) hstep
  generalize (t.channels n).application = a, channel.application = a' at hhappens hbefore
  cases hhappens with
  | idle => exact hbefore
  | lost => exact .nobody rfl rfl
  | connects => exact hbefore
  | told hidle hopen hasked hstate =>
      obtain ⟨game₀, -, hgame⟩ := hstate
      have hasked' := hasked.trans (((h.sound.world.inOrder n).delivers _).2.filterMap invocationOf)
      rcases h.sound.world.accepted n (t.channels n).client.connectionGeneration with
        hnone | ⟨id, player, hassigned, hscript⟩
      · rw [hnone, List.filterMap_nil, List.prefix_nil] at hasked'
        simp at hasked'
      · exact hbefore.told hassigned hscript hasked' hgame

end Introduced

/-! ## Everybody -/

/-- Everybody knows at most who they are, and no two sessions are the same player. -/
structure Arena.Acquainted (t : Arena K) : Prop where
  numbering : Numbering t.server
  introduced : ∀ n, Introduced t.server n (t.channels n).application.clientGameState

section Acquainted

/-- **Two clients are two players.** -/
theorem Arena.Acquainted.distinct {t : Arena K} (h : t.Acquainted) {n n' : ℕ} (hne : n ≠ n')
    {generation generation' : ℕ} {id id' : SessionId} {player player' : PlayerId × PlayerSide}
    (hassigned : t.server.assigned ⟨n, generation, id⟩ = some player)
    (hassigned' : t.server.assigned ⟨n', generation', id'⟩ = some player') :
    player.1 ≠ player'.1 := by
  intro hsame
  have hsession := h.numbering.unique _ _ _ _ hassigned hassigned' hsame
  exact hne (congrArg SessionRef.client hsession)

variable [Field K]

variable [LinearOrder K] [IsStrictOrderedRing K] [FloorRing K] [HasSqrt K]
  {clock : ℕ → ℕ → UInt64} {toFloat : K → FloatBits} {t t' : Arena K}

/-- **Every step.** -/
theorem Arena.Acquainted.step (h : t.Acquainted) (hreachable : t.Reachable clock)
    (hclock : ∀ n i j, i ≤ j → clock n i ≤ clock n j) {event : ArenaEvent K}
    (hticks : event.isTick = true → t.server.serverTick.toNat + 1 < 2 ^ 64)
    (hstep : Arena.step clock toFloat t event = some t') : t'.Acquainted := by
  refine ⟨h.numbering.step hreachable hstep, fun n => ?_⟩
  have hassigned : ∀ session player, t.server.assigned session = some player →
      t'.server.assigned session = some player :=
    fun session player => hreachable.assigned hticks hstep
  refine Introduced.mono (s := t.server) ?_ hassigned
  have hone : ∀ (m : ℕ) (channel : Channel ClientApplication),
      (m = n → Introduced t.server n channel.application.clientGameState) →
        Introduced t.server n
          (Function.update t.channels m channel n).application.clientGameState := by
    intro m channel hclient
    by_cases hn : n = m
    · subst hn
      rw [Function.update_self]
      exact hclient rfl
    · rw [Function.update_of_ne hn]
      exact h.introduced n
  have hworld := hreachable.sound.world
  cases Arena.step_cases hstep with
  | client m event hevent hclient =>
      refine hone m _ ?_
      rintro rfl
      exact hreachable.introduced (hclock m) hevent hclient (h.introduced m)
  | established m g hnew =>
      refine hone m _ ?_
      rintro rfl
      exact h.introduced m
  | server m g event hevent hserver =>
      rw [Arena.application_serverStep hserver n]
      exact h.introduced n
  | update m keys =>
      refine hone m _ ?_
      rintro rfl
      rw [show (ClientApplication.update (clock m) keys (t.channels m).client
        (t.channels m).application).2.clientGameState = _ from
          InterpolatingApplication.update_clientGameState ..]
      exact h.introduced m
  | shutdown m => exact hone m _ fun _ => .nobody rfl rfl
  | accept m g hlink hnew =>
      rw [(hworld.handleAccept hlink hnew).2.application n]
      exact h.introduced n
  | tick deltaSeconds =>
      rw [(hworld.handleTick 0 0 toFloat deltaSeconds (hticks rfl)).2.application n]
      exact h.introduced n
  | stop =>
      rw [(hworld.stop 0 0).2.application n]
      exact h.introduced n

end Acquainted

end NetworkArena.System
