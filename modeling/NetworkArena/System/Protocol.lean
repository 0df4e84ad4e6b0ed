/-
# NetworkArena.System.Protocol -- honest peers never violate the protocol

One server and any number of honest clients, in any order of events. The two sides of the argument
meet here: what the server has sent on a session is a script (`World`), and a client that reads a
script takes all of it and sends nothing but requests (`Following`); a session that is asked nothing
else sends only replies (`AtWork`). So `Arena.Sound` goes from state to state, as long as the tick
counter does not wrap.
-/
import NetworkArena.System.ClientSide
import NetworkArena.System.Serving

namespace NetworkArena.System

open NetworkArena.Foundation
open NetworkArena.Shared
open NetworkArena.Server
open NetworkArena.Client

variable {K : Type} [Field K] [LinearOrder K]

/-! ## What a client may read -/

section Reading

variable {clock : ℕ → ℕ → UInt64} {s : Server K SessionRef} {channels : Channels}

/-- What the session of a connection has accepted: nothing, or the script of its player. -/
theorem World.accepted (h : World clock s channels) (n g : ℕ) :
    Link.accepted ((channels n).links g) = [] ∨
      ∃ id player, s.assigned ⟨n, g, id⟩ = some player ∧
        Script (clock n) (channels n).client.clockReads s player
          (Link.accepted ((channels n).links g)) := by
  unfold Link.accepted
  cases hsession : ((channels n).links g).bind Link.serverEnd with
  | none => exact Or.inl rfl
  | some server =>
      have hend := h.ends n g server hsession
      cases hassigned : s.assigned ⟨n, g, server.session.id⟩ with
      | none => exact Or.inl (hend.unassigned hassigned).1
      | some player => exact Or.inr ⟨_, player, hassigned, hend.script player hassigned⟩

/-- **A client of the server may read** all its session has accepted. -/
theorem World.takeable (h : World clock s channels) (n g : ℕ)
    (hclock : ∀ i j, i ≤ j → clock n i ≤ clock n j) :
    Takeable (clock n) (channels n).client.clockReads (Link.accepted ((channels n).links g)) := by
  intro c done m rest hsplit hreads hidentity
  rcases h.accepted n g with hnone | ⟨id, player, -, hscript⟩
  · rw [hnone] at hsplit
    cases done <;> cases hsplit
  · exact hscript.dispatchable hclock hreads hsplit hidentity

/-- **The next snapshot posted to an application** is a good one. -/
theorem World.goodDelivery (h : World clock s channels) {n g : ℕ} {delivered : List Invocation}
    {snapshot : WorldStateSnapshot FloatBits}
    (hdelivered : delivered ++ [.worldStateSnapshot snapshot] <+:
      ((channels n).client.dispatchedIn g).filterMap invocationOf) {state g₀ : ClientGameState}
    (hstate : state = delivered.foldl ClientGameState.receive g₀) :
    GoodDelivery s n ⟨g, snapshot, (state.applyWorldStateSnapshot snapshot).1,
      (state.applyWorldStateSnapshot snapshot).2.getLocalPlayer⟩ := by
  have hasked := hdelivered.trans (((h.inOrder n).delivers g).2.filterMap invocationOf)
  rcases h.accepted n g with hnone | ⟨id, player, hassigned, hscript⟩
  · rw [hnone, List.filterMap_nil, List.prefix_nil] at hasked
    simp at hasked
  · obtain ⟨happlies, localPlayer, hshown, hid, hside⟩ := hscript.applies hasked hstate
    rw [happlies]
    exact ⟨rfl, id, player, localPlayer, hassigned, hshown, hid, hside⟩

end Reading

/-! ## A step of a client -/

section Receiving

variable {α : Type} {channel : Channel α} {g : ℕ}

/-- What has been handed to a connection downstream comes from its session. -/
theorem Channel.InOrder.written (h : channel.InOrder) {link : Link}
    (hlink : channel.links g = some link) :
    link.downstream.written <+: (Link.accepted (channel.links g)).flatMap Message.bytes ∧
      ∀ m ∈ Link.accepted (channel.links g), m.Fits := by
  have hin := h.links g link hlink
  rw [hlink, Link.accepted, Option.bind_some]
  cases hserver : link.serverEnd with
  | none =>
      rw [(hin.unaccepted hserver).2]
      exact ⟨List.nil_prefix, List.forall_mem_nil _⟩
  | some server =>
      have hsends := (hin.serverEnd server hserver).sends
      exact ⟨hsends.sent, hsends.fits⟩

/-- **A read of a connection** brings bytes of messages that were not dispatched yet. -/
theorem Channel.InOrder.unread (h : channel.InOrder) {link : Link}
    (hlink : channel.links g = some link) (hread : g ∈ channel.client.readsOutstanding)
    (count : ℕ) :
    ∃ todo, Link.accepted (channel.links g) = channel.client.dispatchedIn g ++ todo ∧
      (channel.client.connectionState = .connected → g = channel.client.connectionGeneration →
        channel.client.accumulatedBuffer ++ link.downstream.next count <+:
          todo.flatMap Message.bytes) := by
  obtain ⟨todo, htodo⟩ := (h.delivers g).2
  refine ⟨todo, htodo.symm, fun hconnected hcurrent => ?_⟩
  subst hcurrent
  refine unread_bytes h.receives hconnected hread htodo.symm ?_
  rw [Function.comp_apply, hlink]
  show link.downstream.received ++ _ <+: _
  rw [← Pipe.received_consume]
  have hwritten := (h.written hlink).1
  rw [hlink] at hwritten
  exact (link.downstream.consume count).received_isPrefix.trans hwritten

end Receiving

section ClientStep

variable {clock : ℕ → ℕ → UInt64} {s : Server K SessionRef} {channels : Channels} {n reads : ℕ}
  {start : ClientGameState → Prop}

/-- **Whatever happens to a client**, it goes on following. -/
theorem World.clientStep (h : World clock s channels)
    (hclock : ∀ i j, i ≤ j → clock n i ≤ clock n j)
    (hfollowing : Following start (clock n) reads (GoodDelivery s n) (channels n).client
      (channels n).application) {event : ClientEvent}
    (hevent : isHonest (.client event) = true)
    (hstart : ∀ call, event = .call call → isConnect call = true →
      (channels n).client.connectionState = .disconnected →
        start (channels n).application.clientGameState) {channel : Channel ClientApplication}
    (hstep : (channels n).clientStep (ClientApplication.environment (clock n)) event =
      some channel) :
    Following start (clock n) reads (GoodDelivery s n) channel.client channel.application := by
  have hquiet := quiet_environment (clock n)
  cases Channel.clientStep_cases hstep with
  | call call => exact hfollowing.call (h.inOrder n).receives hevent (hstart call rfl)
  | resolved g error =>
      have hretired : Following start (clock n) reads (GoodDelivery s n)
          ((channels n).client.retireResolve g) (channels n).application :=
        hfollowing.untouched (NetworkClient.untouched_retireResolve _ g)
      exact hretired.completion (NetworkClient.handleResolve_completion hquiet
        hretired.delivering.subscribed error g _)
  | connected g error =>
      have hretired : Following start (clock n) reads (GoodDelivery s n)
          ((channels n).client.retireConnect g) (channels n).application :=
        hfollowing.untouched (NetworkClient.untouched_retireConnect _ g)
      exact hretired.completion (NetworkClient.handleConnect_completion hquiet
        hretired.delivering.subscribed error g _)
  | read g count error hlink hread =>
      have hretired : Following start (clock n) reads (GoodDelivery s n)
          ((channels n).client.retireRead g) (channels n).application :=
        hfollowing.untouched (NetworkClient.untouched_queues _ ..)
      obtain ⟨todo, hsplit, hbytes⟩ := (h.inOrder n).unread hlink hread count
      exact hretired.handleRead ((h.inOrder n).written hlink).2 (h.takeable n g hclock)
        (fun _ _ => hsplit) hbytes error
  | transfer i count => exact hfollowing.untouched (NetworkClient.untouched_queues _ ..)
  | written i error =>
      have hretired : Following start (clock n) reads (GoodDelivery s n)
          ((channels n).client.retireWrite i) (channels n).application :=
        hfollowing.untouched (NetworkClient.untouched_queues _ ..)
      exact hretired.completion (NetworkClient.handleWrite_completion hquiet
        hretired.delivering.subscribed error _ _ _)
  | posted i hcallback =>
      -- posted callbacks run in the order in which they were posted
      obtain rfl : i = 0 := by simpa [isHonest] using hevent
      obtain ⟨rest, hposted⟩ :=
        List.head?_eq_some_iff.mp (List.head?_eq_getElem?.trans hcallback)
      refine hfollowing.handlePosted (h.inOrder n).receives hposted ?_
      rintro - delivered snapshot hdelivered ⟨g₀, -, hstate⟩
      exact h.goodDelivery hdelivered hstate

/-- A step of a client leaves the sessions of its connections alone. -/
theorem Channel.clientStep_serverEnd {α : Type} {env : ClientEnvironment α}
    {channel channel' : Channel α} {event : ClientEvent}
    (hstep : channel.clientStep env event = some channel') (g : ℕ) :
    (channel'.links g).bind Link.serverEnd = (channel.links g).bind Link.serverEnd := by
  -- two kinds of events change a connection, and they change what is on the way
  have hlink : ∀ {g' : ℕ} {link link' : Link}, channel.links g' = some link →
      link'.serverEnd = link.serverEnd →
        (Function.update channel.links g' (some link') g).bind Link.serverEnd =
          (channel.links g).bind Link.serverEnd := by
    intro g' link link' hlink hsame
    by_cases hg : g = g'
    · rw [hg, Function.update_self, hlink]
      exact hsame
    · rw [Function.update_of_ne hg]
  cases Channel.clientStep_cases hstep with
  | read g' count error hat => exact hlink hat rfl
  | transfer i count hwrite hat => exact hlink hat rfl
  | call | resolved | connected | written | posted => rfl

/-- A connection that comes up has no session yet. -/
theorem Channel.established_serverEnd {α : Type} {channel : Channel α} {g : ℕ}
    (hnew : channel.links g = none) (g' : ℕ) :
    (Function.update channel.links g (some {}) g').bind Link.serverEnd =
      (channel.links g').bind Link.serverEnd := by
  by_cases hg : g' = g
  · rw [hg, Function.update_self, hnew]
    rfl
  · rw [Function.update_of_ne hg]

end ClientStep

/-! ## The whole system -/

/-- Whatever a read of the current connection can bring next, a client does not object to it. -/
def Channel.ReadsProcessed {α : Type} (env : ClientEnvironment α) (channel : Channel α) : Prop :=
  ∀ g link count error, channel.links g = some link → g ∈ channel.client.readsOutstanding →
    Readable link.downstream NetworkClient.receiveBufferSize count error →
    channel.client.isCurrentOperation g .connected = true →
      (((channel.client.retireRead g).processReceivedData env (link.downstream.next count) g
        channel.application).get (NetworkClient.processReceivedData_inBounds ..)).1 = true

/-- A system in which nobody has violated the protocol, and nobody can at the next step. The
attempts of client `n` start with the game states of `start n`. -/
structure Arena.Sound (start : ℕ → ClientGameState → Prop) (clock : ℕ → ℕ → UInt64) (t : Arena K) :
    Prop where
  world : World clock t.server t.channels
  following : ∀ n, Following (start n) (clock n) 0 (GoodDelivery t.server n) (t.channels n).client
    (t.channels n).application

section Sound

variable {start : ℕ → ClientGameState → Prop} {clock : ℕ → ℕ → UInt64} {t : Arena K}

theorem Arena.sound_initial : Arena.Sound start clock (Arena.initial : Arena K) :=
  ⟨world_initial, fun _ => following_initial⟩

omit [Field K] [LinearOrder K] in
/-- Sessions keep their players. -/
theorem GoodDelivery.mono {s s' : Server K SessionRef} {n : ℕ} {delivery : Delivery}
    (h : GoodDelivery s n delivery)
    (hassigned : ∀ session player, s.assigned session = some player →
      s'.assigned session = some player) : GoodDelivery s' n delivery := by
  obtain ⟨id, player, localPlayer, hplayer, hshown⟩ := h.shown
  exact ⟨h.applied, id, player, localPlayer, hassigned _ _ hplayer, hshown⟩

/-- The server moves, and the clients stand still. -/
theorem Arena.Sound.moves (h : t.Sound start clock) {s' : Server K SessionRef}
    {channels' : Channels}
    (hworld : World clock s' channels') (hmoves : Moves t.server s' t.channels channels') :
    Arena.Sound start clock ⟨s', channels'⟩ where
  world := hworld
  following n := by
    rw [hmoves.client n, hmoves.application n]
    exact (h.following n).mono fun delivery hgood => hgood.mono hmoves.assigned

/-- **A client moves**, and the server may move with one of its sessions. -/
theorem Arena.Sound.setChannel (h : t.Sound start clock) {s' : Server K SessionRef} {n : ℕ}
    {channel : Channel ClientApplication} (hinOrder : channel.InOrder) (hseated : s'.Seated)
    (hlater : Later t.server s') (hassigned : s'.assigned = t.server.assigned)
    (hends : ∀ g, EndKept (clock n) channel.client.clockReads s' n g (t.channels.sessionAt n g)
      ((channel.links g).bind Link.serverEnd))
    (hfollowing : Following (start n) (clock n) (t.channels n).client.clockReads
      (GoodDelivery t.server n) channel.client channel.application) :
    ({ t with server := s' }.setChannel n channel).Sound start clock := by
  have hmono : ∀ n' delivery, GoodDelivery t.server n' delivery → GoodDelivery s' n' delivery :=
    fun n' delivery hgood => hgood.mono fun session player hplayer => by
      rw [hassigned, hplayer]
  constructor
  · show World clock s' (Function.update t.channels n channel)
    refine h.world.change (fun n' => ?_) hseated hlater hassigned (fun n' => ?_) fun n' g' => ?_
    · by_cases hn : n' = n
      · rw [hn, Function.update_self]
        exact hinOrder
      · rw [Function.update_of_ne hn]
        exact h.world.inOrder n'
    · by_cases hn : n' = n
      · rw [hn, Function.update_self]
        exact hfollowing.clockReads
      · rw [Function.update_of_ne hn]
    · rw [Channels.sessionAt_update]
      by_cases hn : n' = n
      · subst hn
        rw [if_pos rfl, Function.update_self]
        exact hends g'
      · rw [if_neg hn]
        exact .same
  · intro n'
    show Following _ _ _ _ (Function.update t.channels n channel n').client
      (Function.update t.channels n channel n').application
    by_cases hn : n' = n
    · subst hn
      rw [Function.update_self]
      exact (hfollowing.anytime).mono (hmono n')
    · rw [Function.update_of_ne hn]
      exact (h.following n').mono (hmono n')

/-- A client moves by itself. -/
theorem Arena.Sound.client (h : t.Sound start clock) {n : ℕ} {channel : Channel ClientApplication}
    (hinOrder : channel.InOrder)
    (hends : ∀ g, (channel.links g).bind Link.serverEnd = t.channels.sessionAt n g)
    (hfollowing : Following (start n) (clock n) (t.channels n).client.clockReads
      (GoodDelivery t.server n) channel.client channel.application) :
    (t.setChannel n channel).Sound start clock := by
  refine h.setChannel hinOrder h.world.seated (.refl _) rfl (fun g => ?_) hfollowing
  rw [hends]
  exact .same

/-- **A client can process** whatever reaches it next. -/
theorem Arena.Sound.readsProcessed (h : t.Sound start clock)
    (hclock : ∀ n i j, i ≤ j → clock n i ≤ clock n j) (n : ℕ) :
    (t.channels n).ReadsProcessed (ClientApplication.environment (clock n)) := by
  intro g link count error hlink hread hreadable hcurrent
  simp only [NetworkClient.isCurrentOperation, Bool.and_eq_true, beq_iff_eq] at hcurrent
  obtain ⟨rfl, hconnected⟩ := hcurrent
  have hinOrder := h.world.inOrder n
  obtain ⟨todo, hsplit, hbytes⟩ := hinOrder.unread hlink hread count
  have hretired : Following (start n) (clock n) 0 (GoodDelivery t.server n)
      ((t.channels n).client.retireRead (t.channels n).client.connectionGeneration)
      (t.channels n).application :=
    (h.following n).untouched (NetworkClient.untouched_queues _ ..)
  exact hretired.processReceivedData hconnected (hinOrder.written hlink).2
    (h.world.takeable n _ (hclock n)) hsplit (hbytes hconnected rfl) _

variable [HasSqrt K] [IsStrictOrderedRing K]

/-- **A session moves**, and the server with it. -/
theorem Arena.Sound.serverStep (h : t.Sound start clock) {n g : ℕ} {event : ServerEvent}
    (hevent : isHonest (.server g event) = true) {channel : Channel ClientApplication}
    {s' : Server K SessionRef}
    (hstep : Channel.step (ClientApplication.environment (clock n)) Server.callbacks
      (t.channels n, t.server) (.server g event) = some (channel, s')) :
    ({ t with server := s' }.setChannel n channel).Sound start clock ∧
      s'.serverTick = t.server.serverTick := by
  have hinOrder : channel.InOrder := (h.world.inOrder n).step hstep
  simp only [Channel.step] at hstep
  split at hstep
  · cases hstep
  next link hlink =>
  split at hstep
  · cases hstep
  next server hserver =>
  obtain ⟨⟨link', s₁⟩, hone, hmoved⟩ := Option.map_eq_some_iff.mp hstep
  cases hmoved
  have hrequests : ∀ m ∈ (t.channels n).client.acceptedIn g,
      NetworkClient.IsRequest (clock n) (t.channels n).client.clockReads m := by
    intro m hm
    obtain ⟨p, hp, rfl⟩ := List.mem_map.mp hm
    exact (h.following n).requests p (List.mem_of_mem_filter hp)
  obtain ⟨session, hsession, hwork⟩ := h.world.serverStep hlink hserver hrequests hevent hone
  have hat : t.channels.sessionAt n g = some server :=
    Channels.sessionAt_eq_some.mpr ⟨link, hlink, hserver⟩
  refine ⟨h.setChannel hinOrder hwork.seated hwork.later hwork.unchanged (fun g' => ?_)
    (h.following n).now, hwork.serverTick⟩
  show EndKept _ _ _ _ _ _ ((Function.update (t.channels n).links g (some link') g').bind _)
  by_cases hg : g' = g
  · subst hg
    rw [Function.update_self, Option.bind_some, hsession, hat]
    refine .changed hwork.id ?_
    rw [hwork.id, hwork.unchanged]
    exact hwork.honest
  · rw [Function.update_of_ne hg]
    exact .same

end Sound

/-! ## Counting ticks -/

section Ticks

variable {ρ ω : Type} [SessionObject ρ] [DecidableEq ρ] (objects : SessionObjects ρ ω)

omit [LinearOrder K] [DecidableEq ρ] in
theorem serverTick_stopSession (session : ρ) (s : Server K ρ) (w : ω) :
    (s.stopSession objects session w).1.serverTick = s.serverTick := by
  unfold Server.stopSession
  dsimp only
  split
  · rfl
  · rfl

omit [LinearOrder K] [DecidableEq ρ] in
theorem serverTick_closeAll (entries : List (SessionId × ρ)) (s : Server K ρ) (w : ω) :
    (s.closeAll objects entries w).1.serverTick = s.serverTick := by
  induction entries generalizing s w with
  | nil => rfl
  | cons entry entries ih => exact (ih _ _).trans (serverTick_stopSession objects entry.2 s w)

omit [LinearOrder K] [DecidableEq ρ] in
theorem serverTick_stop (s : Server K ρ) (w : ω) :
    (s.stop objects w).1.serverTick = s.serverTick := by
  unfold Server.stop
  split
  · rfl
  · exact serverTick_closeAll objects ..

omit [LinearOrder K] in
theorem serverTick_enterDefaultRoom (session : ρ) (s : Server K ρ) (w : ω) :
    (s.enterDefaultRoom objects session w).2.1.serverTick = s.serverTick := by
  unfold Server.enterDefaultRoom
  dsimp only
  split
  · rfl
  split
  · rfl
  split
  · rfl
  · rfl

omit [LinearOrder K] in
theorem serverTick_handleAccept (s : Server K ρ) (w : ω) :
    (s.handleAccept objects w).1.serverTick = s.serverTick := by
  unfold Server.handleAccept
  split
  · rfl
  dsimp only
  split
  · rfl
  split
  · exact serverTick_enterDefaultRoom objects ..
  · rw [serverTick_stopSession, serverTick_enterDefaultRoom]

theorem serverTick_handleTick [IsStrictOrderedRing K] [FloorRing K] [HasSqrt K]
    (toFloat : K → FloatBits) (deltaSeconds : K) (s : Server K ρ) (w : ω) :
    (s.handleTick objects toFloat deltaSeconds w).1.serverTick.toNat ≤ s.serverTick.toNat + 1 := by
  have hticked : ∀ (s : Server K ρ) deltaSeconds,
      (s.tickDefaultRoom objects toFloat deltaSeconds w).1.serverTick = s.serverTick := by
    intro s deltaSeconds
    unfold Server.tickDefaultRoom
    dsimp only
    split
    · rfl
    · rfl
  unfold Server.handleTick
  split
  · exact Nat.le_succ _
  · dsimp only
    rw [hticked, UInt64.toNat_add]
    exact Nat.mod_le _ _

end Ticks

/-! ## Runs -/

section Runs

variable [IsStrictOrderedRing K] [FloorRing K] [HasSqrt K] {start : ℕ → ClientGameState → Prop}
  {clock : ℕ → ℕ → UInt64} {toFloat : K → FloatBits} {t t' : Arena K}

/-- **Every step** keeps the system sound, and only a tick counts. -/
theorem Arena.Sound.step (h : t.Sound start clock) (hclock : ∀ n i j, i ≤ j → clock n i ≤ clock n j)
    {event : ArenaEvent K}
    (hticks : event.isTick = true → t.server.serverTick.toNat + 1 < 2 ^ 64)
    (hstart : ∀ n call, event = .channel n (.client (.call call)) → isConnect call = true →
      (t.channels n).client.connectionState = .disconnected →
        start n (t.channels n).application.clientGameState)
    (hstep : Arena.step clock toFloat t event = some t') :
    t'.Sound start clock ∧ t'.server.serverTick.toNat ≤
      t.server.serverTick.toNat + if event.isTick then 1 else 0 := by
  cases Arena.step_cases hstep with
  | client n event hevent hclient =>
      have hfollowing := h.world.clientStep (hclock n) (h.following n).now hevent
        (fun call hcall => hstart n call (hcall ▸ rfl)) hclient
      exact ⟨h.client ((h.world.inOrder n).clientStep _ hclient)
        (Channel.clientStep_serverEnd hclient) hfollowing, Nat.le_refl _⟩
  | established n g hnew =>
      exact ⟨h.client ((h.world.inOrder n).established hnew) (Channel.established_serverEnd hnew)
        (h.following n).now, Nat.le_refl _⟩
  | server n g event hevent hserver =>
      obtain ⟨hsound, htick⟩ := h.serverStep hevent hserver
      exact ⟨hsound, (congrArg UInt64.toNat htick).le⟩
  | update n keys =>
      have hinOrder := (h.world.inOrder n).withClient
        (ClientApplication.update (clock n) keys (t.channels n).client (t.channels n).application).2
        ((NetworkClient.sendSide_survives _).update (clock n) keys (h.world.inOrder n).sends
          (t.channels n).application)
        ((NetworkClient.receiveSide_survives _).update (clock n) keys
          (h.world.inOrder n).receives _)
      exact ⟨h.client hinOrder (fun _ => rfl) ((h.following n).now.update keys), Nat.le_refl _⟩
  | shutdown n =>
      have hinOrder := (h.world.inOrder n).withClient
        (ClientApplication.shutdown (t.channels n).client (t.channels n).application).2
        ((NetworkClient.sendSide_survives _).shutdown (h.world.inOrder n).sends
          (t.channels n).application)
        ((NetworkClient.receiveSide_survives _).shutdown (h.world.inOrder n).receives _)
      exact ⟨h.client hinOrder (fun _ => rfl) (h.following n).now.shutdown, Nat.le_refl _⟩
  | accept n g hlink hnew =>
      obtain ⟨hworld, hmoves⟩ := h.world.handleAccept hlink hnew
      exact ⟨h.moves hworld hmoves,
        (congrArg UInt64.toNat (serverTick_handleAccept (sessionObjects n g) ..)).le⟩
  | tick deltaSeconds =>
      obtain ⟨hworld, hmoves⟩ := h.world.handleTick 0 0 toFloat deltaSeconds (hticks rfl)
      exact ⟨h.moves hworld hmoves, serverTick_handleTick (sessionObjects 0 0) toFloat ..⟩
  | stop =>
      obtain ⟨hworld, hmoves⟩ := h.world.stop 0 0
      exact ⟨h.moves hworld hmoves,
        (congrArg UInt64.toNat (serverTick_stop (sessionObjects 0 0) ..)).le⟩

/-- **Every run** of fewer than 2^64 ticks keeps the system sound. -/
theorem Arena.sound_of_run (hclock : ∀ n i j, i ≤ j → clock n i ≤ clock n j)
    {events : List (ArenaEvent K)} (hticks : events.countP ArenaEvent.isTick < 2 ^ 64)
    (hrun : runFrom (Arena.step clock toFloat) Arena.initial events = some t) :
    t.Sound (fun _ _ => True) clock := by
  have hinv : events.countP ArenaEvent.isTick < 2 ^ 64 →
      t.Sound (fun _ _ => True) clock ∧
        t.server.serverTick.toNat ≤ events.countP ArenaEvent.isTick := by
    refine runFrom_induction_events (P := fun events t => events.countP ArenaEvent.isTick < 2 ^ 64 →
      t.Sound (fun _ _ => True) clock ∧
        t.server.serverTick.toNat ≤ events.countP ArenaEvent.isTick) ?_ ?_ hrun
    · exact fun _ => ⟨Arena.sound_initial, Nat.le_refl 0⟩
    · intro events t event t' ih hstep hticks
      rw [List.countP_append, List.countP_singleton] at hticks ⊢
      obtain ⟨hsound, hcounted⟩ := ih (by omega)
      have hnext : event.isTick = true → t.server.serverTick.toNat + 1 < 2 ^ 64 := by
        intro htick
        rw [if_pos htick] at hticks
        omega
      obtain ⟨hsound', hcounted'⟩ := hsound.step hclock hnext (fun _ _ _ _ _ => trivial) hstep
      exact ⟨hsound', by omega⟩
  exact (hinv hticks).1

/-- **Honest peers never violate the protocol.** In every run of fewer than 2^64 ticks no session
and no client ever prints that it was sent something wrong, whatever a client reads next is
processed without an objection, the first message queued on the session of a player tells the client
who it is, and every snapshot delivered was applied and shows the player on the side the room
assigned to it. (On every client `Connect` and `Disconnect` succeed fewer than 2^64 times, see
`NetworkClient.Counts`.) -/
theorem honest_peers_never_violate (clock : ℕ → ℕ → UInt64) (toFloat : K → FloatBits)
    (hclock : ∀ n i j, i ≤ j → clock n i ≤ clock n j) (events : List (ArenaEvent K))
    (hticks : events.countP ArenaEvent.isTick < 2 ^ 64) (t : Arena K)
    (hrun : runFrom (Arena.step clock toFloat) Arena.initial events = some t) :
    (∀ n g server, t.channels.sessionAt n g = some server → server.session.violations = []) ∧
    (∀ n, (t.channels n).client.violations = [] ∧
      (t.channels n).ReadsProcessed (ClientApplication.environment (clock n))) ∧
    (∀ session player, t.server.assigned session = some player → ∃ server,
      t.channels.sessionAt session.client session.generation = some server ∧
        server.session.id = session.id ∧
        server.session.accepted.head? = some (identityMessage player.1)) ∧
    ∀ n, ∀ delivery ∈ (t.channels n).application.deliveries, GoodDelivery t.server n delivery := by
  have hsound := Arena.sound_of_run hclock hticks hrun
  refine ⟨fun n g server hserver => (hsound.world.ends n g server hserver).violations,
    fun n => ⟨(hsound.following n).violations, hsound.readsProcessed hclock n⟩, ?_,
    fun n => (hsound.following n).deliveries⟩
  intro session player hplayer
  obtain ⟨server, hserver, hid⟩ := hsound.world.known session player hplayer
  have hend := hsound.world.ends session.client session.generation server hserver
  rw [hid] at hend
  obtain ⟨replies, haccepted, -⟩ := (hend.script player hplayer).replies
  exact ⟨server, hserver, hid, by rw [haccepted]; rfl⟩

/-- A client connects, learns who it is, and is shown the room. -/
def firstSnapshot : List (ArenaEvent ℚ) := [
  .channel 0 (.client (.call (.connect "localhost" 7777 {}))),
  .channel 0 (.client (.resolved 1 none)), .channel 0 (.established 1),
  .channel 0 (.client (.connected 1 none)), .accept 0 1,
  .channel 0 (.server 1 (.transfer 0 12)), .channel 0 (.client (.read 1 12 none)),
  .channel 0 (.client (.posted 0)), .channel 0 (.server 1 (.written 0 none)), .tick (1 / 60),
  .channel 0 (.server 1 (.transfer 0 62)), .channel 0 (.client (.read 1 40 none)),
  .channel 0 (.client (.read 1 22 none)), .channel 0 (.client (.posted 0))]

/-- The theorem on a run in which a snapshot is delivered. -/
theorem honest_peers_never_violate_firstSnapshot :
    ∃ t, runFrom (Arena.step (fun _ _ => 0) nearestFloat) Arena.initial firstSnapshot = some t ∧
      ∃ delivery ∈ (t.channels 0).application.deliveries, GoodDelivery t.server 0 delivery := by
  have hlength : (runFrom (Arena.step (fun _ _ => 0) nearestFloat) Arena.initial firstSnapshot).map
      (fun t => (t.channels 0).application.deliveries.length) = some 1 := by decide +kernel
  obtain ⟨t, hrun, hone⟩ := Option.map_eq_some_iff.mp hlength
  obtain ⟨delivery, hdelivery⟩ := List.length_eq_one_iff.mp hone
  obtain ⟨-, -, -, hgood⟩ := honest_peers_never_violate (fun _ _ => 0) nearestFloat
    (fun _ _ _ _ => UInt64.le_refl 0) firstSnapshot (by decide) t hrun
  exact ⟨t, hrun, delivery, by simp [hdelivery], hgood 0 delivery (by simp [hdelivery])⟩

end Runs

end NetworkArena.System
