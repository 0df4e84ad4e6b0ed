/-
# NetworkArena.System.Holding -- what an application holds

What `Update` relies on: the input it sent last is the last one its connection has accepted, the
snapshot it has is truthful, and an `Update` that no input was refused in, behind a snapshot of the
running game, leaves the current input equal to the one sent last (`Holding`). The application is
the only one to call its client here, so a connection that is lost is also forgotten.

`Happens` says what an event can do to a client and its application, `Update` apart.
-/
import NetworkArena.System.Protocol
import NetworkArena.System.Steering

namespace NetworkArena.System

open NetworkArena.Foundation
open NetworkArena.Shared
open NetworkArena.Server
open NetworkArena.Client

variable {K : Type}

/-! ## What happens to a client -/

/-- The connection goes on, and nothing is sent. -/
structure Idle (c c' : NetworkClient) : Prop where
  generation : c'.connectionGeneration = c.connectionGeneration
  state : c'.connectionState = .disconnected ↔ c.connectionState = .disconnected
  accepted : c'.accepted = c.accepted

/-- Connections are not taken up again, and nothing that was sent is taken back. -/
structure Advances (c c' : NetworkClient) : Prop where
  generation : c.connectionGeneration ≤ c'.connectionGeneration
  state : c'.connectionGeneration = c.connectionGeneration →
    c'.connectionState ≠ .disconnected → c.connectionState ≠ .disconnected
  accepted : c.accepted <+: c'.accepted

/-- What an event does to a client and its application. -/
inductive Happens (start : ClientGameState → Prop) (c : NetworkClient) (a : ClientApplication) :
    NetworkClient → ClientApplication → Prop
  | idle {c' : NetworkClient} (h : Idle c c') : Happens start c a c' a
  | lost {c' : NetworkClient} (hstate : c'.connectionState = .disconnected)
      (hgeneration : c.connectionGeneration ≤ c'.connectionGeneration)
      (haccepted : c'.accepted = c.accepted) : Happens start c a c' a.forget
  | connects {c' : NetworkClient} (hbefore : c.connectionState = .disconnected)
      (hgeneration : c'.connectionGeneration = c.connectionGeneration + 1)
      (haccepted : c'.accepted = c.accepted) : Happens start c a c' a
  | told {c' : NetworkClient} {delivered : List Invocation} {invocation : Invocation}
      (h : Idle c c') (hopen : c.connectionState ≠ .disconnected)
      (hasked : delivered ++ [invocation] <+:
        (c.dispatchedIn c.connectionGeneration).filterMap invocationOf)
      (hstate : ∃ g₀, start g₀ ∧ a.clientGameState = delivered.foldl ClientGameState.receive g₀) :
      Happens start c a c' (a.handle c.connectionGeneration invocation)

section Happens

variable {start : ClientGameState → Prop} {c c' c'' : NetworkClient} {a a' : ClientApplication}

theorem Idle.refl (c : NetworkClient) : Idle c c := ⟨rfl, Iff.rfl, rfl⟩

theorem Idle.trans (h : Idle c c') (h' : Idle c' c'') : Idle c c'' :=
  ⟨h'.generation.trans h.generation, h'.state.trans h.state, h'.accepted.trans h.accepted⟩

theorem idle_untouched (h : NetworkClient.Untouched c c') : Idle c c' :=
  ⟨h.generation, by rw [h.state], h.accepted⟩

theorem Idle.advances (h : Idle c c') : Advances c c' :=
  ⟨h.generation.ge, fun _ hopen hclosed => hopen (h.state.mpr hclosed), by rw [h.accepted]⟩

theorem Advances.trans (h : Advances c c') (h' : Advances c' c'') : Advances c c'' where
  generation := h.generation.trans h'.generation
  state hsame hopen := by
    have hfirst := h.generation
    have hlast := h'.generation
    exact h.state (by omega) (h'.state (by omega) hopen)
  accepted := h.accepted.trans h'.accepted

theorem Happens.advances (h : Happens start c a c' a') : Advances c c' := by
  cases h with
  | idle h => exact h.advances
  | lost hstate hgeneration haccepted =>
      exact ⟨hgeneration, fun _ hopen => absurd hstate hopen, by rw [haccepted]⟩
  | connects hbefore hgeneration haccepted =>
      exact ⟨by omega, fun hsame => by omega, by rw [haccepted]⟩
  | told h hopen hasked hstate => exact h.advances

theorem happens_connect (c : NetworkClient) (a : ClientApplication) (host : String) (port : UInt16)
    (callbacks : SuppliedCallbacks) : Happens start c a (c.connect host port callbacks).2 a := by
  unfold NetworkClient.connect
  split
  · exact .idle (.refl c)
  next hclosed =>
  split
  · exact .idle (.refl c)
  · exact .connects (by simpa using hclosed) rfl rfl

/-- The calls of an application only advance its client. -/
theorem advances_survives (c : NetworkClient) : NetworkClient.Survives (Advances c) where
  connect {c'} host port callbacks h := by
    have hconnect : Happens (fun _ => True) c' {} (c'.connect host port callbacks).2 {} :=
      happens_connect ..
    exact h.trans hconnect.advances
  disconnect {c'} h := by
    by_cases hclosed : c'.connectionState = .disconnected
    · rw [NetworkClient.disconnect_disconnected hclosed]
      exact h
    · obtain ⟨hstate, hgeneration, -, -, haccepted, -⟩ := NetworkClient.lost_disconnect hclosed
      exact h.trans ⟨hgeneration, fun _ hopen => absurd hstate hopen, by rw [haccepted]⟩
  send {c'} type payload h := by
    obtain ⟨hundisturbed, hstate, -, -, haccepted⟩ :=
      NetworkClient.send_undisturbed c' type payload
    refine h.trans ⟨hundisturbed.generation.ge, fun _ hopen => hstate ▸ hopen, ?_⟩
    rw [haccepted]
    exact List.prefix_append _ _
  report _ h := ⟨h.generation, h.state, h.accepted⟩
  readClock _ h := ⟨h.generation, h.state, h.accepted⟩
  invocations _ h := ⟨h.generation, h.state, h.accepted⟩

/-- After a change that does not count. -/
theorem Happens.after (h : Happens start c' a c'' a') (hidle : Idle c c')
    (hdispatched : c'.dispatched = c.dispatched) : Happens start c a c'' a' := by
  cases h with
  | idle h => exact .idle (hidle.trans h)
  | lost hstate hgeneration haccepted =>
      exact .lost hstate (hidle.generation ▸ hgeneration) (haccepted.trans hidle.accepted)
  | connects hbefore hgeneration haccepted =>
      exact .connects (hidle.state.mp hbefore) (by rw [hgeneration, hidle.generation])
        (haccepted.trans hidle.accepted)
  | told h hopen hasked hstate =>
      rw [hidle.generation]
      rw [NetworkClient.dispatchedIn, hdispatched, hidle.generation] at hasked
      exact .told (hidle.trans h) (fun hclosed => hopen (hidle.state.mpr hclosed)) hasked hstate

theorem happens_lost (h : NetworkClient.Lost c c') : Happens start c a c' a.forget :=
  .lost h.state h.generation h.accepted

theorem happens_completion {clock : ℕ → UInt64} {reported : Option ErrorCode}
    (h : NetworkClient.Completion (ClientApplication.environment clock) reported c a c' a') :
    Happens start c a c' a' := by
  cases h with
  | untouched h => exact .idle (idle_untouched h)
  | resolved h hbefore hstate hfailed haccepted =>
      refine .idle ⟨h.generation, ?_, haccepted⟩
      rw [hstate, hbefore]
      exact ⟨nofun, nofun⟩
  | connected h hbefore hstate haccepted ha =>
      have hsame : a' = a := by
        rcases ha with hsame | ⟨c₁, hinvoked⟩
        · exact hsame
        · exact hinvoked
      rw [hsame]
      refine .idle ⟨h.generation, ?_, haccepted⟩
      rw [hstate, hbefore]
      exact ⟨nofun, nofun⟩
  | failed h hdisconnections ha =>
      obtain ⟨error, c₁, ha⟩ := ha
      rw [show a' = a.forget from ha]
      exact happens_lost h
  | ended error herror h =>
      obtain ⟨c₁, ha⟩ := h.application
      rw [show a' = a.forget from ha]
      exact happens_lost h.toLost

theorem happens_shutdown (c : NetworkClient) (a : ClientApplication) :
    Happens start c a (ClientApplication.shutdown c a).1 (ClientApplication.shutdown c a).2 := by
  unfold ClientApplication.shutdown
  dsimp only
  split
  · next hopen => exact happens_lost (NetworkClient.lost_disconnect (by simpa using hopen))
  · next hclosed => exact .lost (by simpa using hclosed) (Nat.le_refl _) rfl

theorem idle_readTo {clock : ℕ → UInt64} {received : List UInt8} {verdict : Verdict}
    (h : NetworkClient.ReadTo (ClientApplication.environment clock) c received a verdict c') :
    Idle c c' := by
  rcases h with ⟨-, -, rfl⟩ | ⟨-, huntouched⟩
  · exact .refl c'
  · have hbuffered : Idle c { c with accumulatedBuffer := c.accumulatedBuffer ++ received } :=
      ⟨rfl, Iff.rfl, rfl⟩
    obtain ⟨hsame, -⟩ := NetworkClient.drain_frame (ClientApplication.environment clock)
      (c.accumulatedBuffer ++ received)
      { c with accumulatedBuffer := c.accumulatedBuffer ++ received } a
    have hdrained := Idle.mk hsame.generation (by rw [hsame.state]) hsame.accepted
    exact hbuffered.trans (hdrained.trans (idle_untouched huntouched))

/-- A read of a client that is subscribed to the end. -/
theorem happens_read {clock : ℕ → UInt64} {received : List UInt8} {g : ℕ}
    (hsubscribed : ∀ verdict c₁, c.isCurrentOperation g .connected = true →
      NetworkClient.ReadTo (ClientApplication.environment clock) c received a verdict c₁ →
        NetworkClient.Subscribed c₁) (error : Option ErrorCode) :
    Happens start c a (c.handleRead (ClientApplication.environment clock) error received g a).1
      (c.handleRead (ClientApplication.environment clock) error received g a).2 := by
  rcases NetworkClient.handleRead_cases (ClientApplication.environment clock) error received g c a
    with hlate | ⟨hcurrent, verdict, c₁, hread, hafter⟩
  · rw [hlate]
    exact .idle (.refl c)
  have hidle := idle_readTo hread
  rcases hafter with ⟨-, -, hnext⟩ | ⟨e, -, hend⟩
  · rw [hnext]
    exact .idle (hidle.trans (idle_untouched (NetworkClient.untouched_readNext c₁ g)))
  · rw [hend]
    by_cases hstill : c₁.isCurrentOperation g .connected = true
    · have hended := NetworkClient.completeDisconnection_ended (quiet_environment clock)
        (hsubscribed verdict c₁ hcurrent hread) hstill e a
      obtain ⟨c₂, ha⟩ := hended.application
      rw [show _ = a.forget from ha]
      exact .lost hended.state (hidle.generation ▸ hended.generation)
        (hended.accepted.trans hidle.accepted)
    · rw [NetworkClient.completeDisconnection_late hstill]
      exact .idle hidle

/-- **A posted callback.** -/
theorem happens_posted {clock : ℕ → UInt64} (h : c.Delivering start a.clientGameState)
    {p : PostedCallback} {rest : List PostedCallback} (hposted : c.posted = p :: rest) :
    Happens start c a
      ((c.retirePosted 0).handlePosted (ClientApplication.environment clock) p a).1
      ((c.retirePosted 0).handlePosted (ClientApplication.environment clock) p a).2 := by
  obtain ⟨invocations, hhandled⟩ := NetworkClient.handlePosted_eq clock hposted a
  rw [hhandled]
  have hidle : Idle c { c with posted := rest, invocations := invocations } := ⟨rfl, Iff.rfl, rfl⟩
  by_cases hcurrent : c.isCurrentOperation p.generation .connected = true
  · rw [if_pos hcurrent]
    simp only [NetworkClient.isCurrentOperation, Bool.and_eq_true, beq_iff_eq] at hcurrent
    have hopen : c.connectionState ≠ .disconnected := by simp [hcurrent.2]
    obtain ⟨delivered, hdelivered⟩ := h.delivered hopen
    exact .told hidle hopen (hdelivered.next hposted hcurrent.1 invocations).1 hdelivered.gameState
  · rw [if_neg hcurrent]
    exact .idle hidle

end Happens

/-- **What an event does to a client** whose application only connects. -/
theorem World.clientStep_happens [Field K] [LinearOrder K] {clock : ℕ → ℕ → UInt64}
    {s : Server K SessionRef} {channels : Channels} {n reads : ℕ} {start : ClientGameState → Prop}
    {good : Delivery → Prop} (h : World clock s channels)
    (hclock : ∀ i j, i ≤ j → clock n i ≤ clock n j)
    (hfollowing : Following start (clock n) reads good (channels n).client
      (channels n).application) {event : ClientEvent}
    (hevent : isHonest (.client event) = true)
    (hcalls : ∀ call, event = .call call → isConnect call = true)
    {channel : Channel ClientApplication}
    (hstep : (channels n).clientStep (ClientApplication.environment (clock n)) event =
      some channel) :
    Happens start (channels n).client (channels n).application channel.client
      channel.application := by
  have hquiet := quiet_environment (clock n)
  cases Channel.clientStep_cases hstep with
  | call call =>
      cases call with
      | connect host port callbacks => exact happens_connect ..
      | disconnect | send _ | sendPing | sendPlayerInput _ => cases hcalls _ rfl
  | resolved g error =>
      have hretired := hfollowing.delivering.subscribed.of_untouched
        (NetworkClient.untouched_retireResolve _ g)
      exact (happens_completion (NetworkClient.handleResolve_completion hquiet hretired error g
        _)).after ⟨rfl, Iff.rfl, rfl⟩ rfl
  | connected g error =>
      have hretired := hfollowing.delivering.subscribed.of_untouched
        (NetworkClient.untouched_retireConnect _ g)
      exact (happens_completion (NetworkClient.handleConnect_completion hquiet hretired error g
        _)).after ⟨rfl, Iff.rfl, rfl⟩ rfl
  | read g count error hlink hread =>
      have hretired : Following start (clock n) reads good
          ((channels n).client.retireRead g) (channels n).application :=
        hfollowing.untouched (NetworkClient.untouched_queues _ ..)
      obtain ⟨todo, hsplit, hbytes⟩ := (h.inOrder n).unread hlink hread count
      refine Happens.after (happens_read (fun verdict c₁ hcurrent hread => ?_) error)
        ⟨rfl, Iff.rfl, rfl⟩ rfl
      simp only [NetworkClient.isCurrentOperation, Bool.and_eq_true, beq_iff_eq] at hcurrent
      obtain ⟨hgeneration, hconnected⟩ := hcurrent
      have hgeneration : g = (channels n).client.connectionGeneration := hgeneration
      have hfollows := hretired.readTo hconnected ((h.inOrder n).written hlink).2
        (h.takeable n g hclock) (hgeneration ▸ hsplit) (hbytes hconnected hgeneration) hread
      exact hfollows.delivering.subscribed
  | transfer i count => exact .idle ⟨rfl, Iff.rfl, rfl⟩
  | written i error =>
      have huntouched : NetworkClient.Untouched (channels n).client
          ((channels n).client.retireWrite i) := NetworkClient.untouched_queues _ ..
      have hretired := hfollowing.delivering.subscribed.of_untouched huntouched
      exact (happens_completion (NetworkClient.handleWrite_completion hquiet hretired error
        _ _ _)).after ⟨rfl, Iff.rfl, rfl⟩ rfl
  | posted i hcallback =>
      obtain rfl : i = 0 := by simpa [isHonest] using hevent
      obtain ⟨rest, hposted⟩ :=
        List.head?_eq_some_iff.mp (List.head?_eq_getElem?.trans hcallback)
      exact happens_posted hfollowing.delivering hposted

/-! ## What an application is told -/

section Told

variable [Field K] [LinearOrder K] {clock : ℕ → ℕ → UInt64} {s : Server K SessionRef}
  {channels : Channels} {n : ℕ}

/-- The first callback of a connection brings the identity, and the others bring snapshots. -/
theorem World.told (h : World clock s channels) {g : ℕ} {delivered : List Invocation}
    {invocation : Invocation} (hasked : delivered ++ [invocation] <+:
      ((channels n).client.dispatchedIn g).filterMap invocationOf) :
    (delivered = [] ∧ ∃ identity, invocation = .playerIdentity identity) ∨
      ∃ snapshot, invocation = .worldStateSnapshot snapshot ∧ Truthful s snapshot := by
  have hscripted := hasked.trans (((h.inOrder n).delivers g).2.filterMap invocationOf)
  rcases h.accepted n g with hnone | ⟨id, player, -, hscript⟩
  · rw [hnone, List.filterMap_nil, List.prefix_nil] at hscripted
    simp at hscripted
  rw [hscript.invocations] at hscripted
  cases delivered with
  | nil =>
      obtain ⟨hfirst, -⟩ := List.cons_prefix_cons.mp hscripted
      exact Or.inl ⟨rfl, _, hfirst⟩
  | cons first delivered =>
      rw [List.cons_append, List.cons_prefix_cons] at hscripted
      obtain ⟨snapshot, hsnapshot, rfl⟩ := List.mem_map.mp
        (hscripted.2.subset (List.mem_append_right _ (List.mem_singleton_self _)))
      exact Or.inr ⟨snapshot, rfl, (hscript.snapshots_sound snapshot hsnapshot).truthful⟩

/-- **An application that knows who it is** is around a connected client, which knows it as well. -/
theorem World.identified (h : World clock s channels) {start : ClientGameState → Prop}
    (hstart : ∀ g, start g → g.playerIdentity = none) {a : ClientApplication}
    (hdelivering : (channels n).client.Delivering start a.clientGameState)
    (hopen : (channels n).client.connectionState ≠ .disconnected)
    (hknown : a.clientGameState.playerIdentity ≠ none) :
    (channels n).client.connectionState = .connected ∧
      (channels n).client.playerIdentity ≠ none := by
  obtain ⟨delivered, hasked, g₀, hbefore, hstate⟩ := hdelivering.delivered hopen
  have hdispatched : (channels n).client.dispatchedIn
      (channels n).client.connectionGeneration ≠ [] := by
    intro hnone
    rw [hnone, List.filterMap_nil, List.append_eq_nil_iff] at hasked
    rw [hasked.1] at hstate
    rw [show a.clientGameState = g₀ from hstate] at hknown
    exact hknown (hstart g₀ hbefore)
  constructor
  · by_contra hno
    have hopening : (channels n).client.connectionState = .resolving ∨
        (channels n).client.connectionState = .connecting := by
      cases hstate : (channels n).client.connectionState with
      | disconnected => exact absurd hstate hopen
      | resolving => exact Or.inl rfl
      | connecting => exact Or.inr rfl
      | connected => exact absurd hstate hno
    exact hdispatched ((h.inOrder n).receives.opening hopening).2.2.1
  · rw [hdelivering.identity hopen]
    obtain ⟨-, hscripted⟩ := (h.inOrder n).delivers (channels n).client.connectionGeneration
    rcases h.accepted n (channels n).client.connectionGeneration with
      hnone | ⟨id, player, -, hscript⟩
    · rw [hnone, List.prefix_nil] at hscripted
      exact absurd hscripted hdispatched
    · rw [hscript.lastIdentity hscripted hdispatched]
      nofun

end Told

/-! ## What an application holds -/

/-- What holds of an application that is the only one to call its client. -/
structure Holding (s : Server K SessionRef) (c : NetworkClient) (a : ClientApplication) : Prop where
  forgotten : c.connectionState = .disconnected → a.clientGameState.playerIdentity = none
  unknown : a.clientGameState.playerIdentity = none →
    a.clientGameState.worldState = none ∧ a.playingTick = none ∧ a.settledTick = none
  lastSent : c.connectionState ≠ .disconnected →
    lastInput (c.acceptedIn c.connectionGeneration) =
      if a.clientGameState.playerIdentity = none then {} else a.lastSentPlayerInput
  worldState : ∀ snapshot, a.clientGameState.worldState = some snapshot → Truthful s snapshot
  playingTick : ∀ tick, a.playingTick = some tick → ∃ snapshot,
    a.clientGameState.worldState = some snapshot ∧ tick.toNat ≤ snapshot.serverTick.toNat
  settledTick : ∀ tick, a.settledTick = some tick → tick.toNat ≤ s.serverTick.toNat ∧
    (s.room.gameState = .playing → s.gameStartTick.toNat < tick.toNat →
      a.currentPlayerInput = a.lastSentPlayerInput)

section Holding

variable {s s' : Server K SessionRef} {c c' : NetworkClient} {a : ClientApplication}

theorem holding_initial (s : Server K SessionRef) : Holding s {} {} :=
  ⟨fun _ => rfl, fun _ => ⟨rfl, rfl, rfl⟩, fun hopen => absurd rfl hopen, nofun, nofun, nofun⟩

/-- The server goes on, and a new game makes what was settled void. -/
theorem Holding.later (h : Holding s c a) (h' : Later s s') : Holding s' c a where
  forgotten := h.forgotten
  unknown := h.unknown
  lastSent := h.lastSent
  worldState snapshot hsnapshot := (h.worldState snapshot hsnapshot).later h'
  playingTick := h.playingTick
  settledTick tick htick := by
    obtain ⟨hpast, hsettled⟩ := h.settledTick tick htick
    refine ⟨hpast.trans h'.serverTick, fun hplaying hstart => ?_⟩
    rcases h'.running hplaying with ⟨hbefore, hsame⟩ | hnew
    · exact hsettled hbefore (hsame ▸ hstart)
    · omega

/-- Nothing happens, or no input is sent. -/
theorem Holding.sends (h : Holding s c a)
    (hgeneration : c'.connectionGeneration = c.connectionGeneration)
    (hstate : c'.connectionState = .disconnected ↔ c.connectionState = .disconnected)
    (hinputs : ∀ g, inputsOf (c'.acceptedIn g) = inputsOf (c.acceptedIn g)) : Holding s c' a where
  forgotten hclosed := h.forgotten (hstate.mp hclosed)
  unknown := h.unknown
  lastSent hopen := by
    rw [hgeneration, lastInput_congr (hinputs _)]
    exact h.lastSent fun hclosed => hopen (hstate.mpr hclosed)
  worldState := h.worldState
  playingTick := h.playingTick
  settledTick := h.settledTick

theorem Holding.idle (h : Holding s c a) (h' : Idle c c') : Holding s c' a :=
  h.sends h'.generation h'.state fun g => by
    rw [NetworkClient.acceptedIn, h'.accepted]
    rfl

theorem holding_lost (s : Server K SessionRef) (hstate : c.connectionState = .disconnected)
    (a : ClientApplication) : Holding s c a.forget :=
  ⟨fun _ => rfl, fun _ => ⟨rfl, rfl, rfl⟩, fun hopen => absurd hstate hopen, nofun, nofun, nofun⟩

/-- A new attempt starts with nothing sent. -/
theorem Holding.connects (h : Holding s c a) (hbefore : c.connectionState = .disconnected)
    {out : ℕ → List UInt8} (hsends : c.SendSide out)
    (hgeneration : c'.connectionGeneration = c.connectionGeneration + 1)
    (haccepted : c'.accepted = c.accepted) : Holding s c' a where
  forgotten _ := h.forgotten hbefore
  unknown := h.unknown
  lastSent _ := by
    have hnothing : c'.acceptedIn c'.connectionGeneration = [] := by
      rw [NetworkClient.acceptedIn, haccepted, hgeneration]
      exact (hsends.future (Nat.lt_succ_self _)).1
    rw [hnothing, if_pos (h.forgotten hbefore)]
    rfl
  worldState := h.worldState
  playingTick := h.playingTick
  settledTick := h.settledTick

/-- The application is told who it is, for the first time. -/
theorem Holding.identified (h : Holding s c a) (hopen : c.connectionState ≠ .disconnected)
    (hunknown : a.clientGameState.playerIdentity = none) (identity : PlayerIdentityPayload) :
    Holding s c (a.handlePlayerIdentity identity) := by
  unfold ClientApplication.handlePlayerIdentity
  rcases a.clientGameState.applyPlayerIdentity_cases identity with hno | hyes
  · rw [hno]
    exact h
  · rw [hyes]
    refine ⟨fun hclosed => absurd hclosed hopen, nofun, fun _ => ?_, nofun, nofun, nofun⟩
    have hnothing := h.lastSent hopen
    rw [if_pos hunknown] at hnothing
    rw [hnothing]
    rfl

/-- The application is brought a snapshot. -/
theorem Holding.worldStateSnapshot (h : Holding s c a) {snapshot : WorldStateSnapshot FloatBits}
    (htruthful : Truthful s snapshot) (generation : ℕ) :
    Holding s c (a.handleWorldStateSnapshot snapshot generation) := by
  unfold ClientApplication.handleWorldStateSnapshot
  rcases a.clientGameState.applyWorldStateSnapshot_cases snapshot with
    hno | ⟨hyes, ⟨identity, hidentity, -⟩, hnewer⟩
  · rw [hno]
    exact ⟨h.forgotten, h.unknown, h.lastSent, h.worldState, h.playingTick, h.settledTick⟩
  · rw [hyes]
    refine ⟨h.forgotten, ?_, h.lastSent, ?_, fun tick htick => ⟨snapshot, rfl, ?_⟩, h.settledTick⟩
    · intro hnone
      rw [show a.clientGameState.playerIdentity = none from hnone] at hidentity
      cases hidentity
    · intro snapshot' hsnapshot'
      cases hsnapshot'
      exact htruthful
    · -- an older tick is that of an older snapshot
      change (if snapshot.gamePlayState = .playing then some snapshot.serverTick
        else a.playingTick) = some tick at htick
      split at htick
      · cases htick
        exact Nat.le_refl _
      · obtain ⟨older, holder, hle⟩ := h.playingTick tick htick
        have hlt := UInt64.lt_iff_toNat_lt.mp (hnewer older holder)
        omega

/-- **A callback of the connection.** -/
theorem Holding.handle (h : Holding s c a) (hopen : c.connectionState ≠ .disconnected)
    {invocation : Invocation} (htold : (a.clientGameState.playerIdentity = none ∧
      ∃ identity, invocation = .playerIdentity identity) ∨
        ∃ snapshot, invocation = .worldStateSnapshot snapshot ∧ Truthful s snapshot)
    (generation : ℕ) : Holding s c (a.handle generation invocation) := by
  rcases htold with ⟨hunknown, identity, rfl⟩ | ⟨snapshot, rfl, htruthful⟩
  · exact h.identified hopen hunknown identity
  · exact h.worldStateSnapshot htruthful generation

/-- **Whatever happens**, `Update` apart, the application goes on holding. -/
theorem Holding.happens {start : ClientGameState → Prop}
    (hstart : ∀ g, start g → g.playerIdentity = none) (h : Holding s c a) {a' : ClientApplication}
    {out : ℕ → List UInt8} (hsends : c.SendSide out)
    (htold : ∀ delivered invocation, delivered ++ [invocation] <+:
      (c.dispatchedIn c.connectionGeneration).filterMap invocationOf →
        (delivered = [] ∧ ∃ identity, invocation = .playerIdentity identity) ∨
          ∃ snapshot, invocation = .worldStateSnapshot snapshot ∧ Truthful s snapshot)
    (h' : Happens start c a c' a') : Holding s c' a' := by
  cases h' with
  | idle hidle => exact h.idle hidle
  | lost hstate hgeneration haccepted => exact holding_lost s hstate a
  | connects hbefore hgeneration haccepted => exact h.connects hbefore hsends hgeneration haccepted
  | told hidle hopen hasked hstate =>
      obtain ⟨g₀, hbefore, hreceived⟩ := hstate
      refine (h.handle hopen ?_ _).idle hidle
      rcases htold _ _ hasked with ⟨hfirst, hidentity⟩ | hsnapshot
      · refine Or.inl ⟨?_, hidentity⟩
        rw [hreceived, hfirst]
        exact hstart g₀ hbefore
      · exact Or.inr hsnapshot

/-! ## `Update` -/

/-- A connection on which nothing but pings is sent. -/
structure Probed (c c' : NetworkClient) : Prop where
  generation : c'.connectionGeneration = c.connectionGeneration
  state : c'.connectionState = c.connectionState
  playerIdentity : c'.playerIdentity = c.playerIdentity
  inputs : ∀ g, inputsOf (c'.acceptedIn g) = inputsOf (c.acceptedIn g)

/-- What is sent on the current connection is accepted there. -/
theorem acceptedIn_send (c : NetworkClient) (type : MessageType) (payload : List UInt8) (g : ℕ) :
    (c.send type payload).2.acceptedIn g = c.acceptedIn g ++
      if (c.send type payload).1 = true ∧ c.connectionGeneration = g then [⟨type, payload⟩]
      else [] := by
  obtain ⟨-, -, -, -, haccepted⟩ := NetworkClient.send_undisturbed c type payload
  rw [NetworkClient.acceptedIn, haccepted, List.filter_append, List.map_append]
  congr 1
  by_cases hsent : (c.send type payload).1 = true
  · by_cases hg : c.connectionGeneration = g
    · simp [hsent, hg]
    · simp [hsent, hg]
  · simp [hsent]

theorem probed_sendPing (clock : ℕ → UInt64) (c : NetworkClient) :
    Probed c (c.sendPing clock).2 := by
  unfold NetworkClient.sendPing
  split
  · exact ⟨rfl, rfl, rfl, fun _ => rfl⟩
  · dsimp only
    rw [Checked.get_eq (encodePingPayload_eq _)]
    obtain ⟨hundisturbed, hstate, -⟩ := NetworkClient.send_undisturbed (c.readClock clock).2
      .ping (PingPayload.bytes ⟨clock c.clockReads⟩)
    refine ⟨hundisturbed.generation, hstate, hundisturbed.playerIdentity, fun g => ?_⟩
    refine (congrArg inputsOf (acceptedIn_send _ _ _ g)).trans ?_
    rw [inputsOf_append]
    split
    · rw [inputsOf_ping, List.append_nil]
      rfl
    · exact List.append_nil _

/-- The first part of `Update`. -/
theorem probeRtt_frame (clock : ℕ → UInt64) (c : NetworkClient) (a : ClientApplication) :
    Probed c (ClientApplication.probeRtt clock c a).1 ∧
      ∃ lastRttProbeSentAt, (ClientApplication.probeRtt clock c a).2 =
        { a with lastRttProbeSentAt := lastRttProbeSentAt } := by
  have hping := probed_sendPing clock (c.readClock clock).2
  have hpinged : Probed c ((c.readClock clock).2.sendPing clock).2 :=
    ⟨hping.generation, hping.state, hping.playerIdentity, hping.inputs⟩
  unfold ClientApplication.probeRtt
  split
  · dsimp only
    split
    · split
      · exact ⟨hpinged, _, rfl⟩
      · exact ⟨hpinged, _, rfl⟩
    · exact ⟨⟨rfl, rfl, rfl, fun _ => rfl⟩, _, rfl⟩
  · exact ⟨⟨rfl, rfl, rfl, fun _ => rfl⟩, _, rfl⟩

/-- An `Update` in which no input was refused: either the input sent last is the current one, or the
application has no snapshot of a running game. -/
theorem Holding.settles (h : Holding s c a) (current lastSent : PlayerInputPayload)
    (hstate : c'.connectionState = c.connectionState)
    (hlastSent : c'.connectionState ≠ .disconnected →
      lastInput (c'.acceptedIn c'.connectionGeneration) =
        if a.clientGameState.playerIdentity = none then {} else lastSent)
    (hcurrent : current = lastSent ∨ ∀ worldState,
      a.clientGameState.worldState = some worldState → worldState.gamePlayState ≠ .playing) :
    Holding s c' { a with
      currentPlayerInput := current
      lastSentPlayerInput := lastSent
      settledTick := a.playingTick } where
  forgotten hclosed := h.forgotten (hstate ▸ hclosed)
  unknown hnone := by
    obtain ⟨hworld, hplaying, -⟩ := h.unknown hnone
    exact ⟨hworld, hplaying, hplaying⟩
  lastSent := hlastSent
  worldState := h.worldState
  playingTick := h.playingTick
  settledTick tick htick := by
    obtain ⟨snapshot, hsnapshot, hle⟩ := h.playingTick tick htick
    have htruthful := h.worldState snapshot hsnapshot
    refine ⟨hle.trans htruthful.past, fun hplaying hstart => ?_⟩
    rcases hcurrent with hsame | hidle
    · exact hsame
    · exact absurd (htruthful.running (hstart.trans_le hle) hplaying) (hidle snapshot hsnapshot)

/-- What `Update` submits: an input that has changed, while it shows a running game. -/
structure Submits (keys : Keys) (a : ClientApplication) : Prop where
  known : a.clientGameState.playerIdentity ≠ none
  playing : ∃ worldState ∈ a.clientGameState.worldState, worldState.gamePlayState = .playing
  changed : collectPlayerInput keys ≠ a.lastSentPlayerInput

instance (keys : Keys) (a : ClientApplication) : Decidable (Submits keys a) :=
  decidable_of_iff (a.clientGameState.playerIdentity ≠ none ∧
    (∃ worldState ∈ a.clientGameState.worldState, worldState.gamePlayState = .playing) ∧
    collectPlayerInput keys ≠ a.lastSentPlayerInput)
    ⟨fun h => ⟨h.1, h.2.1, h.2.2⟩, fun h => ⟨h.known, h.playing, h.changed⟩⟩

theorem submitPlayerInput_cases (keys : Keys) (c : NetworkClient) (a : ClientApplication) :
    (ClientApplication.submitPlayerInput keys c a = (false, c, a) ∧
        (a.clientGameState.playerIdentity = none ∨ ∀ worldState,
          a.clientGameState.worldState = some worldState → worldState.gamePlayState ≠ .playing)) ∨
      (ClientApplication.submitPlayerInput keys c a =
          (false, c, { a with currentPlayerInput := collectPlayerInput keys }) ∧
        collectPlayerInput keys = a.lastSentPlayerInput) ∨
      Submits keys a ∧ ∀ c', c.sendPlayerInput (collectPlayerInput keys) = (true, c') →
        ClientApplication.submitPlayerInput keys c a = (false, c', { a with
          currentPlayerInput := collectPlayerInput keys
          lastSentPlayerInput := collectPlayerInput keys }) := by
  unfold ClientApplication.submitPlayerInput
  split
  · next hnone => exact Or.inl ⟨rfl, Or.inl (by simpa using hnone)⟩
  next hknown =>
  split
  · next hnone =>
      refine Or.inl ⟨rfl, Or.inr fun worldState hsome => ?_⟩
      rw [hnone] at hsome
      cases hsome
  next worldState hworld =>
  split
  · next hidle =>
      refine Or.inl ⟨rfl, Or.inr fun worldState' hsome => ?_⟩
      rw [hworld] at hsome
      cases hsome
      exact hidle
  next hplaying =>
  dsimp only
  split
  · next hsame => exact Or.inr (Or.inl ⟨rfl, hsame⟩)
  · next hchanged =>
      refine Or.inr (Or.inr ⟨⟨by simpa using hknown, ⟨worldState, hworld, not_not.mp hplaying⟩,
        hchanged⟩, fun c' hsent => ?_⟩)
      rw [hsent]
      rfl

/-- The message that carries the input of some keys. -/
def inputMessage (keys : Keys) : Message := ⟨.playerInput, (collectPlayerInput keys).bytes⟩

/-- An input is refused only if there is no room for it. -/
theorem sendPlayerInput_true (hconnected : c.connectionState = .connected)
    (hsocket : c.socketOpen = true) (hidentity : c.playerIdentity ≠ none) (keys : Keys)
    (hroom : c.pendingSendBytes + (inputMessage keys).bytes.length ≤
      NetworkClient.maxPendingSendBytes) :
    c.sendPlayerInput (collectPlayerInput keys) = (true, c.enqueue (inputMessage keys)) := by
  have hvalid := collectPlayerInput_valid keys
  have haccepts : c.Accepts (inputMessage keys) := by
    refine ⟨hconnected, hsocket, rfl, ?_, hroom⟩
    unfold Message.Fits inputMessage
    rw [PlayerInputPayload.bytes_length]
    decide
  unfold NetworkClient.sendPlayerInput
  rw [if_neg (by simp [hconnected]), if_neg (by simpa using hidentity),
    Checked.get_eq (encodePlayerInputPayload_valid hvalid)]
  exact NetworkClient.send_accepted haccepts

/-- **`Update`**, when there is room for what it submits. -/
theorem Holding.update (h : Holding s c a) (clock : ℕ → UInt64) (keys : Keys)
    {out : ℕ → List UInt8} (hsends : c.SendSide out)
    (hknown : a.clientGameState.playerIdentity ≠ none →
      c.connectionState = .connected ∧ c.playerIdentity ≠ none)
    (hroom : Submits keys a →
      (ClientApplication.probeRtt clock c a).1.pendingSendBytes +
        (inputMessage keys).bytes.length ≤ NetworkClient.maxPendingSendBytes) :
    Holding s (ClientApplication.update clock keys c a).1
      (ClientApplication.update clock keys c a).2 := by
  obtain ⟨hprobed, lastRttProbeSentAt, hsame⟩ := probeRtt_frame clock c a
  have hprobedSends := (NetworkClient.sendSide_survives out).probeRtt clock hsends a
  unfold ClientApplication.update
  revert hprobed hsame hprobedSends hroom
  generalize ClientApplication.probeRtt clock c a = probed
  obtain ⟨c₁, a₁⟩ := probed
  dsimp only
  rintro hroom hprobed rfl hprobedSends
  have hafter : Holding s c₁ { a with lastRttProbeSentAt := lastRttProbeSentAt } := by
    obtain ⟨hforgotten, hunknown, hlastSent, hworld, hplaying, hsettled⟩ :=
      h.sends hprobed.generation (by rw [hprobed.state]) hprobed.inputs
    exact ⟨hforgotten, hunknown, hlastSent, hworld, hplaying, hsettled⟩
  rcases submitPlayerInput_cases keys c₁ { a with lastRttProbeSentAt := lastRttProbeSentAt } with
    ⟨hnothing, hidle⟩ | ⟨hunchanged, hcurrent⟩ | ⟨hsubmits, hsent⟩
  · rw [hnothing]
    refine hafter.settles _ _ rfl hafter.lastSent (Or.inr ?_)
    rcases hidle with hnone | hidle
    · intro worldState hsome
      rw [(hafter.unknown hnone).1] at hsome
      cases hsome
    · exact hidle
  · rw [hunchanged]
    exact hafter.settles _ _ rfl hafter.lastSent (Or.inl hcurrent)
  · obtain ⟨hconnected, hidentity⟩ := hknown hsubmits.known
    have hconnected₁ : c₁.connectionState = .connected := hprobed.state.trans hconnected
    rw [hsent _ (sendPlayerInput_true hconnected₁ (hprobedSends.socket (Or.inr hconnected₁))
      (hprobed.playerIdentity ▸ hidentity) keys
      (hroom ⟨hsubmits.known, hsubmits.playing, hsubmits.changed⟩))]
    refine hafter.settles _ _ rfl (fun _ => ?_) (Or.inl rfl)
    rw [if_neg hsubmits.known]
    show lastInput ((c₁.enqueue (inputMessage keys)).acceptedIn c₁.connectionGeneration) = _
    rw [NetworkClient.acceptedIn_enqueue, if_pos rfl]
    exact lastInput_concat_playerInput _ (collectPlayerInput_valid keys)

end Holding

end NetworkArena.System
