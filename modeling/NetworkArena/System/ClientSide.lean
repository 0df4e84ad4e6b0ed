/-
# NetworkArena.System.ClientSide -- what a client of the server receives

A client reads the script of its session. So it takes every message: the first tells it who it is, a
pong brings back a time its clock has already shown, and each snapshot is of its room. The snapshots
reach the application in order, behind the identity, and their ticks increase: each is applied, and
shows the player on its side.

`Following` is what holds of a client and its application between any two handlers; the server
stands still here.
-/
import NetworkArena.System.ServerSide

namespace NetworkArena.System

open NetworkArena.Foundation
open NetworkArena.Shared
open NetworkArena.Server
open NetworkArena.Client

variable {K : Type}

/-! ## The messages of a script -/

section Script

variable {clock : ℕ → UInt64} {clockReads : ℕ} {s : Server K SessionRef}
  {player : PlayerId × PlayerSide} {messages : List Message}

theorem IsReply.identityOf_none {m : Message} (h : IsReply clock clockReads s player m) :
    identityOf m = none := by
  cases h with
  | pong hk =>
      exact NetworkClient.identityOf_of_type (show MessageType.pong ≠ .playerIdentity by decide)
  | worldStateSnapshot h =>
      exact NetworkClient.identityOf_of_type
        (show MessageType.worldStateSnapshot ≠ .playerIdentity by decide)

/-- The snapshots among some messages. -/
def snapshotsOf (messages : List Message) : List (WorldStateSnapshot FloatBits) :=
  messages.filterMap snapshotOf

theorem ticksOf_eq (messages : List Message) :
    ticksOf messages = (snapshotsOf messages).map (·.serverTick.toNat) := by
  rw [ticksOf, snapshotsOf, List.map_filterMap]

/-- **What a script asks for**: the identity first, then its snapshots. -/
theorem Script.invocations (h : Script clock clockReads s player messages) :
    messages.filterMap invocationOf = .playerIdentity ⟨Server.defaultRoomId, player.1⟩ ::
      (snapshotsOf messages).map .worldStateSnapshot := by
  obtain ⟨replies, rfl, hreplies⟩ := h.replies
  have hidentity := identityOf_identityMessage h.identified
  have hfirst : invocationOf (identityMessage player.1) =
      some (.playerIdentity ⟨Server.defaultRoomId, player.1⟩) := by
    rw [invocationOf, hidentity]
  have hrest : ∀ m ∈ replies, invocationOf m = (snapshotOf m).map .worldStateSnapshot := by
    intro m hm
    rw [invocationOf, (hreplies m hm).identityOf_none]
  rw [List.filterMap_cons_some hfirst, snapshotsOf, List.filterMap_cons_none
    (snapshotOf_identityMessage _), List.filterMap_congr hrest, List.map_filterMap]

theorem Script.snapshots_sound (h : Script clock clockReads s player messages) :
    ∀ snapshot ∈ snapshotsOf messages, SoundSnapshot s player snapshot := by
  obtain ⟨replies, rfl, hreplies⟩ := h.replies
  intro snapshot hsnapshot
  obtain ⟨m, hm, hsome⟩ := List.mem_filterMap.mp hsnapshot
  rcases List.mem_cons.mp hm with rfl | hm
  · rw [snapshotOf_identityMessage] at hsome
    cases hsome
  · cases hreplies m hm with
    | pong hk =>
        rw [snapshotOf_pong] at hsome
        cases hsome
    | worldStateSnapshot hsound =>
        rw [snapshotOf_bytes hsound.valid] at hsome
        cases hsome
        exact hsound

/-- The identity after a part of a script that is not empty. -/
theorem Script.lastIdentity (h : Script clock clockReads s player messages) {done : List Message}
    (hdone : done <+: messages) (hsome : done ≠ []) :
    lastIdentity done = some ⟨Server.defaultRoomId, player.1⟩ := by
  obtain ⟨replies, rfl, hreplies⟩ := h.replies
  cases done with
  | nil => exact absurd rfl hsome
  | cons first done =>
      obtain ⟨rfl, hrest⟩ := List.cons_prefix_cons.mp hdone
      have hnone : done.filterMap identityOf = [] :=
        List.filterMap_eq_nil_iff.mpr fun m hm => (hreplies m (hrest.subset hm)).identityOf_none
      rw [Client.lastIdentity, List.filterMap_cons_some (identityOf_identityMessage h.identified),
        hnone]
      rfl

/-- **A client takes the next message of a script.** -/
theorem Script.dispatchable (h : Script clock clockReads s player messages)
    (hclock : ∀ i j, i ≤ j → clock i ≤ clock j) {c : NetworkClient}
    (hreads : clockReads ≤ c.clockReads)
    {done rest : List Message} {m : Message} (hsplit : messages = done ++ m :: rest)
    (hidentity : c.playerIdentity = Client.lastIdentity done) :
    NetworkClient.Dispatchable clock c m := by
  have hm : m ∈ messages := by
    rw [hsplit]
    simp
  have hdone : done <+: messages := ⟨_, hsplit.symm⟩
  obtain ⟨replies, hmessages, hreplies⟩ := h.replies
  cases done with
  | nil =>
      -- the first message is the identity
      rw [hmessages] at hsplit
      obtain ⟨rfl, -⟩ := List.cons.inj hsplit
      exact .playerIdentity (identityOf_identityMessage h.identified)
  | cons first done =>
      have hreply : IsReply clock clockReads s player m := by
        rw [hmessages, List.cons_append] at hsplit
        obtain ⟨-, hrest⟩ := List.cons.inj hsplit
        refine hreplies m ?_
        rw [hrest]
        simp
      rw [h.lastIdentity hdone nofun] at hidentity
      cases hreply with
      | pong hk => exact .pong _ (hclock _ _ (hk.le.trans hreads))
      | worldStateSnapshot hsound =>
          exact .worldStateSnapshot (snapshotOf_bytes hsound.valid) hidentity hsound.roomId

end Script

/-! ## A client and its application -/

/-- What holds of a client and its application between any two handlers, once the clock has been
read `reads` times. `good` says how a snapshot should be delivered. -/
structure Following (start : ClientGameState → Prop) (clock : ℕ → UInt64) (reads : ℕ)
    (good : Delivery → Prop) (c : NetworkClient) (a : ClientApplication) : Prop where
  clockReads : reads ≤ c.clockReads
  delivering : c.Delivering start a.clientGameState
  requests : ∀ p ∈ c.accepted, NetworkClient.IsRequest clock c.clockReads p.2
  violations : c.violations = []
  deliveries : ∀ delivery ∈ a.deliveries, good delivery

section Following

variable {start : ClientGameState → Prop} {clock : ℕ → UInt64} {reads : ℕ}
  {good good' : Delivery → Prop} {c c' : NetworkClient} {a a' : ClientApplication}

theorem following_initial : Following start clock 0 good {} {} :=
  ⟨Nat.le_refl 0, NetworkClient.delivering_initial start, nofun, rfl, nofun⟩

theorem Following.mono (h : Following start clock reads good c a)
    (hgood : ∀ delivery, good delivery → good' delivery) : Following start clock reads good' c a :=
  ⟨h.clockReads, h.delivering, h.requests, h.violations,
    fun delivery hin => hgood _ (h.deliveries delivery hin)⟩

/-- A client follows from now on. -/
theorem Following.now (h : Following start clock reads good c a) :
    Following start clock c.clockReads good c a :=
  ⟨Nat.le_refl _, h.delivering, h.requests, h.violations, h.deliveries⟩

theorem Following.anytime (h : Following start clock reads good c a) :
    Following start clock 0 good c a :=
  ⟨Nat.zero_le _, h.delivering, h.requests, h.violations, h.deliveries⟩

/-- Requests that were sent by then. -/
theorem Following.requests_mono (h : Following start clock reads good c a)
    (haccepted : c'.accepted = c.accepted) (hreads : c.clockReads ≤ c'.clockReads) :
    ∀ p ∈ c'.accepted, NetworkClient.IsRequest clock c'.clockReads p.2 := by
  rw [haccepted]
  intro p hp
  exact (h.requests p hp).mono hreads

theorem Following.untouched (h : Following start clock reads good c a)
    (h' : NetworkClient.Untouched c c') :
    Following start clock reads good c' a :=
  ⟨h.clockReads.trans h'.clockReads, h.delivering.untouched h',
    h.requests_mono h'.accepted h'.clockReads,
    h'.violations.trans h.violations, h.deliveries⟩

theorem Following.sends (h : Following start clock reads good c a)
    (h' : NetworkClient.Requests clock c c') : Following start clock reads good c' a := by
  refine ⟨h.clockReads.trans h'.clockReads, h.delivering.requests h', ?_,
    h'.violations.trans h.violations, h.deliveries⟩
  rcases h'.accepted with hsame | ⟨message, hrequest, hone⟩
  · exact h.requests_mono hsame h'.clockReads
  · rw [hone]
    intro p hp
    rcases List.mem_append.mp hp with hold | hnew
    · exact (h.requests p hold).mono h'.clockReads
    · rw [List.mem_singleton.mp hnew]
      exact hrequest

/-- The connection is over. -/
theorem Following.lost (h : Following start clock reads good c a) (h' : NetworkClient.Lost c c')
    (hdeliveries : a'.deliveries = a.deliveries) : Following start clock reads good c' a' :=
  ⟨h.clockReads.trans h'.clockReads, h.delivering.lost h',
    h.requests_mono h'.accepted h'.clockReads,
    h'.violations.trans h.violations, hdeliveries ▸ h.deliveries⟩

theorem Following.completion (h : Following start clock reads good c a)
    {reported : Option ErrorCode}
    (h' : NetworkClient.Completion (ClientApplication.environment clock) reported c a c' a') :
    Following start clock reads good c' a' := by
  cases h' with
  | untouched huntouched => exact h.untouched huntouched
  | resolved hundisturbed hbefore hstate hfailed haccepted =>
      refine ⟨h.clockReads.trans hundisturbed.clockReads,
        h.delivering.undisturbed hundisturbed ?_ ?_,
        h.requests_mono haccepted hundisturbed.clockReads,
        hundisturbed.violations.trans h.violations, h.deliveries⟩
      · rw [hstate, hbefore]
        exact ⟨nofun, nofun⟩
      · intro _
        rw [hfailed]
        exact h.delivering.subscribed.onConnectionFailed (Or.inl hbefore)
  | connected hundisturbed hbefore hstate haccepted ha =>
      have hsame : a' = a := by
        rcases ha with hsame | ⟨c₁, hinvoked⟩
        · exact hsame
        · exact hinvoked
      subst hsame
      refine ⟨h.clockReads.trans hundisturbed.clockReads,
        h.delivering.undisturbed hundisturbed ?_ ?_,
        h.requests_mono haccepted hundisturbed.clockReads,
        hundisturbed.violations.trans h.violations, h.deliveries⟩
      · rw [hstate, hbefore]
        exact ⟨nofun, nofun⟩
      · rw [hstate]
        intro hopening
        rcases hopening with hopening | hopening
        · cases hopening
        · cases hopening
  | failed hlost hdisconnections ha =>
      obtain ⟨error, c₁, ha⟩ := ha
      exact h.lost hlost (by rw [ha]; rfl)
  | ended error herror hended =>
      obtain ⟨c₁, ha⟩ := hended.application
      exact h.lost hended.toLost (by rw [ha]; rfl)

theorem Following.connect (h : Following start clock reads good c a) {inp : ℕ → List UInt8}
    (hin : c.ReceiveSide inp)
    (hstart : c.connectionState = .disconnected → start a.clientGameState) (host : String)
    (port : UInt16) : Following start clock reads good (c.connect host port {}).2 a := by
  have hsame : (c.connect host port {}).2.accepted = c.accepted ∧
      (c.connect host port {}).2.clockReads = c.clockReads ∧
      (c.connect host port {}).2.violations = c.violations := by
    unfold NetworkClient.connect
    split
    · exact ⟨rfl, rfl, rfl⟩
    split
    · exact ⟨rfl, rfl, rfl⟩
    · exact ⟨rfl, rfl, rfl⟩
  exact ⟨h.clockReads.trans hsame.2.1.ge, h.delivering.connect hin hstart host port,
    h.requests_mono hsame.1 hsame.2.1.ge,
    hsame.2.2.trans h.violations, h.deliveries⟩

theorem Following.disconnect (h : Following start clock reads good c a)
    (hdeliveries : a'.deliveries = a.deliveries) (hopen : c.connectionState ≠ .disconnected) :
    Following start clock reads good c.disconnect.2 a' :=
  h.lost (NetworkClient.lost_disconnect hopen) hdeliveries

/-- **A call an honest client makes.** -/
theorem Following.call (h : Following start clock reads good c a) {inp : ℕ → List UInt8}
    (hin : c.ReceiveSide inp) {call : ApiCall} (hcall : isHonestCall call = true)
    (hstart : isConnect call = true → c.connectionState = .disconnected → start a.clientGameState) :
    Following start clock reads good (call.run clock c) a := by
  cases call with
  | connect host port callbacks =>
      obtain rfl : callbacks = {} := by simpa [isHonestCall] using hcall
      exact h.connect hin (hstart rfl) host port
  | disconnect =>
      by_cases hclosed : c.connectionState = .disconnected
      · rw [show ApiCall.run clock c .disconnect = c.disconnect.2 from rfl,
          NetworkClient.disconnect_disconnected hclosed]
        exact h
      · exact h.disconnect rfl hclosed
  | send message => cases hcall
  | sendPing => exact h.sends (NetworkClient.requests_sendPing clock c)
  | sendPlayerInput input => exact h.sends (NetworkClient.requests_sendPlayerInput clock input c)

/-- Only the game state of an application counts here, and what was delivered to it. -/
theorem Following.of_application (h : Following start clock reads good c a)
    (hgame : a'.clientGameState = a.clientGameState) (hdeliveries : a'.deliveries = a.deliveries) :
    Following start clock reads good c a' :=
  ⟨h.clockReads, hgame ▸ h.delivering, h.requests, h.violations, hdeliveries ▸ h.deliveries⟩

theorem Following.readClock (h : Following start clock reads good c a) :
    Following start clock reads good (c.readClock clock).2 a :=
  h.untouched ⟨⟨rfl, rfl, rfl, rfl, rfl, rfl, rfl, rfl, rfl, Nat.le_succ _⟩, rfl, rfl, rfl⟩

theorem Following.probeRtt (h : Following start clock reads good c a) :
    Following start clock reads good (ClientApplication.probeRtt clock c a).1
      (ClientApplication.probeRtt clock c a).2 := by
  have hping := h.readClock.sends (NetworkClient.requests_sendPing clock (c.readClock clock).2)
  unfold ClientApplication.probeRtt
  split
  · dsimp only
    split
    · split
      · exact hping.of_application rfl rfl
      · exact hping
    · exact h.readClock
  · exact h

theorem Following.submitPlayerInput (h : Following start clock reads good c a) (keys : Keys) :
    Following start clock reads good (ClientApplication.submitPlayerInput keys c a).2.1
      (ClientApplication.submitPlayerInput keys c a).2.2 := by
  unfold ClientApplication.submitPlayerInput
  split
  · exact h
  split
  · exact h
  split
  · exact h
  have hinput := h.sends
    (NetworkClient.requests_sendPlayerInput clock (collectPlayerInput keys) c)
  dsimp only
  split
  · exact h.of_application rfl rfl
  split
  · exact hinput.of_application rfl rfl
  · exact hinput.of_application rfl rfl

/-- **`Update`.** -/
theorem Following.update (h : Following start clock reads good c a) (keys : Keys) :
    Following start clock reads good (ClientApplication.update clock keys c a).1
      (ClientApplication.update clock keys c a).2 := by
  have hsubmitted := h.probeRtt.submitPlayerInput keys
  unfold ClientApplication.update
  dsimp only
  split
  · exact hsubmitted
  · exact hsubmitted.of_application rfl rfl

theorem Following.shutdown (h : Following start clock reads good c a) :
    Following start clock reads good (ClientApplication.shutdown c a).1
      (ClientApplication.shutdown c a).2 := by
  unfold ClientApplication.shutdown
  by_cases hclosed : c.connectionState = .disconnected
  · rw [if_neg (by simp [hclosed])]
    -- nothing is followed once the client is disconnected
    refine ⟨h.clockReads, ⟨h.delivering.subscribed, h.delivering.postedPast, h.delivering.identity,
      fun hopen => absurd hclosed hopen⟩, h.requests, h.violations, h.deliveries⟩
  · rw [if_pos (by simpa using hclosed)]
    exact h.disconnect rfl hclosed

end Following

/-! ## Delivering snapshots -/

/-- A delivered snapshot was applied, and shows the player of its connection on its side. -/
structure GoodDelivery (s : Server K SessionRef) (n : ℕ) (delivery : Delivery) : Prop where
  applied : delivery.applied = true
  shown : ∃ id player localPlayer, s.assigned ⟨n, delivery.generation, id⟩ = some player ∧
    delivery.localPlayer = some localPlayer ∧ localPlayer.playerId = player.1 ∧
      localPlayer.side = player.2

section Delivering

variable {clock : ℕ → UInt64} {clockReads : ℕ} {s : Server K SessionRef}
  {player : PlayerId × PlayerSide} {messages : List Message}

/-- A game state that knows who it is, and has a snapshot out of a list if it has one. -/
structure Informed (playerId : PlayerId) (snapshots : List (WorldStateSnapshot FloatBits))
    (g : ClientGameState) : Prop where
  playerIdentity : g.playerIdentity = some ⟨Server.defaultRoomId, playerId⟩
  worldState : ∀ snapshot, g.worldState = some snapshot → snapshot ∈ snapshots

theorem Informed.receive {playerId : PlayerId} {g : ClientGameState}
    {snapshots before : List (WorldStateSnapshot FloatBits)} (h : Informed playerId snapshots g)
    (hbefore : before ⊆ snapshots) :
    Informed playerId snapshots
      ((before.map Invocation.worldStateSnapshot).foldl ClientGameState.receive g) := by
  induction before generalizing g with
  | nil => exact h
  | cons snapshot before ih =>
      obtain ⟨hin, hrest⟩ := List.cons_subset.mp hbefore
      refine ih ?_ hrest
      show Informed playerId snapshots (g.applyWorldStateSnapshot snapshot).2
      rcases g.applyWorldStateSnapshot_cases snapshot with hno | ⟨hyes, -⟩
      · rw [hno]
        exact h
      · rw [hyes]
        refine ⟨h.playerIdentity, fun snapshot' hsnapshot' => ?_⟩
        cases hsnapshot'
        exact hin

/-- **The application applies the next snapshot of a script.** -/
theorem Script.applies (h : Script clock clockReads s player messages)
    {delivered : List Invocation} {snapshot : WorldStateSnapshot FloatBits}
    (hdelivered : delivered ++ [.worldStateSnapshot snapshot] <+: messages.filterMap invocationOf)
    {g g₀ : ClientGameState} (hg : g = delivered.foldl ClientGameState.receive g₀) :
    g.applyWorldStateSnapshot snapshot = (true, { g with worldState := some snapshot }) ∧
      ∃ localPlayer, { g with worldState := some snapshot }.getLocalPlayer = some localPlayer ∧
        localPlayer.playerId = player.1 ∧ localPlayer.side = player.2 := by
  rw [h.invocations] at hdelivered
  -- a script begins with the identity, so something was delivered before any snapshot
  cases delivered with
  | nil =>
      obtain ⟨rest, hrest⟩ := hdelivered
      cases hrest
  | cons first delivered =>
      rw [List.cons_append, List.cons_prefix_cons] at hdelivered
      obtain ⟨rfl, hrest⟩ := hdelivered
      obtain ⟨snapshots, hsnapshots, hmap⟩ := List.prefix_map_iff.mp hrest
      obtain ⟨before, last, rfl, hbefore, hlast⟩ := List.map_eq_append_iff.mp hmap.symm
      obtain ⟨next, rfl, hnext⟩ : ∃ next, last = [next] ∧
          Invocation.worldStateSnapshot next = .worldStateSnapshot snapshot := by
        simpa [List.map_eq_singleton_iff] using hlast
      cases hnext
      have hsound := h.snapshots_sound snapshot (hsnapshots.subset (by simp))
      -- the game state knows who it is, and what it has is older
      have hinformed : Informed player.1 before g := by
        rw [hg, List.foldl_cons, ← hbefore]
        refine Informed.receive ?_ (List.Subset.refl _)
        have hvalid : ¬ (Server.defaultRoomId = 0 ∨ player.1 = 0) :=
          not_or.mpr ⟨by decide, h.identified⟩
        simp only [ClientGameState.receive, ClientGameState.applyPlayerIdentity, if_neg hvalid]
        refine ⟨rfl, fun snapshot hstate => ?_⟩
        cases hstate
      have holder : ∀ older ∈ before, older.serverTick.toNat < snapshot.serverTick.toNat := by
        -- the ticks of a script increase, and `before` lies in front of the snapshot
        have hincreasing := h.increasing
        rw [ticksOf_eq] at hincreasing
        have hpart := hincreasing.sublist (hsnapshots.sublist.map _)
        rw [List.map_append, List.pairwise_append] at hpart
        intro older holder
        exact hpart.2.2 _ (List.mem_map_of_mem holder) _ (by simp)
      constructor
      · have hnewer : ¬ (g.worldState.any fun worldState =>
            snapshot.serverTick ≤ worldState.serverTick) = true := by
          intro hany
          cases hsome : g.worldState with
          | none =>
              rw [hsome] at hany
              cases hany
          | some worldState =>
              rw [hsome] at hany
              have hlt := holder worldState (hinformed.worldState worldState hsome)
              have hle := UInt64.le_iff_toNat_le.mp (of_decide_eq_true hany)
              omega
        unfold ClientGameState.applyWorldStateSnapshot
        simp only [hinformed.playerIdentity, if_neg hsound.counted, hsound.roomId, ne_eq,
          not_true_eq_false, if_false, if_neg hnewer]
      · obtain ⟨localPlayer, hfind, hside⟩ := hsound.shows
        have hid := List.find?_some hfind
        refine ⟨localPlayer, ?_, of_decide_eq_true hid, hside⟩
        simp only [ClientGameState.getLocalPlayer, hinformed.playerIdentity,
          ClientGameState.findPlayer, if_neg h.identified]
        exact hfind

end Delivering

/-! ## Posted callbacks and reads -/

section Handlers

variable {start : ClientGameState → Prop} {clock : ℕ → UInt64} {reads : ℕ}
  {good : Delivery → Prop} {c c' : NetworkClient} {a : ClientApplication} {inp : ℕ → List UInt8}

/-- A callback that runs adds at most the snapshot it brings to what was delivered. -/
theorem handle_deliveries (a : ClientApplication) (generation : ℕ) (invocation : Invocation) :
    (a.handle generation invocation).deliveries = a.deliveries ∨
      ∃ snapshot, invocation = .worldStateSnapshot snapshot ∧
        (a.handle generation invocation).deliveries = a.deliveries ++
          [⟨generation, snapshot, (a.clientGameState.applyWorldStateSnapshot snapshot).1,
            (a.clientGameState.applyWorldStateSnapshot snapshot).2.getLocalPlayer⟩] := by
  cases invocation with
  | connected => exact Or.inl rfl
  | connectionFailed error => exact Or.inl rfl
  | disconnected error => exact Or.inl rfl
  | playerIdentity identity =>
      left
      simp only [ClientApplication.handle, ClientApplication.handlePlayerIdentity]
      split <;> rfl
  | worldStateSnapshot snapshot =>
      refine Or.inr ⟨snapshot, rfl, ?_⟩
      simp only [ClientApplication.handle, ClientApplication.handleWorldStateSnapshot]
      split <;> rfl

/-- **A posted callback runs**, the next one in order. -/
theorem Following.handlePosted (h : Following start clock reads good c a) (hin : c.ReceiveSide inp)
    {p : PostedCallback} {rest : List PostedCallback} (hposted : c.posted = p :: rest)
    (hgood : c.connectionState ≠ .disconnected → ∀ delivered snapshot,
      delivered ++ [.worldStateSnapshot snapshot] <+:
        (c.dispatchedIn c.connectionGeneration).filterMap invocationOf →
      (∃ g₀, start g₀ ∧ a.clientGameState = delivered.foldl ClientGameState.receive g₀) →
        good ⟨c.connectionGeneration, snapshot,
          (a.clientGameState.applyWorldStateSnapshot snapshot).1,
          (a.clientGameState.applyWorldStateSnapshot snapshot).2.getLocalPlayer⟩) :
    Following start clock reads good
      ((c.retirePosted 0).handlePosted (ClientApplication.environment clock) p a).1
      ((c.retirePosted 0).handlePosted (ClientApplication.environment clock) p a).2 := by
  obtain ⟨invocations, hhandled⟩ := NetworkClient.handlePosted_eq clock hposted a
  rw [hhandled]
  have hdelivering := h.delivering.posted hin hposted invocations
  by_cases hcurrent : c.isCurrentOperation p.generation .connected = true
  · rw [if_pos hcurrent] at hdelivering ⊢
    simp only [NetworkClient.isCurrentOperation, Bool.and_eq_true, beq_iff_eq] at hcurrent
    have hopen : c.connectionState ≠ .disconnected := by simp [hcurrent.2]
    obtain ⟨delivered, hdelivered⟩ := h.delivering.delivered hopen
    obtain ⟨hasked, -⟩ := hdelivered.next hposted hcurrent.1 invocations
    obtain ⟨message, -, hmessage⟩ := List.mem_filterMap.mp
      (hasked.subset (List.mem_append_right _ (List.mem_singleton_self _)))
    rw [← NetworkClient.handle_gameState a c.connectionGeneration hmessage] at hdelivering
    refine ⟨h.clockReads, hdelivering, h.requests, h.violations, ?_⟩
    rcases handle_deliveries a c.connectionGeneration p.invocation with
      hsame | ⟨snapshot, hsnapshot, hone⟩
    · rw [hsame]
      exact h.deliveries
    · rw [hone]
      intro delivery hdelivery
      rcases List.mem_append.mp hdelivery with hold | hnew
      · exact h.deliveries delivery hold
      · rw [List.mem_singleton.mp hnew]
        exact hgood hopen delivered snapshot (hsnapshot ▸ hasked) hdelivered.gameState
  · rw [if_neg hcurrent] at hdelivering ⊢
    exact ⟨h.clockReads, hdelivering, h.requests, h.violations, h.deliveries⟩

/-- What a client of the server may read: it can take each message when it has taken those
before. -/
def Takeable (clock : ℕ → UInt64) (clockReads : ℕ) (messages : List Message) : Prop :=
  ∀ (c : NetworkClient) done m rest, messages = done ++ m :: rest → clockReads ≤ c.clockReads →
    c.playerIdentity = Client.lastIdentity done → NetworkClient.Dispatchable clock c m

/-- A connected client that has dispatched some messages, since it was in state `c`. -/
structure Taking (start : ClientGameState → Prop) (clock : ℕ → UInt64) (reads : ℕ)
    (good : Delivery → Prop) (c : NetworkClient) (a : ClientApplication) (done : List Message)
    (c' : NetworkClient) : Prop where
  following : Following start clock reads good c' a
  dispatched : c'.dispatchedIn c'.connectionGeneration = done
  connected : c'.connectionState = .connected
  clockReads : c.clockReads ≤ c'.clockReads

/-- **The next message is taken.** -/
theorem Taking.dispatch {c₁ : NetworkClient} {messages done rest : List Message} {m : Message}
    (h : Taking start clock reads good c a done c₁)
    (htakeable : Takeable clock c.clockReads messages)
    (hmessages : messages = done ++ m :: rest) :
    (NetworkClient.dispatchOn (ClientApplication.environment clock) m (c₁, a)).1 = true ∧
      Taking start clock reads good c a (done ++ [m])
        (NetworkClient.dispatchOn (ClientApplication.environment clock) m (c₁, a)).2.1 := by
  obtain ⟨hfollowing, hdone, hstate, hreads⟩ := h
  have hopen : c₁.connectionState ≠ .disconnected := by
    rw [hstate]
    nofun
  have hlogged : NetworkClient.Untouched c₁
      (c₁.recordPacketLog ⟨.receive, m.type, m.payload.length⟩) :=
    ⟨⟨rfl, rfl, rfl, rfl, rfl, rfl, rfl, rfl, rfl, Nat.le_refl _⟩, rfl, rfl, rfl⟩
  have hafter := hfollowing.untouched hlogged
  have hdispatchable : NetworkClient.Dispatchable clock
      (c₁.recordPacketLog ⟨.receive, m.type, m.payload.length⟩) m := by
    refine htakeable _ done m rest hmessages hreads ?_
    rw [← hdone]
    exact hfollowing.delivering.identity hopen
  have htaken := NetworkClient.dispatchMessage_true hdispatchable
  have hdispatched := NetworkClient.dispatchMessage_dispatched
    (hafter.delivering.subscribed.onPlayerIdentity hopen)
    (hafter.delivering.subscribed.onWorldStateSnapshot hopen) htaken
  refine ⟨htaken, ⟨hafter.clockReads.trans hdispatched.clockReads, ?_, ?_, ?_, hafter.deliveries⟩,
    ?_, hdispatched.state.trans hstate,
    hreads.trans hdispatched.clockReads⟩
  · exact hafter.delivering.dispatched hopen hdispatched
  · exact hafter.requests_mono hdispatched.accepted hdispatched.clockReads
  · exact hdispatched.violations.trans hafter.violations
  · have hlog : (NetworkClient.dispatchOn (ClientApplication.environment clock) m
        (c₁, a)).2.1.dispatched = c₁.dispatched ++ [m].map (c₁.connectionGeneration, ·) :=
      hdispatched.dispatched
    have hgeneration : (NetworkClient.dispatchOn (ClientApplication.environment clock) m
        (c₁, a)).2.1.connectionGeneration = c₁.connectionGeneration := hdispatched.generation
    rw [NetworkClient.dispatchedIn_append hlog, if_pos hgeneration, hgeneration, hdone]

/-- **Received messages are all taken.** -/
theorem Following.drain (h : Following start clock reads good c a)
    (hconnected : c.connectionState = .connected)
    {messages todo : List Message} (hfits : ∀ m ∈ messages, m.Fits)
    (htakeable : Takeable clock c.clockReads messages)
    (hsplit : messages = c.dispatchedIn c.connectionGeneration ++ todo) {bytes : List UInt8}
    (hbytes : bytes <+: todo.flatMap Message.bytes) :
    (messageReader.drain (NetworkClient.dispatchOn (ClientApplication.environment clock)) bytes
        (c, a)).verdict = .waiting ∧
      Following start clock reads good (messageReader.drain (NetworkClient.dispatchOn
        (ClientApplication.environment clock)) bytes (c, a)).state.1 a := by
  obtain ⟨-, ⟨done, -, htaking, -⟩, hwaiting⟩ := FrameReader.drain_along
    (NetworkClient.dispatchOn (ClientApplication.environment clock)) messageReader_encode (by rfl)
    (P := fun done t => Taking start clock reads good c a done t.1 ∧ t.2 = a)
    (messageReader_frames hfits)
    (fun done m rest t hmessages ht => by
      obtain ⟨c₁, a₁⟩ := t
      obtain ⟨htaking, rfl⟩ := ht
      exact ⟨(htaking.dispatch htakeable hmessages).2, rfl⟩)
    bytes (c, a) hsplit hbytes ⟨⟨h, rfl, hconnected, Nat.le_refl _⟩, rfl⟩
  refine ⟨hwaiting ?_, htaking.following⟩
  rintro done m rest ⟨c₁, a₁⟩ hmessages ⟨htaking, rfl⟩
  exact (htaking.dispatch htakeable hmessages).1

/-- The bytes that reach the client of a connection, with those it has already. -/
theorem unread_bytes (hin : c.ReceiveSide inp) (hconnected : c.connectionState = .connected)
    (hread : c.connectionGeneration ∈ c.readsOutstanding) {messages todo : List Message}
    (hsplit : messages = c.dispatchedIn c.connectionGeneration ++ todo) {received : List UInt8}
    (hbytes : inp c.connectionGeneration ++ received <+: messages.flatMap Message.bytes) :
    c.accumulatedBuffer ++ received <+: todo.flatMap Message.bytes := by
  rw [hin.inOrder hconnected hread, hsplit, List.flatMap_append, List.append_assoc,
    List.prefix_append_right_inj] at hbytes
  exact hbytes

/-- **Received bytes are processed** without an objection. -/
theorem Following.processReceivedData (h : Following start clock reads good c a)
    (hconnected : c.connectionState = .connected) {messages todo : List Message}
    (hfits : ∀ m ∈ messages, m.Fits) (htakeable : Takeable clock c.clockReads messages)
    (hsplit : messages = c.dispatchedIn c.connectionGeneration ++ todo) {received : List UInt8}
    (hbytes : c.accumulatedBuffer ++ received <+: todo.flatMap Message.bytes)
    (hinBounds : (c.processReceivedData (ClientApplication.environment clock) received
      c.connectionGeneration a).InBounds) :
    ((c.processReceivedData (ClientApplication.environment clock) received
      c.connectionGeneration a).get hinBounds).1 = true := by
  rw [NetworkClient.processReceivedData_get]
  have hbuffered : Following start clock reads good
      { c with accumulatedBuffer := c.accumulatedBuffer ++ received } a :=
    h.untouched (NetworkClient.untouched_queues c ..)
  obtain ⟨hwaiting, -⟩ := hbuffered.drain hconnected hfits htakeable hsplit hbytes
  revert hwaiting
  rcases messageReader.drain (NetworkClient.dispatchOn (ClientApplication.environment clock))
    (c.accumulatedBuffer ++ received)
    ({ c with accumulatedBuffer := c.accumulatedBuffer ++ received }, a) with
      ⟨verdict, rest, c', a'⟩
  rintro rfl
  rfl

/-- What a read leaves of the client goes on following. -/
theorem Following.readTo (h : Following start clock reads good c a)
    (hconnected : c.connectionState = .connected) {messages todo : List Message}
    (hfits : ∀ m ∈ messages, m.Fits) (htakeable : Takeable clock c.clockReads messages)
    (hsplit : messages = c.dispatchedIn c.connectionGeneration ++ todo) {received : List UInt8}
    (hbytes : c.accumulatedBuffer ++ received <+: todo.flatMap Message.bytes) {verdict : Verdict}
    {c₁ : NetworkClient} (hread : NetworkClient.ReadTo (ClientApplication.environment clock) c
      received a verdict c₁) : Following start clock reads good c₁ a := by
  have hbuffered : Following start clock reads good
      { c with accumulatedBuffer := c.accumulatedBuffer ++ received } a :=
    h.untouched (NetworkClient.untouched_queues c ..)
  rcases hread with ⟨-, -, rfl⟩ | ⟨-, huntouched⟩
  · exact h
  · obtain ⟨-, hdrained⟩ := hbuffered.drain hconnected hfits htakeable hsplit hbytes
    exact hdrained.untouched huntouched

/-- **A read** of the messages of a session. -/
theorem Following.handleRead (h : Following start clock reads good c a) {g : ℕ}
    {messages todo : List Message} (hfits : ∀ m ∈ messages, m.Fits)
    (htakeable : Takeable clock c.clockReads messages)
    (hsplit : c.connectionState = .connected → g = c.connectionGeneration →
      messages = c.dispatchedIn g ++ todo) {received : List UInt8}
    (hbytes : c.connectionState = .connected → g = c.connectionGeneration →
      c.accumulatedBuffer ++ received <+: todo.flatMap Message.bytes)
    (error : Option ErrorCode) :
    Following start clock reads good
      (c.handleRead (ClientApplication.environment clock) error received g a).1
      (c.handleRead (ClientApplication.environment clock) error received g a).2 := by
  rcases NetworkClient.handleRead_cases (ClientApplication.environment clock) error received g c a
    with hlate | ⟨hcurrent, verdict, c₁, hread, hafter⟩
  · rw [hlate]
    exact h
  simp only [NetworkClient.isCurrentOperation, Bool.and_eq_true, beq_iff_eq] at hcurrent
  obtain ⟨rfl, hconnected⟩ := hcurrent
  have hfollowing : Following start clock reads good c₁ a :=
    h.readTo hconnected hfits htakeable (hsplit hconnected rfl) (hbytes hconnected rfl) hread
  rcases hafter with ⟨-, -, hnext⟩ | ⟨e, -, hend⟩
  · rw [hnext]
    exact hfollowing.untouched (NetworkClient.untouched_readNext c₁ _)
  · rw [hend]
    by_cases hstill : c₁.isCurrentOperation c.connectionGeneration .connected = true
    · have hended := NetworkClient.completeDisconnection_ended
        (quiet_environment clock) hfollowing.delivering.subscribed hstill e a
      obtain ⟨c₂, ha⟩ := hended.application
      exact hfollowing.lost hended.toLost (by rw [ha]; rfl)
    · rw [NetworkClient.completeDisconnection_late hstill]
      exact hfollowing

end Handlers

end NetworkArena.System
