/-
# NetworkArena.Server.IterationOrder -- the order in which the players are visited

The players are in an `unordered_map`, and a tick visits them and their pairs in the order of the
map. Two rooms with the same entries in another order (`Reordered`) stay so under a tick, with the
same scores, timers, phase and winner: the collision time of two players is symmetric, what
collisions do to the room commutes, and everything else is done to each player alone. The snapshot
is sorted by id, so not even the order is left in it.
-/
import NetworkArena.Foundation.Reordering
import NetworkArena.Server.Collision
import NetworkArena.Server.PlayerIds

namespace NetworkArena.Server

open NetworkArena.Foundation
open NetworkArena.Shared

variable {K ρ ω : Type} [Field K] [LinearOrder K]

/-! ## The collision time is symmetric -/

omit [LinearOrder K] in
theorem distanceSquared_comm (first second : K × K) :
    distanceSquared first second = distanceSquared second first := by
  unfold distanceSquared
  ring

namespace PlayerMovement

omit [LinearOrder K] in
theorem speedTerm_comm (first second : PlayerMovement K) :
    first.speedTerm second = second.speedTerm first := distanceSquared_comm _ _

omit [LinearOrder K] in
theorem crossTerm_comm (first second : PlayerMovement K) :
    first.crossTerm second = second.crossTerm first := by
  unfold crossTerm
  ring

omit [LinearOrder K] in
theorem gapTerm_comm (first second : PlayerMovement K) :
    first.gapTerm second = second.gapTerm first := by
  rw [gapTerm, gapTerm, distanceSquared_comm]

end PlayerMovement

section Symmetry

variable [HasSqrt K]

theorem findPlayerCollisionTime_comm (first second : PlayerMovement K) (deltaSeconds : K) :
    findPlayerCollisionTime first second deltaSeconds =
      findPlayerCollisionTime second first deltaSeconds := by
  rw [findPlayerCollisionTime_eq, findPlayerCollisionTime_eq, PlayerMovement.gapTerm_comm,
    PlayerMovement.speedTerm_comm, PlayerMovement.crossTerm_comm]

omit [HasSqrt K] in
/-- The boundaries are collected in another order, and sorted. -/
theorem collectPlayerMovementBoundaries_comm (first second : PlayerState K) (deltaSeconds : K) :
    collectPlayerMovementBoundaries first second deltaSeconds =
      collectPlayerMovementBoundaries second first deltaSeconds := by
  unfold collectPlayerMovementBoundaries
  dsimp only
  rw [insertionSort_eq_of_perm (List.Perm.append_right _ ?_) (· ≤ ·)
    fun _ _ _ _ => le_antisymm]
  rw [List.append_assoc, List.append_assoc]
  exact List.perm_append_comm.append_left _

theorem findCollisionInSegments_comm (first second : PlayerState K) (boundaries : List K)
    (firstStart secondStart : K × K) :
    findCollisionInSegments first second boundaries firstStart secondStart =
      findCollisionInSegments second first boundaries secondStart firstStart := by
  induction boundaries generalizing firstStart secondStart with
  | nil => rfl
  | cons segmentStartTime boundaries ih =>
      cases boundaries with
      | nil => rfl
      | cons segmentEndTime boundaries =>
          rw [findCollisionInSegments, findCollisionInSegments, findPlayerCollisionTime_comm, ih]

/-- **The collision time is symmetric** in the two players. -/
theorem findPlayerCollisionTimeDuringTick_comm (first second : PlayerState K) (deltaSeconds : K) :
    findPlayerCollisionTimeDuringTick first second deltaSeconds =
      findPlayerCollisionTimeDuringTick second first deltaSeconds := by
  rw [findPlayerCollisionTimeDuringTick, findPlayerCollisionTimeDuringTick,
    collectPlayerMovementBoundaries_comm, findCollisionInSegments_comm]

end Symmetry

/-! ## Rooms in another order -/

/-- The same room, with its players in another order. -/
inductive Room.Reordered : Room K ρ → Room K ρ → Prop where
  | intro (r : Room K ρ) {players : List (SessionId × Player K ρ)} (h : r.players.Perm players) :
    Room.Reordered r { r with players := players }

/-- Two rooms that can only be told apart by the order of their players. -/
structure Room.SameRoom (r r' : Room K ρ) : Prop where
  players : ∀ sessionId, r'.findPlayer sessionId = r.findPlayer sessionId
  sideScores : r'.sideScores = r.sideScores
  gameRemainingSeconds : r'.gameRemainingSeconds = r.gameRemainingSeconds
  attackRoleSwitchRemainingSeconds :
    r'.attackRoleSwitchRemainingSeconds = r.attackRoleSwitchRemainingSeconds
  gameState : r'.gameState = r.gameState
  attackingSide : r'.attackingSide = r.attackingSide
  winningSide : r'.winningSide = r.winningSide
  roomId : r'.roomId = r.roomId
  nextPlayerId : r'.nextPlayerId = r.nextPlayerId

section Reordered

variable {r r' : Room K ρ}

omit [Field K] [LinearOrder K] in
theorem Room.Reordered.perm (h : r.Reordered r') : r.players.Perm r'.players := by
  cases h with
  | intro hperm => exact hperm

omit [Field K] [LinearOrder K] in
theorem Room.Reordered.forEachPlayer (h : r.Reordered r') (f : PlayerState K → PlayerState K) :
    (r.forEachPlayer f).Reordered (r'.forEachPlayer f) := by
  cases h with
  | intro hperm => exact Room.Reordered.intro (r.forEachPlayer f) (hperm.map _)

omit [LinearOrder K] in
theorem Room.Reordered.finishGame (h : r.Reordered r') : r.finishGame.Reordered r'.finishGame := by
  cases h with
  | intro hperm => exact Room.Reordered.intro r.finishGame (hperm.map _)

omit [Field K] [LinearOrder K] in
/-- **Where no key comes twice**, the order cannot be seen. -/
theorem Room.Reordered.sameRoom (h : r.Reordered r') (hkeys : (r.players.map (·.1)).Nodup) :
    r.SameRoom r' := by
  have hfind : ∀ sessionId, r'.findPlayer sessionId = r.findPlayer sessionId := by
    intro sessionId
    unfold Room.findPlayer
    rw [find?_eq_of_perm h.perm]
    intro entry hentry other hother hkey hkey'
    apply List.inj_on_of_nodup_map hkeys hentry hother
    exact (of_decide_eq_true hkey).trans (of_decide_eq_true hkey').symm
  cases h with
  | intro => exact ⟨hfind, rfl, rfl, rfl, rfl, rfl, rfl, rfl, rfl⟩

/-- **Where no id comes twice**, snapshots are the same. -/
theorem Room.Reordered.captureSnapshot (h : r.Reordered r') (hids : r.playerIds.Nodup)
    (serverTick : ServerTick) : r'.captureSnapshot serverTick = r.captureSnapshot serverTick := by
  have hdistinct : ((r.players.map fun entry =>
      Room.snapshotPlayer (r.gameState == .playing) entry.2).map (·.playerId)).Nodup := by
    rw [Room.playerIds, Room.seats, List.map_map] at hids
    rw [List.map_map]
    exact hids
  -- the ids differ, so there is one sorted order of these players
  have hsort := insertionSort_eq_of_perm
    (h.perm.map fun entry => Room.snapshotPlayer (r.gameState == .playing) entry.2)
    (fun left right => left.playerId ≤ right.playerId) ?_
  · cases h with
    | intro =>
        unfold Room.captureSnapshot
        dsimp only at hsort ⊢
        rw [hsort]
  · intro left hleft right hright hle hle'
    exact List.inj_on_of_nodup_map hdistinct hleft hright (UInt32.le_antisymm hle hle')

end Reordered

/-! ## Collisions commute -/

section Collisions

variable {r r' : Room K ρ} {players : List (SessionId × Player K ρ)}

omit [Field K] [LinearOrder K] in
theorem updatePlayer_comm (r : Room K ρ) (first second : SessionId)
    (f : PlayerState K → PlayerState K) :
    (r.updatePlayer first f).updatePlayer second f =
      (r.updatePlayer second f).updatePlayer first f := by
  unfold Room.updatePlayer
  dsimp only
  rw [List.map_map, List.map_map]
  congr 1
  apply List.map_congr_left
  intro entry _
  by_cases hfirst : entry.1 = first
  · by_cases hsecond : entry.1 = second
    · simp [hfirst.symm, hsecond.symm]
    · simp [hfirst.symm, hsecond]
  · by_cases hsecond : entry.1 = second
    · simp [hfirst, hsecond.symm]
    · simp [hfirst, hsecond]

theorem SideScores.increment_comm (scores : SideScores) (index index' : Fin 2) :
    (scores.increment index).increment index' = (scores.increment index').increment index := by
  unfold SideScores.increment
  split <;> split <;> simp_all

/-- What a collision does, as a change of the room. -/
def Room.resolution (playerCollision : Room.PlayerCollision K) (r : Room K ρ) : Room K ρ :=
  r.resolveCollision playerCollision

/-- It does not matter which player of a collision is the first. -/
theorem Room.resolution_swap (collisionTime : K) (first second : SessionId) :
    (Room.resolution ⟨collisionTime, first, second⟩ : Room K ρ → Room K ρ) =
      Room.resolution ⟨collisionTime, second, first⟩ := by
  funext r
  rw [Room.resolution, Room.resolution, Room.resolveCollision_eq, Room.resolveCollision_eq,
    updatePlayer_comm]

/-- One collision after another: neither changes the attacking side, which decides who scores. -/
theorem Room.resolution_resolution (collision collision' : Room.PlayerCollision K) (r : Room K ρ) :
    Room.resolution collision' (Room.resolution collision r) = { r with
      sideScores := match r.getAttackingSideIndexAtTickTime collision'.timeInTick with
        | some index => (r.scoresAfter collision.timeInTick).increment index
        | none => r.scoresAfter collision.timeInTick
      players := ((((r.updatePlayer collision.firstPlayer respawn).updatePlayer
        collision.secondPlayer respawn).updatePlayer collision'.firstPlayer respawn).updatePlayer
          collision'.secondPlayer respawn).players } := by
  rw [Room.resolution, Room.resolution, Room.resolveCollision_eq, Room.resolveCollision_eq]
  rfl

/-- **Collisions commute**: they add to the scores and respawn players. -/
theorem Room.resolution_comm (collision collision' : Room.PlayerCollision K) (r : Room K ρ) :
    Room.resolution collision' (Room.resolution collision r) =
      Room.resolution collision (Room.resolution collision' r) := by
  rw [Room.resolution_resolution, Room.resolution_resolution]
  congr 1
  · unfold Room.scoresAfter
    cases r.getAttackingSideIndexAtTickTime collision.timeInTick with
    | none => rfl
    | some index =>
        cases r.getAttackingSideIndexAtTickTime collision'.timeInTick with
        | none => rfl
        | some index' => exact SideScores.increment_comm r.sideScores index index'
  -- the two respawns of one collision pass those of the other, one at a time
  · rw [updatePlayer_comm (r.updatePlayer _ _) collision.secondPlayer collision'.firstPlayer,
      updatePlayer_comm r collision.firstPlayer collision'.firstPlayer,
      updatePlayer_comm _ collision.secondPlayer collision'.secondPlayer,
      updatePlayer_comm (r.updatePlayer _ _) collision.firstPlayer collision'.secondPlayer]

theorem Room.Reordered.resolution (h : r.Reordered r') (collision : Room.PlayerCollision K) :
    (Room.resolution collision r).Reordered (Room.resolution collision r') := by
  cases h with
  | intro hperm =>
      rw [Room.resolution, Room.resolution, Room.resolveCollision_eq, Room.resolveCollision_eq]
      exact Room.Reordered.intro { r with
        sideScores := r.scoresAfter collision.timeInTick
        players := ((r.updatePlayer collision.firstPlayer respawn).updatePlayer
          collision.secondPlayer respawn).players } ((hperm.map _).map _)

variable [HasSqrt K]

/-- The collision of a pair of players, as a change of the room. -/
def pairResolution (simulationDeltaSeconds : K) (first second : SessionId × Player K ρ) :
    Option (Room K ρ → Room K ρ) :=
  (findPlayerCollisionTimeDuringTick first.2.state second.2.state simulationDeltaSeconds).map
    fun collisionTime => Room.resolution ⟨collisionTime, first.1, second.1⟩

theorem pairResolution_comm (simulationDeltaSeconds : K) (first second : SessionId × Player K ρ) :
    pairResolution simulationDeltaSeconds first second =
      pairResolution simulationDeltaSeconds second first := by
  unfold pairResolution
  rw [findPlayerCollisionTimeDuringTick_comm]
  congr 1
  funext collisionTime
  exact Room.resolution_swap collisionTime first.1 second.1

/-- The changes of the collisions of a tick, pair by pair. -/
theorem findPlayerCollisions_map_resolution (simulationDeltaSeconds : K)
    (players : List (SessionId × Player K ρ)) :
    (Room.findPlayerCollisions simulationDeltaSeconds players).map Room.resolution =
      pairsWith (pairResolution simulationDeltaSeconds) players := by
  induction players with
  | nil => rfl
  | cons first behind ih =>
      rw [Room.findPlayerCollisions, List.map_append, ih, Room.collisionsWith, List.map_filterMap]
      rw [pairsWith]
      congr 2
      funext second
      rw [Option.map_map]
      rfl

/-- **Movements and collisions** keep the rooms apart by their order only. -/
theorem Room.Reordered.simulate (h : r.Reordered r') (deltaSeconds : K) :
    (r.simulate deltaSeconds).Reordered (r'.simulate deltaSeconds) := by
  -- all collisions are found before the first is resolved: they do not depend on each other
  have hchanges : ∀ r : Room K ρ, r.simulate deltaSeconds =
      applyChanges (pairsWith (pairResolution (r.simulationDelta deltaSeconds)) r.players)
        (r.forEachPlayer (Room.tickPlayer (r.simulationDelta deltaSeconds))) := by
    intro r
    rw [← findPlayerCollisions_map_resolution, applyChanges, List.foldl_map]
    rfl
  have hdelta : r'.simulationDelta deltaSeconds = r.simulationDelta deltaSeconds := by
    cases h with
    | intro => rfl
  rw [hchanges r, hchanges r', hdelta]
  have hperm := pairsWith_perm (pairResolution (r.simulationDelta deltaSeconds))
    (pairResolution_comm _) h.perm
  have hresolutions : ∀ change ∈ pairsWith (pairResolution (r.simulationDelta deltaSeconds))
      r.players, ∃ collision, change = Room.resolution collision := by
    intro change hchange
    rw [← findPlayerCollisions_map_resolution] at hchange
    obtain ⟨collision, -, rfl⟩ := List.mem_map.mp hchange
    exact ⟨collision, rfl⟩
  rw [← applyChanges_eq_of_perm hperm]
  · refine applyChanges_related (R := Room.Reordered) ?_ (h.forEachPlayer _)
    intro change hchange a b hab
    obtain ⟨collision, rfl⟩ := hresolutions change hchange
    exact hab.resolution collision
  · intro change hchange change' hchange' a
    obtain ⟨collision, rfl⟩ := hresolutions change hchange
    obtain ⟨collision', rfl⟩ := hresolutions change' hchange'
    exact Room.resolution_comm collision collision' a

end Collisions

/-! ## A tick, and a run of ticks -/

section Ticks

variable {r r' : Room K ρ} [IsStrictOrderedRing K] [FloorRing K] [HasSqrt K]

/-- **A tick** does not make a difference of the order. -/
theorem Room.Reordered.tick (h : r.Reordered r') (deltaSeconds : K) :
    (r.tick deltaSeconds).Reordered (r'.tick deltaSeconds) := by
  have hsimulate := h.simulate deltaSeconds
  have hstate : r'.gameState = r.gameState := by
    cases h with
    | intro => rfl
  have hremaining : r'.gameRemainingSeconds = r.gameRemainingSeconds := by
    cases h with
    | intro => rfl
  by_cases hidle : deltaSeconds ≤ 0 ∨ r.gameState ≠ .playing
  · rw [Room.tick_idle hidle, Room.tick_idle (hstate ▸ hidle)]
    exact h
  obtain ⟨hdelta, hplaying⟩ : 0 < deltaSeconds ∧ r.gameState = .playing := by
    simpa [not_or] using hidle
  have hsame : r'.simulationDelta deltaSeconds = r.simulationDelta deltaSeconds := by
    rw [Room.simulationDelta, Room.simulationDelta, hremaining]
  rw [Room.tick_playing hdelta hplaying, Room.tick_playing hdelta (hstate.trans hplaying), hsame,
    hremaining]
  -- the timers run on, and the end of the game is the end for each player
  generalize r.simulate deltaSeconds = moved at hsimulate
  generalize r'.simulate deltaSeconds = moved' at hsimulate
  cases hsimulate with
  | intro hperm =>
      split
      · exact Room.Reordered.finishGame (Room.Reordered.intro { moved with
          gameRemainingSeconds :=
            max 0 (r.gameRemainingSeconds - r.simulationDelta deltaSeconds) } hperm)
      · exact Room.Reordered.intro _ hperm

omit [Field K] [LinearOrder K] [IsStrictOrderedRing K] [FloorRing K] [HasSqrt K] in
theorem Room.Reordered.trans {r'' : Room K ρ} (h : r.Reordered r') (h' : r'.Reordered r'') :
    r.Reordered r'' := by
  cases h with
  | intro hperm =>
      cases h' with
      | intro hperm' => exact Room.Reordered.intro r (hperm.trans hperm')

/-- A run of ticks that may find the map in a new order every time. -/
inductive Room.TicksTo : List K → Room K ρ → Room K ρ → Prop where
  | done {r r' : Room K ρ} (h : r.Reordered r') : Room.TicksTo [] r r'
  | tick {r r' final : Room K ρ} {deltaSeconds : K} {deltas : List K} (h : r.Reordered r')
      (hrest : Room.TicksTo deltas (r'.tick deltaSeconds) final) :
      Room.TicksTo (deltaSeconds :: deltas) r final

/-- **A run of ticks** ends in the same room, whatever the orders were. -/
theorem Room.TicksTo.reordered {deltas : List K} {final : Room K ρ}
    (h : Room.TicksTo deltas r' final) (hstart : r.Reordered r') :
    (deltas.foldl Room.tick r).Reordered final := by
  induction h generalizing r with
  | done hend => exact hstart.trans hend
  | tick horder _ ih => exact ih ((hstart.trans horder).tick _)

/-- The keys of a room are those of a map, and no two players share an id. -/
structure Room.Keyed (r : Room K ρ) : Prop where
  keys : (r.players.map (·.1)).Nodup
  ids : r.playerIds.Nodup

theorem Room.tick_keys (r : Room K ρ) (deltaSeconds : K) :
    (r.tick deltaSeconds).players.map (·.1) = r.players.map (·.1) := by
  have hmap := congrArg (List.map (·.key)) (r.tick_frame deltaSeconds).1
  rw [Room.seats, Room.seats, List.map_map, List.map_map] at hmap
  exact hmap

theorem Room.tick_playerIds (r : Room K ρ) (deltaSeconds : K) :
    (r.tick deltaSeconds).playerIds = r.playerIds := by
  rw [Room.playerIds, Room.playerIds, (r.tick_frame deltaSeconds).1]

theorem Room.ticks_keys (r : Room K ρ) (deltas : List K) :
    (deltas.foldl Room.tick r).players.map (·.1) = r.players.map (·.1) := by
  induction deltas generalizing r with
  | nil => rfl
  | cons deltaSeconds deltas ih => exact (ih (r.tick deltaSeconds)).trans (r.tick_keys deltaSeconds)

theorem Room.ticks_playerIds (r : Room K ρ) (deltas : List K) :
    (deltas.foldl Room.tick r).playerIds = r.playerIds := by
  induction deltas generalizing r with
  | nil => rfl
  | cons deltaSeconds deltas ih =>
      exact (ih (r.tick deltaSeconds)).trans (r.tick_playerIds deltaSeconds)

/-- A room is keyed after any operations. -/
theorem Room.keyed_run [SessionObject ρ] (sessions : Room.Sessions ρ ω) (id : RoomId) (w : ω)
    (events : List (RoomEvent K ρ ω)) : (Room.run sessions (Room.create id, w) events).1.Keyed where
  keys := ((Room.consistent_create id).run sessions events).roster.keys
  ids := (Room.Numbered.run (Room.numbered_create id) sessions events).distinct

/-- Two players who walk towards each other. -/
def facingRoom : Room ℚ SessionId :=
  let entered := (((Room.create 1).enter (some 5)).2.enter (some 6)).2
  ((entered.applyPlayerInput 5 ⟨1000, 0, 0, false⟩).2.applyPlayerInput 6 ⟨-1000, 0, 0, false⟩).2

/-- **The order in which the players are visited makes no difference** to a tick of a map of
players, to what is captured before and after it, or to the collision time of two players; nor to a
run of ticks, each of which may find another order. Players who share an id would be captured in any
order, but no room that can be reached has such players. -/
theorem iteration_order_irrelevant [SessionObject ρ] (r : Room K ρ)
    (hkeys : (r.players.map (·.1)).Nodup)
    (players : List (SessionId × Player K ρ)) (horder : r.players.Perm players)
    (deltaSeconds : K) :
    (r.tick deltaSeconds).SameRoom ({ r with players := players }.tick deltaSeconds) ∧
    (r.playerIds.Nodup → ∀ serverTick,
      { r with players := players }.captureSnapshot serverTick = r.captureSnapshot serverTick ∧
      ({ r with players := players }.tick deltaSeconds).captureSnapshot serverTick =
        (r.tick deltaSeconds).captureSnapshot serverTick) ∧
    (∀ (first second : PlayerState K) (seconds : K),
      findPlayerCollisionTimeDuringTick first second seconds =
        findPlayerCollisionTimeDuringTick second first seconds) ∧
    (∀ deltas final, Room.TicksTo deltas r final →
      (deltas.foldl Room.tick r).SameRoom final ∧
      (r.playerIds.Nodup → ∀ serverTick,
        final.captureSnapshot serverTick =
          (deltas.foldl Room.tick r).captureSnapshot serverTick)) ∧
    ∀ {ω : Type} (sessions : Room.Sessions ρ ω) (id : RoomId) (w : ω)
      (events : List (RoomEvent K ρ ω)),
        (Room.run sessions (Room.create id, w) events).1.Keyed := by
  have hreordered : r.Reordered { r with players := players } := Room.Reordered.intro r horder
  have hticked := hreordered.tick deltaSeconds
  refine ⟨hticked.sameRoom ?_, fun hids serverTick => ⟨?_, ?_⟩,
    findPlayerCollisionTimeDuringTick_comm, ?_, Room.keyed_run⟩
  · rw [r.tick_keys]
    exact hkeys
  · exact hreordered.captureSnapshot hids serverTick
  · apply hticked.captureSnapshot
    rw [r.tick_playerIds]
    exact hids
  · intro deltas final hticks
    have hrun := hticks.reordered (Room.Reordered.intro r (List.Perm.refl _))
    refine ⟨hrun.sameRoom ?_, fun hids serverTick => hrun.captureSnapshot ?_ serverTick⟩
    · rw [r.ticks_keys]
      exact hkeys
    · rw [r.ticks_playerIds]
      exact hids

theorem iteration_order_irrelevant_facing :
    (facingRoom.tick (3 / 10)).SameRoom
        ({ facingRoom with players := facingRoom.players.reverse }.tick (3 / 10)) ∧
      ({ facingRoom with players := facingRoom.players.reverse }.tick (3 / 10)).captureSnapshot 1 =
        (facingRoom.tick (3 / 10)).captureSnapshot 1 ∧
      ((facingRoom.tick (3 / 10)).tick (1 / 4)).SameRoom
        (({ facingRoom with players := facingRoom.players.reverse }.tick (3 / 10)).tick
          (1 / 4)) := by
  obtain ⟨htick, hsnapshots, -, hruns, -⟩ := iteration_order_irrelevant facingRoom
    (by decide +kernel) _ (List.reverse_perm _).symm (3 / 10)
  have hreversed := Room.Reordered.intro facingRoom (List.reverse_perm facingRoom.players).symm
  exact ⟨htick, (hsnapshots (by decide +kernel) 1).2,
    (hruns [3 / 10, 1 / 4] _ (.tick hreversed (.tick (.intro _ (.refl _))
      (.done (.intro _ (.refl _)))))).1⟩

end Ticks

end NetworkArena.Server
