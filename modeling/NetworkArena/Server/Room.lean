/-
# NetworkArena.Server.Room -- the room, as the source computes it

`player.h`, `player.cpp`, `room.h` and `room.cpp`. The simulation's `float` is a type `K` of exact
numbers, an ordered field with integer parts and a square root; what is proved about it is said over
the lawful ones. The source's decimal constants are the rationals they are written as.

`players_`, an unordered map, is a list of its entries in some iteration order. A player refers to
its session through `ρ`, of which the room only asks the id. The scores are counted in `ℕ`. What the
room prints is left out.
-/
import NetworkArena.Server.Session
import NetworkArena.Shared.WorldStateSnapshot
import Mathlib.Algebra.Order.Floor.Ring
import Mathlib.Algebra.Order.Ring.Rat
import Mathlib.Data.List.Destutter
import Mathlib.Data.List.Sort
import Mathlib.Data.Rat.Floor
import Mathlib.Data.Rat.Sqrt
import Mathlib.Tactic.FieldSimp
import Mathlib.Tactic.Linarith
import Mathlib.Tactic.Positivity

namespace NetworkArena.Server

open NetworkArena.Shared

/-! ## Numbers -/

/-- `std::sqrt`. -/
class HasSqrt (K : Type) where
  sqrt : K → K

/-- The exact root of a rational that has one. -/
instance : HasSqrt ℚ := ⟨Rat.sqrt⟩

/-- The binary exponent of a positive number, as far as `fuel` reaches. -/
def binaryExponent : ℕ → ℚ → ℤ
  | 0, _ => 0
  | fuel + 1, x =>
    if 2 ≤ x then binaryExponent fuel (x / 2) + 1
    else if x < 1 then binaryExponent fuel (2 * x) - 1
    else 0

/-- The nearest `float` to a rational number, ties to even; for runs in rational numbers. -/
def nearestFloat (x : ℚ) : FloatBits :=
  let exponent := max (binaryExponent 150 |x|) (-126)
  let scaled := |x| * 2 ^ (23 - exponent)
  let below := ⌊scaled⌋.toNat
  let behind := scaled - below
  let mantissa :=
    if 1 / 2 < behind ∨ (behind = 1 / 2 ∧ below % 2 = 1) then below + 1 else below
  let sign := if x < 0 then 2 ^ 31 else 0
  ⟨UInt32.ofNat (sign + (exponent + 126).toNat * 2 ^ 23 + mantissa)⟩

example : [30, -(15 / 10), 1 / 10, 30 - 1 / 60, 0].map nearestFloat =
    [⟨0x41F00000⟩, ⟨0xBFC00000⟩, ⟨0x3DCCCCCD⟩, ⟨0x41EFDDDE⟩, .zero] := by
  decide +kernel

/-- What is relied on of `std::sqrt`: it returns the non-negative root. -/
class LawfulSqrt (K : Type) [Field K] [LinearOrder K] [HasSqrt K] : Prop where
  sqrt_nonneg : ∀ x : K, 0 ≤ x → 0 ≤ HasSqrt.sqrt x
  sqrt_mul_self : ∀ x : K, 0 ≤ x → HasSqrt.sqrt x * HasSqrt.sqrt x = x

-- one fact for each numeral of `K` that several modules use: all their definitions refer to it
instance atLeastTwo_two : Nat.AtLeastTwo 2 := ⟨by decide⟩

instance atLeastTwo_three : Nat.AtLeastTwo 3 := ⟨by decide⟩

instance atLeastTwo_four : Nat.AtLeastTwo 4 := ⟨by decide⟩

instance atLeastTwo_ten : Nat.AtLeastTwo 10 := ⟨by decide⟩

instance atLeastTwo_fifteen : Nat.AtLeastTwo 15 := ⟨by decide⟩

instance atLeastTwo_thirty : Nat.AtLeastTwo 30 := ⟨by decide⟩

/-- `std::clamp`. -/
def clamp {K : Type} [LinearOrder K] (value low high : K) : K :=
  if value < low then low else if high < value then high else value

/-- What the room asks of a session object. -/
class SessionObject (ρ : Type) where
  getId : ρ → SessionId

/-- A session that is known by its id. -/
instance : SessionObject SessionId := ⟨fun sessionId => sessionId⟩

variable {K ρ ω : Type}

/-! ## Players -/

structure PlayerState (K : Type) where
  side : PlayerSide
  positionX : K
  positionY : K
  positionZ : K
  directionX : K
  directionY : K
  dashInputActive : Bool
  dashDirectionX : K
  dashDirectionY : K
  dashRemainingSeconds : K
  dashCooldownRemainingSeconds : K
  deriving DecidableEq, Repr

structure Player (K ρ : Type) where
  playerId : PlayerId
  sessionId : SessionId
  session : Option ρ
  state : PlayerState K
  deriving DecidableEq, Repr

section Definitions

variable [Field K] [LinearOrder K]

/-- The default-constructed state. -/
def PlayerState.initial : PlayerState K := ⟨.none, 0, 0, 0, 0, 0, false, 0, 0, 0, 0⟩

/-- The constructor of `Player`, for a session that is not null. -/
def Player.create [SessionObject ρ] (playerId : PlayerId) (session : ρ) : Player K ρ :=
  if playerId = 0 then ⟨0, 0, none, .initial⟩
  else ⟨playerId, SessionObject.getId session, some session, .initial⟩

/-! ## Constants -/

def playerMoveSpeed : K := 5

def playerDashSpeed : K := 15

def playerDashDurationSeconds : K := 16 / 100

def playerDashCooldownSeconds : K := 1

def attackRoleSwitchIntervalSeconds : K := 3

def gameDurationSeconds : K := 30

def arenaMinX : K := -3

def arenaMaxX : K := 3

def arenaMinY : K := -(275 / 100)

def arenaMaxY : K := 275 / 100

def playerBoundaryMargin : K := 15 / 100

def playerCollisionRadius : K := 15 / 100

/-- `kEpsilon` of `FindPlayerCollisionTime`. -/
def collisionEpsilon : K := 1 / 1000000

def flameSideIndex : Fin 2 := 0

def frostSideIndex : Fin 2 := 1

/-! ## Input -/

structure NormalizedPlayerInput (K : Type) where
  moveX : K
  moveY : K
  moveZ : K

def normalizePlayerInput [HasSqrt K] (input : PlayerInputPayload) : NormalizedPlayerInput K :=
  let moveX : K := (input.moveX.toInt : K) / (maxPlayerInputAxisRawValue.toInt : K)
  let moveY : K := (input.moveY.toInt : K) / (maxPlayerInputAxisRawValue.toInt : K)
  let moveZ : K := 0
  let lengthSquared := moveX * moveX + moveY * moveY + moveZ * moveZ
  if lengthSquared > 1 then
    let inverseLength := 1 / HasSqrt.sqrt lengthSquared
    ⟨moveX * inverseLength, moveY * inverseLength, moveZ * inverseLength⟩
  else ⟨moveX, moveY, moveZ⟩

/-! ## Collision detection -/

structure PlayerMovement (K : Type) where
  startX : K
  startY : K
  velocityX : K
  velocityY : K

/-- The boundaries of the parts of a tick in which both players move at constant velocity. -/
def collectPlayerMovementBoundaries (firstPlayerState secondPlayerState : PlayerState K)
    (deltaSeconds : K) : List K :=
  let dashEnd (state : PlayerState K) : List K :=
    if state.dashRemainingSeconds > 0 ∧ state.dashRemainingSeconds < deltaSeconds then
      [state.dashRemainingSeconds]
    else []
  let movementBoundaries :=
    [0] ++ dashEnd firstPlayerState ++ dashEnd secondPlayerState ++ [deltaSeconds]
  (movementBoundaries.insertionSort (· ≤ ·)).destutter (· ≠ ·)

def findPlayerCollisionTime [HasSqrt K] (first second : PlayerMovement K) (deltaSeconds : K) :
    Option K :=
  let relativeStartX := second.startX - first.startX
  let relativeStartY := second.startY - first.startY
  let relativeVelocityX := second.velocityX - first.velocityX
  let relativeVelocityY := second.velocityY - first.velocityY
  let collisionDistance : K := playerCollisionRadius * 2
  let c := relativeStartX * relativeStartX + relativeStartY * relativeStartY -
    collisionDistance * collisionDistance
  -- in contact from the start
  if c ≤ 0 then some 0
  else
    let a := relativeVelocityX * relativeVelocityX + relativeVelocityY * relativeVelocityY
    -- hardly any relative movement
    if a < collisionEpsilon then none
    else
      let b := 2 * (relativeStartX * relativeVelocityX + relativeStartY * relativeVelocityY)
      let discriminant := b * b - 4 * a * c
      -- the relative path misses the circle around the other player
      if discriminant < 0 then none
      else
        -- the smaller root is when the circle is entered
        let collisionTime := (-b - HasSqrt.sqrt discriminant) / (2 * a)
        if collisionTime < 0 ∨ collisionTime > deltaSeconds then none else some collisionTime

/-- The velocity of a player in a part of the tick that starts at `segmentStartTime`. -/
def segmentVelocity (state : PlayerState K) (segmentStartTime : K) : K × K :=
  if state.dashRemainingSeconds > segmentStartTime then
    (state.dashDirectionX * playerDashSpeed, state.dashDirectionY * playerDashSpeed)
  else (state.directionX * playerMoveSpeed, state.directionY * playerMoveSpeed)

/-- The loop of `FindPlayerCollisionTimeDuringTick` over the boundaries that are left, with the
positions of the two players at the first of them. -/
def findCollisionInSegments [HasSqrt K] (firstPlayerState secondPlayerState : PlayerState K) :
    List K → K × K → K × K → Option K
  | segmentStartTime :: segmentEndTime :: movementBoundaries, firstStart, secondStart =>
    let segmentDeltaSeconds := segmentEndTime - segmentStartTime
    let firstVelocity := segmentVelocity firstPlayerState segmentStartTime
    let secondVelocity := segmentVelocity secondPlayerState segmentStartTime
    match findPlayerCollisionTime
        ⟨firstStart.1, firstStart.2, firstVelocity.1, firstVelocity.2⟩
        ⟨secondStart.1, secondStart.2, secondVelocity.1, secondVelocity.2⟩
        segmentDeltaSeconds with
    | some collisionTime => some (segmentStartTime + collisionTime)
    | none =>
      findCollisionInSegments firstPlayerState secondPlayerState
        (segmentEndTime :: movementBoundaries)
        (firstStart.1 + firstVelocity.1 * segmentDeltaSeconds,
          firstStart.2 + firstVelocity.2 * segmentDeltaSeconds)
        (secondStart.1 + secondVelocity.1 * segmentDeltaSeconds,
          secondStart.2 + secondVelocity.2 * segmentDeltaSeconds)
  | _, _, _ => none

def findPlayerCollisionTimeDuringTick [HasSqrt K]
    (firstPlayerState secondPlayerState : PlayerState K) (deltaSeconds : K) : Option K :=
  findCollisionInSegments firstPlayerState secondPlayerState
    (collectPlayerMovementBoundaries firstPlayerState secondPlayerState deltaSeconds)
    (firstPlayerState.positionX, firstPlayerState.positionY)
    (secondPlayerState.positionX, secondPlayerState.positionY)

end Definitions

/-! ## The room -/

/-- `sideScores_`. -/
structure SideScores where
  flame : ℕ := 0
  frost : ℕ := 0
  deriving DecidableEq, Repr

def SideScores.increment (scores : SideScores) (index : Fin 2) : SideScores :=
  if index = flameSideIndex then { scores with flame := scores.flame + 1 }
  else { scores with frost := scores.frost + 1 }

/-- The side with the higher score, if there is one. -/
def SideScores.winner (scores : SideScores) : PlayerSide :=
  if scores.flame > scores.frost then .flame
  else if scores.frost > scores.flame then .frost
  else .none

structure Room (K ρ : Type) where
  roomId : RoomId
  nextPlayerId : PlayerId
  gameState : GamePlayState
  attackingSide : PlayerSide
  attackRoleSwitchRemainingSeconds : K
  gameRemainingSeconds : K
  winningSide : PlayerSide
  sideScores : SideScores
  players : List (SessionId × Player K ρ)
  deriving DecidableEq, Repr

namespace Room

def maxPlayerCount : ℕ := 2

section Definitions

variable [Field K] [LinearOrder K]

/-- The constructor. -/
def create (id : RoomId) : Room K ρ := ⟨id, 1, .waiting, .none, 0, 0, .none, {}, []⟩

/-! ## Small parts -/

def getPlayerCount (r : Room K ρ) : ℕ := r.players.length

def hasCapacity (r : Room K ρ) : Bool := decide (r.getPlayerCount < maxPlayerCount)

def generatePlayerId (r : Room K ρ) : Option PlayerId × Room K ρ :=
  if r.nextPlayerId = 0 then (none, r)
  else
    let playerId := r.nextPlayerId
    -- behind the last id the counter stays 0
    if r.nextPlayerId = 4294967295 then (some playerId, { r with nextPlayerId := 0 })
    else (some playerId, { r with nextPlayerId := r.nextPlayerId + 1 })

def resetPlayerPosition (state : PlayerState K) : PlayerState K :=
  if state.side = .flame then
    { state with positionX := -(15 / 10), positionY := 0, positionZ := 0 }
  else if state.side = .frost then
    { state with positionX := 15 / 10, positionY := 0, positionZ := 0 }
  else state

def hasPlayerOnSide (r : Room K ρ) (side : PlayerSide) : Bool :=
  r.players.any fun entry => entry.2.state.side == side

def isAttackDefenseReady (r : Room K ρ) : Bool :=
  r.hasPlayerOnSide .flame && r.hasPlayerOnSide .frost

/-- Change the state of every player. -/
def forEachPlayer (r : Room K ρ) (f : PlayerState K → PlayerState K) : Room K ρ :=
  { r with
    players := r.players.map fun entry => (entry.1, { entry.2 with state := f entry.2.state }) }

/-- Change the state of the player with a given session id. -/
def updatePlayer (r : Room K ρ) (sessionId : SessionId) (f : PlayerState K → PlayerState K) :
    Room K ρ :=
  { r with
    players := r.players.map fun entry =>
      if entry.1 = sessionId then (entry.1, { entry.2 with state := f entry.2.state }) else entry }

def findPlayer (r : Room K ρ) (sessionId : SessionId) : Option (Player K ρ) :=
  (r.players.find? fun entry => entry.1 = sessionId).map (·.2)

/-! ## The game -/

/-- What `StartGame` does to one player. -/
def startPlayer (state : PlayerState K) : PlayerState K :=
  { resetPlayerPosition state with
    directionX := 0
    directionY := 0
    dashDirectionX := 0
    dashDirectionY := 0
    dashRemainingSeconds := 0
    dashCooldownRemainingSeconds := 0
    dashInputActive := false }

def startGame (r : Room K ρ) : Room K ρ :=
  { r with
    gameState := .playing
    sideScores := {}
    winningSide := .none
    gameRemainingSeconds := gameDurationSeconds
    attackingSide := .flame
    attackRoleSwitchRemainingSeconds := attackRoleSwitchIntervalSeconds }.forEachPlayer startPlayer

def stopGame (r : Room K ρ) : Room K ρ :=
  { r with
    gameState := .waiting
    attackingSide := .none
    attackRoleSwitchRemainingSeconds := 0
    gameRemainingSeconds := 0
    winningSide := .none
    sideScores := {} }

/-- The end of a dash. -/
def endDash (state : PlayerState K) : PlayerState K :=
  { state with dashDirectionX := 0, dashDirectionY := 0, dashRemainingSeconds := 0 }

def finishGame (r : Room K ρ) : Room K ρ :=
  { r with
    winningSide := r.sideScores.winner
    gameState := .finished
    attackingSide := .none
    attackRoleSwitchRemainingSeconds := 0
    gameRemainingSeconds := 0 }.forEachPlayer endDash

/-- `SwitchAttackingSide`, of the attacking side. -/
def switchAttackingSide (attackingSide : PlayerSide) : PlayerSide :=
  if attackingSide = .flame then .frost
  else if attackingSide = .frost then .flame
  else attackingSide

/-- The loop of `UpdateAttackDefenseState`: the attacking side and the time left to it. -/
def switchLoop [IsStrictOrderedRing K] [FloorRing K] (attackingSide : PlayerSide) (remaining : K) :
    PlayerSide × K :=
  if _h : remaining ≤ 0 then
    switchLoop (switchAttackingSide attackingSide) (remaining + attackRoleSwitchIntervalSeconds)
  else (attackingSide, remaining)
termination_by (⌊-remaining / 3⌋ + 1).toNat
decreasing_by
  have hstep : -(remaining + attackRoleSwitchIntervalSeconds) / 3 = -remaining / 3 - 1 := by
    rw [attackRoleSwitchIntervalSeconds]
    ring
  have hpos : (0 : K) ≤ -remaining / 3 := by
    have hneg : 0 ≤ -remaining := neg_nonneg.mpr _h
    positivity
  have hfloor : 0 ≤ ⌊-remaining / 3⌋ := Int.floor_nonneg.mpr hpos
  rw [hstep, Int.floor_sub_one]
  omega

def updateAttackDefenseState [IsStrictOrderedRing K] [FloorRing K] (r : Room K ρ)
    (deltaSeconds : K) : Room K ρ :=
  let (attackingSide, remaining) :=
    switchLoop r.attackingSide (r.attackRoleSwitchRemainingSeconds - deltaSeconds)
  { r with attackingSide, attackRoleSwitchRemainingSeconds := remaining }

def getPlayerSideIndex (side : PlayerSide) : Option (Fin 2) :=
  if side = .flame then some flameSideIndex
  else if side = .frost then some frostSideIndex
  else none

def getOppositePlayerSideIndex (side : PlayerSide) : Option (Fin 2) :=
  if side = .flame then some frostSideIndex
  else if side = .frost then some flameSideIndex
  else none

def getAttackingSideIndexAtTickTime (r : Room K ρ) (elapsedSeconds : K) : Option (Fin 2) :=
  if elapsedSeconds < r.attackRoleSwitchRemainingSeconds then getPlayerSideIndex r.attackingSide
  else getOppositePlayerSideIndex r.attackingSide

/-! ## Entering and leaving -/

def enter [SessionObject ρ] (r : Room K ρ) (session : Option ρ) : Option PlayerId × Room K ρ :=
  match session with
  | none => (none, r)
  | some session =>
    let sessionId := SessionObject.getId session
    if sessionId = 0 then (none, r)
    else if !r.hasCapacity then (none, r)
    else
      let flameSideOccupied := r.hasPlayerOnSide .flame
      let frostSideOccupied := r.hasPlayerOnSide .frost
      let playerSide : PlayerSide :=
        if !flameSideOccupied then .flame
        else if !frostSideOccupied then .frost
        else .none
      if playerSide = .none then (none, r)
      else
        match r.generatePlayerId with
        | (none, r) => (none, r)
        | (some playerId, r) =>
          -- `try_emplace` keeps the player of a known session; the id that was drawn is lost
          if r.players.any fun entry => entry.1 = sessionId then (none, r)
          else
            let player : Player K ρ := Player.create playerId session
            let state := resetPlayerPosition { player.state with side := playerSide }
            let r := { r with
              players := r.players ++ [(sessionId, { player with state := state })] }
            (some playerId,
              if r.gameState = .waiting ∧ r.isAttackDefenseReady = true then r.startGame else r)

def leave (r : Room K ρ) (sessionId : SessionId) : Room K ρ :=
  if r.players.any fun entry => entry.1 = sessionId then
    let r := { r with players := r.players.filter fun entry => entry.1 ≠ sessionId }
    if !r.isAttackDefenseReady then r.stopGame else r
  else r

/-! ## Input -/

/-- What an input does to the state of its player. -/
def applyInput [HasSqrt K] (gameState : GamePlayState) (input : PlayerInputPayload)
    (state : PlayerState K) : PlayerState K :=
  let normalizedInput : NormalizedPlayerInput K := normalizePlayerInput input
  -- a dash is asked for when the key goes down, not while it stays down
  let dashRequested := input.dash && !state.dashInputActive
  let state := { state with
    directionX := normalizedInput.moveX
    directionY := normalizedInput.moveY
    dashInputActive := input.dash }
  if gameState ≠ .playing then state
  else if !dashRequested then state
  else if state.dashCooldownRemainingSeconds > 0 then state
  else if normalizedInput.moveX = 0 ∧ normalizedInput.moveY = 0 then state
  else
    { state with
      dashDirectionX := normalizedInput.moveX
      dashDirectionY := normalizedInput.moveY
      dashRemainingSeconds := playerDashDurationSeconds
      dashCooldownRemainingSeconds := playerDashCooldownSeconds }

def applyPlayerInput [HasSqrt K] (r : Room K ρ) (sessionId : SessionId)
    (input : PlayerInputPayload) : Bool × Room K ρ :=
  if r.players.any fun entry => entry.1 = sessionId then
    (true, r.updatePlayer sessionId (applyInput r.gameState input))
  else (false, r)

/-! ## A tick -/

/-- The movement of one player, before its position is limited to the arena. -/
def movePlayer (simulationDeltaSeconds : K) (state : PlayerState K) : PlayerState K :=
  let remainingMovementSeconds := simulationDeltaSeconds
  let (state, remainingMovementSeconds) :=
    if state.dashRemainingSeconds > 0 then
      let dashDeltaSeconds := min simulationDeltaSeconds state.dashRemainingSeconds
      ({ state with
        positionX := state.positionX + state.dashDirectionX * playerDashSpeed * dashDeltaSeconds
        positionY := state.positionY + state.dashDirectionY * playerDashSpeed * dashDeltaSeconds
        dashRemainingSeconds := max 0 (state.dashRemainingSeconds - dashDeltaSeconds) },
        remainingMovementSeconds - dashDeltaSeconds)
    else (state, remainingMovementSeconds)
  -- what is left of the tick behind a dash is walked
  if remainingMovementSeconds > 0 then
    { state with
      positionX := state.positionX + state.directionX * playerMoveSpeed * remainingMovementSeconds
      positionY := state.positionY + state.directionY * playerMoveSpeed * remainingMovementSeconds }
  else state

/-- What a tick does to one player, collisions aside. -/
def tickPlayer (simulationDeltaSeconds : K) (state : PlayerState K) : PlayerState K :=
  let state := movePlayer simulationDeltaSeconds state
  { state with
    dashCooldownRemainingSeconds :=
      max 0 (state.dashCooldownRemainingSeconds - simulationDeltaSeconds)
    positionX :=
      clamp state.positionX (arenaMinX + playerBoundaryMargin) (arenaMaxX - playerBoundaryMargin)
    positionY :=
      clamp state.positionY (arenaMinY + playerBoundaryMargin) (arenaMaxY - playerBoundaryMargin)
    positionZ := 0 }

/-- A collision found in a tick, with the keys of the two players. -/
structure PlayerCollision (K : Type) where
  timeInTick : K
  firstPlayer : SessionId
  secondPlayer : SessionId

/-- The collisions of one player with those behind it in the iteration order. -/
def collisionsWith [HasSqrt K] (simulationDeltaSeconds : K) (first : SessionId × Player K ρ)
    (behind : List (SessionId × Player K ρ)) : List (PlayerCollision K) :=
  behind.filterMap fun second =>
    (findPlayerCollisionTimeDuringTick first.2.state second.2.state simulationDeltaSeconds).map
      fun currentCollisionTime => ⟨currentCollisionTime, first.1, second.1⟩

/-- The collisions of a tick, over all pairs of players. -/
def findPlayerCollisions [HasSqrt K] (simulationDeltaSeconds : K) :
    List (SessionId × Player K ρ) → List (PlayerCollision K)
  | [] => []
  | first :: behind =>
    collisionsWith simulationDeltaSeconds first behind ++
      findPlayerCollisions simulationDeltaSeconds behind

/-- What a collision does to the room. -/
def resolveCollision (r : Room K ρ) (playerCollision : PlayerCollision K) : Room K ρ :=
  let r :=
    match r.getAttackingSideIndexAtTickTime playerCollision.timeInTick with
    | some index => { r with sideScores := r.sideScores.increment index }
    | none => r
  let respawn (state : PlayerState K) : PlayerState K := resetPlayerPosition (endDash state)
  (r.updatePlayer playerCollision.firstPlayer respawn).updatePlayer
    playerCollision.secondPlayer respawn

def tick [IsStrictOrderedRing K] [FloorRing K] [HasSqrt K] (r : Room K ρ) (deltaSeconds : K) :
    Room K ρ :=
  if deltaSeconds ≤ 0 then r
  else if r.gameState ≠ .playing then r
  else
    let simulationDeltaSeconds := min deltaSeconds r.gameRemainingSeconds
    -- collisions are found on the states at the start of the tick
    let playerCollisions := findPlayerCollisions simulationDeltaSeconds r.players
    let r := r.forEachPlayer (tickPlayer simulationDeltaSeconds)
    let r := playerCollisions.foldl resolveCollision r
    let r := { r with
      gameRemainingSeconds := max 0 (r.gameRemainingSeconds - simulationDeltaSeconds) }
    if r.gameRemainingSeconds ≤ 0 then r.finishGame
    else r.updateAttackDefenseState simulationDeltaSeconds

/-! ## Snapshots -/

def snapshotPlayer (gameRunning : Bool) (player : Player K ρ) : PlayerStateSnapshot K :=
  let state := player.state
  let (snapshotDirectionX, snapshotDirectionY) :=
    if state.dashRemainingSeconds > 0 then (state.dashDirectionX, state.dashDirectionY)
    else (state.directionX, state.directionY)
  ⟨player.playerId, state.side, state.positionX, state.positionY, state.positionZ,
    if gameRunning then snapshotDirectionX else 0, if gameRunning then snapshotDirectionY else 0⟩

def captureSnapshot (r : Room K ρ) (serverTick : ServerTick) : WorldStateSnapshot K :=
  let gameRunning := r.gameState == .playing
  { serverTick := serverTick
    roomId := r.roomId
    gamePlayState := r.gameState
    attackingSide := r.attackingSide
    winningSide := r.winningSide
    gameRemainingSeconds := r.gameRemainingSeconds
    attackRoleSwitchRemainingSeconds := r.attackRoleSwitchRemainingSeconds
    flameScore := UInt32.ofNat r.sideScores.flame
    frostScore := UInt32.ofNat r.sideScores.frost
    players := (r.players.map fun entry => snapshotPlayer gameRunning entry.2).insertionSort
      fun left right => left.playerId ≤ right.playerId }

end Definitions

/-! ## Broadcasting -/

/-- What the room does with sessions, in a world `ω` of them. `stop` also returns the ids for which
the close callback it runs calls `Leave`. -/
structure Sessions (ρ ω : Type) where
  lock : ρ → ω → Bool
  send : ρ → MessageType → List UInt8 → ω → Bool × ω
  stop : ρ → ω → List SessionId × ω

section Broadcast

variable [Field K] [LinearOrder K] [SessionObject ρ]

/-- The first loop of `Broadcast`: who has expired, and to whom the message could not be sent. -/
def broadcastLoop (sessions : Sessions ρ ω) (type : MessageType) (payload : List UInt8) :
    List (SessionId × Player K ρ) → ω → (List SessionId × List ρ) × ω
  | [], w => (([], []), w)
  | entry :: players, w =>
    match entry.2.session.filter (sessions.lock · w) with
    | none =>
      let ((expiredSessionIds, failedSessions), w) := broadcastLoop sessions type payload players w
      ((entry.1 :: expiredSessionIds, failedSessions), w)
    | some session =>
      let (sent, w) := sessions.send session type payload w
      let ((expiredSessionIds, failedSessions), w) := broadcastLoop sessions type payload players w
      ((expiredSessionIds, if !sent then session :: failedSessions else failedSessions), w)

/-- The last loop of `Broadcast`. -/
def dropFailed (sessions : Sessions ρ ω) : List ρ → Room K ρ → ω → Room K ρ × ω
  | [], r, w => (r, w)
  | session :: failedSessions, r, w =>
    let r := r.leave (SessionObject.getId session)
    -- the callback that `Stop` runs leaves the room once more
    let (left, w) := sessions.stop session w
    dropFailed sessions failedSessions (left.foldl leave r) w

def broadcast (sessions : Sessions ρ ω) (type : MessageType) (payload : List UInt8) (r : Room K ρ)
    (w : ω) : Room K ρ × ω :=
  let ((expiredSessionIds, failedSessions), w) :=
    broadcastLoop sessions type payload r.players w
  dropFailed sessions failedSessions (expiredSessionIds.foldl leave r) w

end Broadcast

end Room

/-! ## Runs of a room -/

/-- The operations of a room, and anything else that happens to the sessions. -/
inductive RoomEvent (K ρ ω : Type) where
  | enter (session : Option ρ)
  | leave (sessionId : SessionId)
  | applyPlayerInput (sessionId : SessionId) (input : PlayerInputPayload)
  | tick (deltaSeconds : K)
  | broadcast (type : MessageType) (payload : List UInt8)
  | sessions (w : ω)

/-- One operation of the room, in a world of sessions. -/
def Room.step [Field K] [LinearOrder K] [IsStrictOrderedRing K] [FloorRing K] [HasSqrt K]
    [SessionObject ρ] (sessions : Room.Sessions ρ ω) (t : Room K ρ × ω) :
    RoomEvent K ρ ω → Room K ρ × ω
  | .enter session => ((t.1.enter session).2, t.2)
  | .leave sessionId => (t.1.leave sessionId, t.2)
  | .applyPlayerInput sessionId input => ((t.1.applyPlayerInput sessionId input).2, t.2)
  | .tick deltaSeconds => (t.1.tick deltaSeconds, t.2)
  | .broadcast type payload => t.1.broadcast sessions type payload t.2
  | .sessions w => (t.1, w)

/-- The room and the sessions after a list of operations. -/
def Room.run [Field K] [LinearOrder K] [IsStrictOrderedRing K] [FloorRing K] [HasSqrt K]
    [SessionObject ρ] (sessions : Room.Sessions ρ ω) (t : Room K ρ × ω)
    (events : List (RoomEvent K ρ ω)) : Room K ρ × ω :=
  events.foldl (Room.step sessions) t

end NetworkArena.Server
