/-
# NetworkArena.Shared.WorldStateSnapshot -- the world state payload

`world_state_snapshot_message.h`. The snapshot types are generic in the type `F` that stands for
`float`: on the wire it is `FloatBits`, in the simulation it is a number. The encoder and the
decoder follow the source field by field, with its running offset.
-/
import NetworkArena.Shared.MessageCodec

namespace NetworkArena.Shared

open NetworkArena.Foundation

/-! ## The data -/

structure PlayerStateSnapshot (F : Type*) where
  playerId : PlayerId
  side : PlayerSide
  positionX : F
  positionY : F
  positionZ : F
  directionX : F
  directionY : F
  deriving DecidableEq, Repr

structure WorldStateSnapshot (F : Type*) where
  serverTick : ServerTick
  roomId : RoomId
  gamePlayState : GamePlayState
  attackingSide : PlayerSide
  winningSide : PlayerSide
  gameRemainingSeconds : F
  attackRoleSwitchRemainingSeconds : F
  flameScore : UInt32
  frostScore : UInt32
  players : List (PlayerStateSnapshot F)
  deriving DecidableEq, Repr

/-- The default-constructed snapshot of the source. -/
def WorldStateSnapshot.default : WorldStateSnapshot FloatBits :=
  ⟨0, 0, .waiting, .none, .none, .zero, .zero, 0, 0, []⟩

/-- The same snapshot with every float converted by `f`. -/
def PlayerStateSnapshot.map {F G : Type*} (f : F → G) (s : PlayerStateSnapshot F) :
    PlayerStateSnapshot G :=
  ⟨s.playerId, s.side, f s.positionX, f s.positionY, f s.positionZ, f s.directionX,
    f s.directionY⟩

/-- The same snapshot with every float converted by `f`. -/
def WorldStateSnapshot.map {F G : Type*} (f : F → G) (s : WorldStateSnapshot F) :
    WorldStateSnapshot G :=
  ⟨s.serverTick, s.roomId, s.gamePlayState, s.attackingSide, s.winningSide,
    f s.gameRemainingSeconds, f s.attackRoleSwitchRemainingSeconds, s.flameScore, s.frostScore,
    s.players.map (·.map f)⟩

/-! ## Sizes -/

def worldStateSnapshotFixedPayloadSize : ℕ := 8 + 4 + 1 * 3 + 4 * 2 + 4 * 2 + 2

def playerStateSnapshotSize : ℕ := 4 + 1 + 4 * 5

def maxWorldStateSnapshotPlayerCount : ℕ :=
  (maxMessageSize - (messageHeaderSize + worldStateSnapshotFixedPayloadSize)) /
    playerStateSnapshotSize

/-! ## Validity checks -/

def isValidGamePlayState (gamePlayState : GamePlayState) : Bool :=
  gamePlayState == .waiting || gamePlayState == .playing || gamePlayState == .finished

def isValidPlayerSide (side : PlayerSide) : Bool :=
  side == .none || side == .flame || side == .frost

def isAssignedPlayerSide (side : PlayerSide) : Bool :=
  side == .flame || side == .frost

def isFiniteWorldStateSnapshot (snapshot : WorldStateSnapshot FloatBits) : Bool :=
  snapshot.gameRemainingSeconds.isFinite && snapshot.attackRoleSwitchRemainingSeconds.isFinite

def isFinitePlayerStateSnapshot (state : PlayerStateSnapshot FloatBits) : Bool :=
  state.positionX.isFinite && state.positionY.isFinite && state.positionZ.isFinite &&
    state.directionX.isFinite && state.directionY.isFinite

/-- The check of the fixed fields after the ids, which encoder and decoder both spell out. -/
def hasInvalidGameFields (snapshot : WorldStateSnapshot FloatBits) : Bool :=
  !isValidGamePlayState snapshot.gamePlayState ||
    !isValidPlayerSide snapshot.attackingSide ||
    !isValidPlayerSide snapshot.winningSide ||
    !isFiniteWorldStateSnapshot snapshot ||
    snapshot.gameRemainingSeconds.belowZero ||
    snapshot.attackRoleSwitchRemainingSeconds.belowZero

/-- The check of one player, which encoder and decoder both spell out. -/
def isInvalidPlayer (state : PlayerStateSnapshot FloatBits) : Bool :=
  state.playerId == 0 || !isAssignedPlayerSide state.side || !isFinitePlayerStateSnapshot state

/-! ## Encoding -/

/-- The player loop of the encoder, from the running offset on. A bad player clears the payload. -/
def encodePlayers : List (PlayerStateSnapshot FloatBits) → List UInt8 → ℕ →
    Checked (Bool × List UInt8)
  | [], payload, _ => return (true, payload)
  | state :: players, payload, offset =>
    if isInvalidPlayer state then
      return (false, [])
    else do
      let payload ← writeUint32 payload offset state.playerId
      let offset := offset + 4
      let payload ← writeUint8 payload offset state.side.value
      let offset := offset + 1
      let payload ← writeFloat32 payload offset state.positionX
      let offset := offset + 4
      let payload ← writeFloat32 payload offset state.positionY
      let offset := offset + 4
      let payload ← writeFloat32 payload offset state.positionZ
      let offset := offset + 4
      let payload ← writeFloat32 payload offset state.directionX
      let offset := offset + 4
      let payload ← writeFloat32 payload offset state.directionY
      let offset := offset + 4
      encodePlayers players payload offset

/-- The flag the source returns, and the payload, which it clears before anything else. -/
def encodeWorldStateSnapshotPayload (snapshot : WorldStateSnapshot FloatBits) :
    Checked (Bool × List UInt8) :=
  if snapshot.serverTick == 0 || snapshot.roomId == 0 then
    return (false, [])
  else if hasInvalidGameFields snapshot then
    return (false, [])
  else if snapshot.players.length > maxWorldStateSnapshotPlayerCount then
    return (false, [])
  else do
    let payloadSize :=
      worldStateSnapshotFixedPayloadSize + snapshot.players.length * playerStateSnapshotSize
    let payload := List.replicate payloadSize 0
    let offset := 0
    let payload ← writeUint64 payload 0 snapshot.serverTick
    let offset := offset + 8
    let payload ← writeUint32 payload offset snapshot.roomId
    let offset := offset + 4
    let payload ← writeUint8 payload offset snapshot.gamePlayState.value
    let offset := offset + 1
    let payload ← writeUint8 payload offset snapshot.attackingSide.value
    let offset := offset + 1
    let payload ← writeUint8 payload offset snapshot.winningSide.value
    let offset := offset + 1
    let payload ← writeFloat32 payload offset snapshot.gameRemainingSeconds
    let offset := offset + 4
    let payload ← writeFloat32 payload offset snapshot.attackRoleSwitchRemainingSeconds
    let offset := offset + 4
    let payload ← writeUint32 payload offset snapshot.flameScore
    let offset := offset + 4
    let payload ← writeUint32 payload offset snapshot.frostScore
    let offset := offset + 4
    let payload ← writeUint16 payload offset (UInt16.ofNat snapshot.players.length)
    let offset := offset + 2
    encodePlayers snapshot.players payload offset

/-! ## Decoding -/

/-- The player loop of the decoder: `none` is its early `return false`. -/
def decodePlayers (payload : List UInt8) : ℕ → ℕ →
    Checked (Option (List (PlayerStateSnapshot FloatBits)))
  | 0, _ => return some []
  | count + 1, offset => do
    let playerId ← readUint32 payload offset
    let offset := offset + 4
    let side ← readUint8 payload offset
    let offset := offset + 1
    let positionX ← readFloat32 payload offset
    let offset := offset + 4
    let positionY ← readFloat32 payload offset
    let offset := offset + 4
    let positionZ ← readFloat32 payload offset
    let offset := offset + 4
    let directionX ← readFloat32 payload offset
    let offset := offset + 4
    let directionY ← readFloat32 payload offset
    let offset := offset + 4
    let state : PlayerStateSnapshot FloatBits :=
      ⟨playerId, ⟨side⟩, positionX, positionY, positionZ, directionX, directionY⟩
    if isInvalidPlayer state then
      return none
    else
      return (← decodePlayers payload count offset).map (state :: ·)

/-- The flag the source returns, and the output snapshot, which starts as `snapshot`. -/
def decodeWorldStateSnapshotPayload (payload : List UInt8)
    (snapshot : WorldStateSnapshot FloatBits) : Checked (Bool × WorldStateSnapshot FloatBits) :=
  if payload.length < worldStateSnapshotFixedPayloadSize then
    return (false, snapshot)
  else do
    let offset := 0
    let serverTick ← readUint64 payload 0
    let offset := offset + 8
    let roomId ← readUint32 payload offset
    let offset := offset + 4
    let gamePlayState ← readUint8 payload offset
    let offset := offset + 1
    let attackingSide ← readUint8 payload offset
    let offset := offset + 1
    let winningSide ← readUint8 payload offset
    let offset := offset + 1
    let gameRemainingSeconds ← readFloat32 payload offset
    let offset := offset + 4
    let attackRoleSwitchRemainingSeconds ← readFloat32 payload offset
    let offset := offset + 4
    let flameScore ← readUint32 payload offset
    let offset := offset + 4
    let frostScore ← readUint32 payload offset
    let offset := offset + 4
    let playerCount ← readUint16 payload offset
    let offset := offset + 2
    let decodedSnapshot : WorldStateSnapshot FloatBits :=
      ⟨serverTick, roomId, ⟨gamePlayState⟩, ⟨attackingSide⟩, ⟨winningSide⟩, gameRemainingSeconds,
        attackRoleSwitchRemainingSeconds, flameScore, frostScore, []⟩
    if decodedSnapshot.serverTick == 0 || decodedSnapshot.roomId == 0 then
      return (false, snapshot)
    else if hasInvalidGameFields decodedSnapshot then
      return (false, snapshot)
    else if playerCount.toNat > maxWorldStateSnapshotPlayerCount then
      return (false, snapshot)
    else if payload.length ≠
        worldStateSnapshotFixedPayloadSize + playerCount.toNat * playerStateSnapshotSize then
      return (false, snapshot)
    else
      match ← decodePlayers payload playerCount.toNat offset with
      | none => return (false, snapshot)
      | some players => return (true, { decodedSnapshot with players := players })

end NetworkArena.Shared
