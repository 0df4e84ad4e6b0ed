/-
# NetworkArena.Server.Server -- the server, its registry and its default room

`server.cpp` and `session_manager.cpp`. The server holds the sessions it has registered, the default
room, and the number of the last tick. What it does with session objects is a parameter
(`SessionObjects`), in a world `ω` of them, as in `Room.broadcast`; a session object is a value of
`ρ`.

The default room is created before the first connection is accepted and never removed, so `FindRoom`
does not fail. An accept or a timer that completes with an error changes nothing and is left out,
and so is what is printed. The last two fields are histories.
-/
import NetworkArena.Server.RoomPhase
import NetworkArena.Shared.WorldStateFormat

set_option linter.dupNamespace false

namespace NetworkArena.Server

open NetworkArena.Shared

variable {K ρ ω : Type}

/-! ## Sessions and server -/

/-- What the server does with session objects. -/
structure SessionObjects (ρ ω : Type) where
  /-- Whether an operation asio still owes keeps an object alive. -/
  isHeld : ρ → ω → Bool
  create : SessionId → ω → ρ × ω
  /-- What becomes of an object that nothing refers to any more. -/
  destroy : ρ → ω → ω
  start : ρ → ω → ω
  send : ρ → MessageType → List UInt8 → ω → Bool × ω
  /-- `Stop`, and whether it has called `onClosed_`. -/
  stop : ρ → ω → Bool × ω

structure Server (K ρ : Type) where
  room : Room K ρ
  sessions : List (SessionId × ρ) := []
  nextSessionId : SessionId := 1
  serverTick : ServerTick := 0
  stopped : Bool := false
  /-- The player id and the side a session was given when it entered the room. -/
  assigned : ρ → Option (PlayerId × PlayerSide) := fun _ => none
  /-- The last tick before the last start of a game. -/
  gameStartTick : ServerTick := 0

namespace Server

section Definitions

variable [Field K] [LinearOrder K]

def defaultRoomId : RoomId := 1

/-- The server behind `CreateDefaultRoom`. -/
def create : Server K ρ := { room := Room.create defaultRoomId }

def maxServerTickDeltaSeconds : K := 1 / 4

/-! ## Registered sessions -/

def removeSession (s : Server K ρ) (sessionId : SessionId) : Server K ρ :=
  { s with sessions := s.sessions.filter fun entry => entry.1 ≠ sessionId }

def leaveDefaultRoom (s : Server K ρ) (sessionId : SessionId) : Server K ρ :=
  { s with room := s.room.leave sessionId }

/-- The `onClosed_` of every session. -/
def handleSessionClosed (sessionId : SessionId) (s : Server K ρ) : Server K ρ :=
  (s.removeSession sessionId).leaveDefaultRoom sessionId

/-- The `onPlayerInput_` of every session. -/
def handlePlayerInput [HasSqrt K] (sessionId : SessionId) (input : PlayerInputPayload)
    (s : Server K ρ) : Server K ρ :=
  { s with room := (s.room.applyPlayerInput sessionId input).2 }

/-- What the sessions of this server are constructed with. -/
def callbacks [HasSqrt K] : SessionCallbacks (Server K ρ) where
  onClosed := some handleSessionClosed
  onPlayerInput := some handlePlayerInput

/-! ## Accepting -/

section Sessions

variable [SessionObject ρ] [DecidableEq ρ] (objects : SessionObjects ρ ω)

/-- `Stop` of a session, called by the server. -/
def stopSession (session : ρ) (s : Server K ρ) (w : ω) : Server K ρ × ω :=
  let (closed, w) := objects.stop session w
  (if closed then s.handleSessionClosed (SessionObject.getId session) else s, w)

/-- What the histories keep of a successful `Enter`. -/
def recordEntry (s : Server K ρ) (session : ρ) (playerId : PlayerId) (room : Room K ρ) :
    Server K ρ :=
  let side := (room.findPlayer (SessionObject.getId session)).elim .none (·.state.side)
  { s with
    room
    assigned := Function.update s.assigned session (some (playerId, side))
    gameStartTick :=
      if room.gameState = .playing ∧ s.room.gameState ≠ .playing then s.serverTick
      else s.gameStartTick }

def enterDefaultRoom (session : ρ) (s : Server K ρ) (w : ω) : Bool × Server K ρ × ω :=
  let sessionId := SessionObject.getId session
  match s.room.enter (some session) with
  | (none, room) => (false, { s with room }, w)
  | (some playerId, room) =>
    let s := s.recordEntry session playerId room
    let identity : PlayerIdentityPayload := ⟨s.room.roomId, playerId⟩
    let (encoded, identityPayload) := (encodePlayerIdentityPayload identity
      (List.replicate playerIdentityPayloadSize 0)).get
        (encodePlayerIdentityPayload_inBounds identity)
    -- whoever cannot be told its id leaves the room again
    if !encoded then (false, s.leaveDefaultRoom sessionId, w)
    else
      let (sent, w) := objects.send session .playerIdentity identityPayload w
      if !sent then (false, s.leaveDefaultRoom sessionId, w) else (true, s, w)

/-- `HandleAccept` of a connection, with `CreateSession`. -/
def handleAccept (s : Server K ρ) (w : ω) : Server K ρ × ω :=
  if s.stopped then (s, w)
  else
    let sessionId := s.nextSessionId
    let s := { s with nextSessionId := s.nextSessionId + 1 }
    let (session, w) := objects.create sessionId w
    -- the registry has a session under this id, so the new one is dropped
    if s.sessions.any fun entry => entry.1 = sessionId then (s, objects.destroy session w)
    else
      let s := { s with sessions := s.sessions ++ [(sessionId, session)] }
      let (entered, s, w) := s.enterDefaultRoom objects session w
      if entered then (s, objects.start session w) else s.stopSession objects session w

/-! ## Ticks -/

/-- The sessions as the room uses them, in a world that includes the registry: a weak reference is
good while the registry or an operation holds the object. -/
def roomSessions : Room.Sessions ρ (List (SessionId × ρ) × ω) where
  lock session t := (t.1.any fun entry => entry.2 = session) || objects.isHeld session t.2
  send session type payload t :=
    let (sent, w) := objects.send session type payload t.2
    (sent, t.1, w)
  stop session t :=
    let (closed, w) := objects.stop session t.2
    if closed then
      ([SessionObject.getId session],
        t.1.filter fun entry => entry.1 ≠ SessionObject.getId session, w)
    else ([], t.1, w)

/-- `toFloat` is how a value of the simulation is written as a `float`. -/
def tickDefaultRoom [IsStrictOrderedRing K] [FloorRing K] [HasSqrt K] (toFloat : K → FloatBits)
    (deltaSeconds : K) (s : Server K ρ) (w : ω) : Server K ρ × ω :=
  let s := { s with room := s.room.tick deltaSeconds }
  let snapshot := (s.room.captureSnapshot s.serverTick).map toFloat
  let (encoded, payload) := (encodeWorldStateSnapshotPayload snapshot).get
    (encodeWorldStateSnapshotPayload_inBounds snapshot)
  if !encoded then (s, w)
  else
    let (room, sessions, w) :=
      s.room.broadcast (roomSessions objects) .worldStateSnapshot payload (s.sessions, w)
    ({ s with room, sessions }, w)

def handleTick [IsStrictOrderedRing K] [FloorRing K] [HasSqrt K] (toFloat : K → FloatBits)
    (deltaSeconds : K) (s : Server K ρ) (w : ω) : Server K ρ × ω :=
  if s.stopped then (s, w)
  else
    let deltaSeconds :=
      if deltaSeconds > maxServerTickDeltaSeconds then maxServerTickDeltaSeconds else deltaSeconds
    { s with serverTick := s.serverTick + 1 }.tickDefaultRoom objects toFloat deltaSeconds w

/-! ## Stopping -/

/-- The loop of `CloseAll`. -/
def closeAll : List (SessionId × ρ) → Server K ρ → ω → Server K ρ × ω
  | [], s, w => ({ s with sessions := [] }, w)
  | entry :: sessionsToClose, s, w =>
    let (s, w) := s.stopSession objects entry.2 w
    closeAll sessionsToClose s w

def stop (s : Server K ρ) (w : ω) : Server K ρ × ω :=
  if s.stopped then (s, w)
  else { s with stopped := true }.closeAll objects s.sessions w

end Sessions

end Definitions

end Server

end NetworkArena.Server
