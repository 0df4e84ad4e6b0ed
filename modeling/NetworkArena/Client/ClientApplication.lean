/-
# NetworkArena.Client.ClientApplication -- the application around a client

`client_game_state.cpp` and the part of `client_application.cpp` that talks to the network: what the
application does when it is called back, and `Update`, which probes the round trip time and sends
the player's input when it has changed. The keyboard is an argument of `Update`. What is drawn, the
history of snapshots it is interpolated from and the texts printed are left out.

None of the callbacks calls the client back, so `ClientApplication.environment` answers every
invocation with no calls. The last three fields of the application are histories.
-/
import NetworkArena.Client.NetworkClient

namespace NetworkArena.Client

open NetworkArena.Shared

/-! ## The game state -/

structure ClientGameState where
  playerIdentity : Option PlayerIdentityPayload := none
  worldState : Option (WorldStateSnapshot FloatBits) := none
  deriving DecidableEq, Repr

namespace ClientGameState

def applyPlayerIdentity (identity : PlayerIdentityPayload) (g : ClientGameState) :
    Bool × ClientGameState :=
  if identity.roomId = 0 ∨ identity.playerId = 0 then (false, g)
  else (true, { playerIdentity := some identity, worldState := none })

def applyWorldStateSnapshot (snapshot : WorldStateSnapshot FloatBits) (g : ClientGameState) :
    Bool × ClientGameState :=
  match g.playerIdentity with
  | none => (false, g)
  | some playerIdentity =>
    if snapshot.serverTick = 0 then (false, g)
    else if snapshot.roomId ≠ playerIdentity.roomId then (false, g)
    else if g.worldState.any fun worldState => snapshot.serverTick ≤ worldState.serverTick then
      (false, g)
    else (true, { g with worldState := some snapshot })

section Applying

variable (g : ClientGameState)

theorem applyPlayerIdentity_cases (identity : PlayerIdentityPayload) :
    g.applyPlayerIdentity identity = (false, g) ∨
      g.applyPlayerIdentity identity =
        (true, { playerIdentity := some identity, worldState := none }) := by
  unfold applyPlayerIdentity
  split
  · exact Or.inl rfl
  · exact Or.inr rfl

/-- A snapshot is taken only by a player of its room, and only if it is newer. -/
theorem applyWorldStateSnapshot_cases (snapshot : WorldStateSnapshot FloatBits) :
    g.applyWorldStateSnapshot snapshot = (false, g) ∨
      g.applyWorldStateSnapshot snapshot = (true, { g with worldState := some snapshot }) ∧
        (∃ identity, g.playerIdentity = some identity ∧ snapshot.roomId = identity.roomId) ∧
        ∀ worldState, g.worldState = some worldState →
          worldState.serverTick < snapshot.serverTick := by
  unfold applyWorldStateSnapshot
  cases hidentity : g.playerIdentity with
  | none => exact Or.inl rfl
  | some identity =>
      dsimp only
      split
      · exact Or.inl rfl
      split
      · exact Or.inl rfl
      · next hroom =>
          split
          · exact Or.inl rfl
          · next hnewer =>
              refine Or.inr ⟨rfl, ⟨identity, rfl, not_not.mp hroom⟩, ?_⟩
              intro worldState hworld
              rw [hworld, Option.any_some, decide_eq_true_eq] at hnewer
              exact UInt64.not_le.mp hnewer

end Applying

def reset (_g : ClientGameState) : ClientGameState := {}

def findPlayer (g : ClientGameState) (playerId : PlayerId) :
    Option (PlayerStateSnapshot FloatBits) :=
  match g.worldState with
  | none => none
  | some worldState =>
    if playerId = 0 then none
    else worldState.players.find? fun player => player.playerId = playerId

def getLocalPlayer (g : ClientGameState) : Option (PlayerStateSnapshot FloatBits) :=
  match g.playerIdentity with
  | none => none
  | some playerIdentity => g.findPlayer playerIdentity.playerId

/-- What an invocation does to the game state, a lost connection apart. -/
def receive (g : ClientGameState) : Invocation → ClientGameState
  | .playerIdentity identity => (g.applyPlayerIdentity identity).2
  | .worldStateSnapshot snapshot => (g.applyWorldStateSnapshot snapshot).2
  | _ => g

end ClientGameState

/-! ## The application -/

/-- A snapshot handed to `ApplyWorldStateSnapshot`: what it returned, and `GetLocalPlayer()`
afterwards. -/
structure Delivery where
  generation : ℕ
  snapshot : WorldStateSnapshot FloatBits
  applied : Bool
  localPlayer : Option (PlayerStateSnapshot FloatBits)
  deriving DecidableEq, Repr

structure ClientApplication where
  clientGameState : ClientGameState := {}
  lastRttProbeSentAt : UInt64 := 0
  currentPlayerInput : PlayerInputPayload := {}
  lastSentPlayerInput : PlayerInputPayload := {}
  deliveries : List Delivery := []
  /-- The tick of the latest snapshot of a running game applied for the current identity. -/
  playingTick : Option ServerTick := none
  /-- `playingTick`, at the end of the latest `Update` in which no input was refused. -/
  settledTick : Option ServerTick := none
  deriving DecidableEq, Repr

/-- The keys `CollectPlayerInput` asks for, and whether the window is in the foreground. -/
structure Keys where
  foreground : Bool := true
  w : Bool := false
  a : Bool := false
  s : Bool := false
  d : Bool := false
  space : Bool := false
  deriving DecidableEq, Repr

/-- `RttProbeInterval`, 500 ms. -/
def rttProbeIntervalNanoseconds : ℤ := 500000000

def collectPlayerInput (keys : Keys) : PlayerInputPayload :=
  let input : PlayerInputPayload := {}
  if !keys.foreground then input
  else
    let input := if keys.w then
      { input with moveY := input.moveY + maxPlayerInputAxisRawValue } else input
    let input := if keys.a then
      { input with moveX := input.moveX - maxPlayerInputAxisRawValue } else input
    let input := if keys.s then
      { input with moveY := input.moveY - maxPlayerInputAxisRawValue } else input
    let input := if keys.d then
      { input with moveX := input.moveX + maxPlayerInputAxisRawValue } else input
    if keys.space then { input with dash := true } else input

/-- Every combination of keys is a valid input. -/
theorem collectPlayerInput_valid (keys : Keys) :
    isValidPlayerInput (collectPlayerInput keys) = true := by
  obtain ⟨foreground, w, a, s, d, space⟩ := keys
  revert foreground w a s d space
  decide

namespace ClientApplication

/-- The state of an application without a connection. -/
def forget (a : ClientApplication) : ClientApplication :=
  { a with clientGameState := a.clientGameState.reset, playingTick := none, settledTick := none }

def handlePlayerIdentity (identity : PlayerIdentityPayload) (a : ClientApplication) :
    ClientApplication :=
  let (applied, clientGameState) := a.clientGameState.applyPlayerIdentity identity
  if !applied then a
  else
    { a with
      clientGameState
      lastSentPlayerInput := {}
      playingTick := none
      settledTick := none }

def handleWorldStateSnapshot (snapshot : WorldStateSnapshot FloatBits) (generation : ℕ)
    (a : ClientApplication) : ClientApplication :=
  let (applied, clientGameState) := a.clientGameState.applyWorldStateSnapshot snapshot
  let a := { a with
    deliveries := a.deliveries ++
      [⟨generation, snapshot, applied, clientGameState.getLocalPlayer⟩] }
  if !applied then a
  else
    { a with
      clientGameState
      playingTick :=
        if snapshot.gamePlayState = .playing then some snapshot.serverTick else a.playingTick }

/-- What the callbacks given to `Connect` do. -/
def handle (generation : ℕ) (a : ClientApplication) : Invocation → ClientApplication
  | .connected => a
  | .connectionFailed _ => a.forget
  | .disconnected _ => a.forget
  | .playerIdentity identity => a.handlePlayerIdentity identity
  | .worldStateSnapshot snapshot => a.handleWorldStateSnapshot snapshot generation

/-- The application around a client with a given clock. -/
def environment (clock : ℕ → UInt64) : ClientEnvironment ClientApplication where
  clock := clock
  invoke invocation c a := ([], a.handle c.connectionGeneration invocation)

/-! ## What the application calls -/

def shutdown (c : NetworkClient) (a : ClientApplication) : NetworkClient × ClientApplication :=
  (if c.connectionState != .disconnected then c.disconnect.2 else c, a.forget)

/-- The first part of `Update`. -/
def probeRtt (clock : ℕ → UInt64) (c : NetworkClient) (a : ClientApplication) :
    NetworkClient × ClientApplication :=
  if c.connectionState == .connected then
    let (currentTime, c) := c.readClock clock
    if (currentTime.toNat : ℤ) - a.lastRttProbeSentAt.toNat ≥ rttProbeIntervalNanoseconds then
      let (sent, c) := c.sendPing clock
      if sent then (c, { a with lastRttProbeSentAt := currentTime }) else (c, a)
    else (c, a)
  else (c, a)

/-- The rest of `Update`, and whether an input was refused in it. -/
def submitPlayerInput (keys : Keys) (c : NetworkClient) (a : ClientApplication) :
    Bool × NetworkClient × ClientApplication :=
  if a.clientGameState.playerIdentity.isNone then (false, c, a)
  else
    match a.clientGameState.worldState with
    | none => (false, c, a)
    | some worldState =>
      if worldState.gamePlayState ≠ .playing then (false, c, a)
      else
        let a := { a with currentPlayerInput := collectPlayerInput keys }
        -- only a change of the input is sent
        if a.currentPlayerInput = a.lastSentPlayerInput then (false, c, a)
        else
          let (sent, c) := c.sendPlayerInput a.currentPlayerInput
          if !sent then (true, c, a)
          else (false, c, { a with lastSentPlayerInput := a.currentPlayerInput })

def update (clock : ℕ → UInt64) (keys : Keys) (c : NetworkClient) (a : ClientApplication) :
    NetworkClient × ClientApplication :=
  let (c, a) := probeRtt clock c a
  let (refused, c, a) := submitPlayerInput keys c a
  (c, if refused then a else { a with settledTick := a.playingTick })

end ClientApplication

end NetworkArena.Client
