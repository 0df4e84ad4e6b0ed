/-
# NetworkArena.Client.PlayerRendering -- the players that are drawn

`render_object.h`, `transform3d.h` and the part of `client_application.cpp` that keeps a render
object for every player: a snapshot that is applied makes a new list of them, in which the players
that were there before keep theirs, `Update` moves them between two snapshots, and `Render` draws
them while the player has an identity. The arena and the texts on the screen are left out.

The numbers are the exact values of the floats; `std::atan2` is a parameter.

The handlers that reset the game state leave the list alone. So what is drawn is the players of the
current snapshot exactly in the runs in which an identity comes before any player is drawn, and no
player changes its side from one snapshot to the next (`only_current_players_drawn`).
-/
import NetworkArena.Client.NewestSnapshot
import NetworkArena.Client.SnapshotHistory
import NetworkArena.Foundation.Transition
import Mathlib.Data.Rat.Floor

namespace NetworkArena.Client

open NetworkArena.Foundation
open NetworkArena.Shared

/-! ## Numbers -/

/-- The exact value of a finite float. -/
def exactValue (x : FloatBits) : ℚ :=
  let sign : ℚ := if x.pattern &&& 0x80000000 = 0 then 1 else -1
  let exponent := ((x.pattern >>> 23) &&& 0xFF).toNat
  let fraction := (x.pattern &&& 0x7FFFFF).toNat
  if exponent = 0 then sign * fraction / 2 ^ 149
  else sign * (8388608 + fraction) * 2 ^ exponent / 2 ^ 150

/-- `std::remainder`: what is left of `x` beside the multiple of `y` that is nearest to it, the even
one if two are. -/
def remainder (x y : ℚ) : ℚ :=
  let below := ⌊x / y⌋
  let beyond := x / y - below
  let nearest := if beyond < 1 / 2 ∨ beyond = 1 / 2 ∧ below % 2 = 0 then below else below + 1
  x - nearest * y

def fullRotationRadians : ℚ := 628318530717958647692 / 100000000000000000000

/-! ## Render objects -/

structure MeshHandle where
  value : UInt64 := 0
  deriving DecidableEq, Repr

structure TextureHandle where
  value : UInt64 := 0
  deriving DecidableEq, Repr

/-- `XMFLOAT3`. -/
structure Float3 where
  x : ℚ := 0
  y : ℚ := 0
  z : ℚ := 0
  deriving DecidableEq, Repr

structure Transform3D where
  position : Float3 := {}
  rotationRadians : Float3 := {}
  scale : Float3 := ⟨1, 1, 1⟩
  deriving DecidableEq, Repr

structure RenderObject where
  meshHandle : MeshHandle := {}
  baseColorTextureHandle : TextureHandle := {}
  normalMapTextureHandle : TextureHandle := {}
  transform : Transform3D := {}
  deriving DecidableEq, Repr

structure PlayerTextureSet where
  baseColorTextureHandle : TextureHandle := {}
  normalTextureHandle : TextureHandle := {}
  deriving DecidableEq, Repr

structure PlayerRenderEntry where
  playerId : PlayerId := 0
  renderObject : RenderObject := {}
  deriving DecidableEq, Repr

/-- What `InitializeRenderResources` has registered for the players. -/
structure PlayerResources where
  playerMeshHandle : MeshHandle := {}
  flamePlayerTextureSet : PlayerTextureSet := {}
  frostPlayerTextureSet : PlayerTextureSet := {}
  deriving DecidableEq, Repr

namespace PlayerRenderEntry

def setPosition (entry : PlayerRenderEntry) (position : Float3) : PlayerRenderEntry :=
  { entry with renderObject.transform.position := position }

def setRotationZ (entry : PlayerRenderEntry) (angle : ℚ) : PlayerRenderEntry :=
  { entry with renderObject.transform.rotationRadians.z := angle }

/-- The textures an entry is drawn with. -/
def textureSet (entry : PlayerRenderEntry) : PlayerTextureSet :=
  ⟨entry.renderObject.baseColorTextureHandle, entry.renderObject.normalMapTextureHandle⟩

end PlayerRenderEntry

/-! ## One player -/

def createPlayerRenderObject (resources : PlayerResources)
    (playerState : PlayerStateSnapshot FloatBits) : RenderObject :=
  let renderObject : RenderObject := { meshHandle := resources.playerMeshHandle }
  if playerState.side = .flame then
    { renderObject with
      baseColorTextureHandle := resources.flamePlayerTextureSet.baseColorTextureHandle
      normalMapTextureHandle := resources.flamePlayerTextureSet.normalTextureHandle }
  else if playerState.side = .frost then
    { renderObject with
      baseColorTextureHandle := resources.frostPlayerTextureSet.baseColorTextureHandle
      normalMapTextureHandle := resources.frostPlayerTextureSet.normalTextureHandle }
  else renderObject

/-- Whether a snapshot shows a player moving. -/
def isMoving (playerState : PlayerStateSnapshot FloatBits) : Bool :=
  exactValue playerState.directionX != 0 || exactValue playerState.directionY != 0

/-- The angle of the direction a snapshot shows. -/
def facingAngle (atan2 : ℚ → ℚ → ℚ) (playerState : PlayerStateSnapshot FloatBits) : ℚ :=
  atan2 (exactValue playerState.directionX) (-exactValue playerState.directionY)

/-- What the loop of `SynchronizePlayerRenderObjects` appends for one player. -/
def synchronizePlayer (atan2 : ℚ → ℚ → ℚ) (resources : PlayerResources)
    (playerRenderEntries : List PlayerRenderEntry) (playerState : PlayerStateSnapshot FloatBits) :
    PlayerRenderEntry :=
  let entry :=
    match playerRenderEntries.find? fun entry => entry.playerId = playerState.playerId with
    | some existing => existing
    | none => ⟨playerState.playerId, createPlayerRenderObject resources playerState⟩
  let entry := entry.setPosition ⟨exactValue playerState.positionX,
    exactValue playerState.positionY, exactValue playerState.positionZ⟩
  if isMoving playerState then entry.setRotationZ (facingAngle atan2 playerState) else entry

def synchronizePlayerRenderObjects (atan2 : ℚ → ℚ → ℚ) (resources : PlayerResources)
    (worldState : WorldStateSnapshot FloatBits) (playerRenderEntries : List PlayerRenderEntry) :
    List PlayerRenderEntry :=
  worldState.players.map (synchronizePlayer atan2 resources playerRenderEntries)

/-- A coordinate between two snapshots. -/
def interpolate (alpha : ℚ) (previous next : FloatBits) : ℚ :=
  exactValue previous + (exactValue next - exactValue previous) * alpha

/-- What the loop of `ApplyInterpolatedPlayerStates` does to an entry whose player is found in both
snapshots. -/
def interpolatePlayer (atan2 : ℚ → ℚ → ℚ) (alpha : ℚ)
    (previousPlayerState nextPlayerState : PlayerStateSnapshot FloatBits)
    (entry : PlayerRenderEntry) : PlayerRenderEntry :=
  let entry := entry.setPosition
    ⟨interpolate alpha previousPlayerState.positionX nextPlayerState.positionX,
      interpolate alpha previousPlayerState.positionY nextPlayerState.positionY,
      interpolate alpha previousPlayerState.positionZ nextPlayerState.positionZ⟩
  let previousPlayerMoving := isMoving previousPlayerState
  let nextPlayerMoving := isMoving nextPlayerState
  if !previousPlayerMoving && !nextPlayerMoving then entry
  else
    let previousFacingAngleRadians := facingAngle atan2 previousPlayerState
    let nextFacingAngleRadians := facingAngle atan2 nextPlayerState
    if !previousPlayerMoving then entry.setRotationZ nextFacingAngleRadians
    else if !nextPlayerMoving then entry.setRotationZ previousFacingAngleRadians
    else
      let shortestAngleDelta :=
        remainder (nextFacingAngleRadians - previousFacingAngleRadians) fullRotationRadians
      entry.setRotationZ (previousFacingAngleRadians + shortestAngleDelta * alpha)

/-- What the loop does to any entry. -/
def interpolateEntry (atan2 : ℚ → ℚ → ℚ) (alpha : ℚ)
    (previousWorldState nextWorldState : WorldStateSnapshot FloatBits)
    (entry : PlayerRenderEntry) : PlayerRenderEntry :=
  match previousWorldState.players.find? fun playerState => playerState.playerId = entry.playerId,
    nextWorldState.players.find? fun playerState => playerState.playerId = entry.playerId with
  | some previousPlayerState, some nextPlayerState =>
    interpolatePlayer atan2 alpha previousPlayerState nextPlayerState entry
  | _, _ => entry

/-! ## The application -/

structure RenderingApplication where
  interpolating : InterpolatingApplication := {}
  resources : PlayerResources := {}
  playerRenderEntries : List PlayerRenderEntry := []
  deriving DecidableEq, Repr

namespace RenderingApplication

/-- The game state. -/
def game (r : RenderingApplication) : ClientGameState := r.interpolating.application.clientGameState

section Definitions

variable (atan2 : ℚ → ℚ → ℚ)

def handleWorldStateSnapshot (snapshot : WorldStateSnapshot FloatBits) (generation : ℕ) (now : ℤ)
    (r : RenderingApplication) : RenderingApplication :=
  let (applied, clientGameState) := r.game.applyWorldStateSnapshot snapshot
  let interpolating := r.interpolating.handleWorldStateSnapshot snapshot generation now
  if !applied then { r with interpolating }
  else
    match clientGameState.worldState with
    | none => { r with interpolating }
    | some worldState =>
      { r with
        interpolating
        playerRenderEntries :=
          synchronizePlayerRenderObjects atan2 r.resources worldState r.playerRenderEntries }

/-- What the callbacks given to `Connect` do, at a given time. Only one of them changes the list. -/
def handle (generation : ℕ) (now : ℤ) (r : RenderingApplication) :
    Invocation → RenderingApplication
  | .worldStateSnapshot snapshot => r.handleWorldStateSnapshot atan2 snapshot generation now
  | invocation => { r with interpolating := r.interpolating.handle generation now invocation }

def updateWorldStateInterpolationSelection (now : ℤ) (r : RenderingApplication) :
    RenderingApplication :=
  { r with interpolating := r.interpolating.updateWorldStateInterpolationSelection now }

def applyInterpolatedPlayerStates (r : RenderingApplication) : Checked RenderingApplication := do
  match ← r.interpolating.applyInterpolatedPlayerStates with
  | none => return r
  | some (previousWorldState, nextWorldState, alpha) =>
    return { r with
      playerRenderEntries := r.playerRenderEntries.map
        (interpolateEntry atan2 alpha previousWorldState nextWorldState) }

/-- The part of `Update` between the probe of the round trip time and the input. -/
def interpolate (now : ℤ) (r : RenderingApplication) : Checked RenderingApplication :=
  if r.game.playerIdentity.isNone then return r
  else (r.updateWorldStateInterpolationSelection now).applyInterpolatedPlayerStates atan2

def update (clock : ℕ → UInt64) (keys : Keys) (now : ℤ) (c : NetworkClient)
    (r : RenderingApplication) : Checked (NetworkClient × RenderingApplication) := do
  let (c, application) := ClientApplication.probeRtt clock c r.interpolating.application
  let r ← interpolate atan2 now { r with interpolating.application := application }
  let (refused, c, application) :=
    ClientApplication.submitPlayerInput keys c r.interpolating.application
  return (c, { r with
    interpolating.application :=
      if refused then application
      else { application with settledTick := application.playingTick } })

def shutdown (r : RenderingApplication) : RenderingApplication :=
  { interpolating := r.interpolating.forget }

/-- The entries that `Render` draws, if it draws the world at all. -/
def drawnPlayerRenderEntries (r : RenderingApplication) : Option (List PlayerRenderEntry) :=
  if r.game.playerIdentity.isSome then some r.playerRenderEntries else none

/-- What an event does at a given time. -/
def step (r : RenderingApplication) :
    ℤ × InterpolatingApplication.Event → Checked RenderingApplication
  | (now, .invoke generation invocation) => return r.handle atan2 generation now invocation
  | (now, .update clock keys c) => return (← r.update atan2 clock keys now c).2
  | (_, .shutdown) => return r.shutdown

end Definitions

/-! ## The application underneath -/

variable {atan2 : ℚ → ℚ → ℚ} {r r' : RenderingApplication}

/-- What tells whether an entry is drawn for the right player. -/
def shown (entry : PlayerRenderEntry) : PlayerId × PlayerTextureSet :=
  (entry.playerId, entry.textureSet)

theorem shown_interpolateEntry (alpha : ℚ) (previous next : WorldStateSnapshot FloatBits)
    (entry : PlayerRenderEntry) :
    shown (interpolateEntry atan2 alpha previous next entry) = shown entry := by
  unfold interpolateEntry
  split
  · unfold interpolatePlayer
    dsimp only
    split
    · rfl
    · split
      · rfl
      · split <;> rfl
  · rfl

/-- The callbacks do to the history of snapshots what they did without the list. -/
theorem handle_interpolating (generation : ℕ) (now : ℤ) (r : RenderingApplication)
    (invocation : Invocation) :
    (r.handle atan2 generation now invocation).interpolating =
      r.interpolating.handle generation now invocation := by
  cases invocation with
  | connected | connectionFailed error | disconnected error | playerIdentity identity => rfl
  | worldStateSnapshot snapshot =>
      simp only [handle, handleWorldStateSnapshot, InterpolatingApplication.handle]
      split
      · rfl
      · split <;> rfl

theorem interpolate_ok (atan2 : ℚ → ℚ → ℚ) (r : RenderingApplication) (now : ℤ) :
    ∃ r', r.interpolate atan2 now = .ok r' ∧
      r.interpolating.interpolate now = .ok r'.interpolating ∧ r'.resources = r.resources ∧
      r'.playerRenderEntries.map shown = r.playerRenderEntries.map shown := by
  obtain ⟨v, hv, -, -⟩ := r.interpolating.interpolate_ok now
  unfold InterpolatingApplication.interpolate at hv
  unfold interpolate InterpolatingApplication.interpolate
  by_cases hidentity : r.interpolating.application.clientGameState.playerIdentity.isNone = true
  · rw [if_pos (show r.game.playerIdentity.isNone = true from hidentity), if_pos hidentity]
    exact ⟨r, rfl, rfl, rfl, rfl⟩
  · rw [if_neg hidentity] at hv
    rw [if_neg (show ¬ r.game.playerIdentity.isNone = true from hidentity), if_neg hidentity]
    -- with an identity the entries are moved, and neither their number nor who they show changes
    obtain ⟨drawn, hdrawn, -⟩ := Checked.bind_eq_ok.mp hv
    unfold applyInterpolatedPlayerStates updateWorldStateInterpolationSelection
    dsimp only
    rw [hdrawn]
    cases drawn with
    | none => exact ⟨_, rfl, rfl, rfl, rfl⟩
    | some drawn =>
        refine ⟨_, rfl, rfl, rfl, ?_⟩
        rw [List.map_map]
        apply List.map_congr_left
        intro entry _
        exact shown_interpolateEntry _ _ _ entry

/-- **`Update`** changes neither the game state nor who is drawn. -/
theorem update_ok (atan2 : ℚ → ℚ → ℚ) (clock : ℕ → UInt64) (keys : Keys) (now : ℤ)
    (c : NetworkClient) (r : RenderingApplication) :
    ∃ c' r', r.update atan2 clock keys now c = .ok (c', r') ∧
      r.interpolating.update clock keys now c = .ok (c', r'.interpolating) ∧
      r'.game = r.game ∧ r'.resources = r.resources ∧
      r'.playerRenderEntries.map shown = r.playerRenderEntries.map shown := by
  obtain ⟨v', hv', happlication, -⟩ := r.interpolating.update_ok clock keys now c
  have hgame : v'.application.clientGameState = r.game := by
    rw [happlication]
    exact InterpolatingApplication.update_clientGameState clock keys c r.interpolating.application
  unfold InterpolatingApplication.update at hv' ⊢
  unfold update
  generalize ClientApplication.probeRtt clock c r.interpolating.application = probed at hv' ⊢
  obtain ⟨c₁, application⟩ := probed
  obtain ⟨r₁, hr₁, hv₁, hresources, hshown⟩ := interpolate_ok atan2
    { r with interpolating.application := application } now
  dsimp only at hv' hv₁ ⊢
  rw [hv₁, Checked.ok_bind] at hv'
  rw [hr₁, hv₁, Checked.ok_bind, Checked.ok_bind]
  obtain ⟨-, hinterpolating⟩ := Prod.mk.inj (Except.ok.inj hv')
  refine ⟨_, _, rfl, rfl, ?_, hresources, hshown⟩
  rw [← hgame, ← hinterpolating]
  rfl

/-- **Every event** has a result, and does to the history of snapshots what it did without the
list. -/
theorem step_ok (atan2 : ℚ → ℚ → ℚ) (r : RenderingApplication)
    (event : ℤ × InterpolatingApplication.Event) :
    ∃ r', r.step atan2 event = .ok r' ∧
      r.interpolating.step event = .ok r'.interpolating := by
  obtain ⟨now, event⟩ := event
  cases event with
  | invoke generation invocation =>
      refine ⟨_, rfl, ?_⟩
      rw [handle_interpolating]
      rfl
  | shutdown => exact ⟨_, rfl, rfl⟩
  | update clock keys c =>
      obtain ⟨c', r', hr', hv', -⟩ := update_ok atan2 clock keys now c r
      refine ⟨r', ?_, ?_⟩
      · show (r.update atan2 clock keys now c >>= fun result => pure result.2) = _
        rw [hr']
        rfl
      · show (r.interpolating.update clock keys now c >>= fun result => pure result.2) = _
        rw [hv']
        rfl

/-! ## Who is drawn -/

/-- The textures of a side. -/
def textureSetOf (resources : PlayerResources) (side : PlayerSide) : PlayerTextureSet :=
  if side = .flame then resources.flamePlayerTextureSet
  else if side = .frost then resources.frostPlayerTextureSet
  else {}

/-- What the entry of a player should show. -/
def expected (resources : PlayerResources) (player : PlayerStateSnapshot FloatBits) :
    PlayerId × PlayerTextureSet :=
  (player.playerId, textureSetOf resources player.side)

/-- The players of the current snapshot. -/
def currentPlayers (r : RenderingApplication) : List (PlayerStateSnapshot FloatBits) :=
  r.game.worldState.elim [] (·.players)

/-- **Only current players are drawn**: if any are, one entry for each player of the current
snapshot, in its order and with the textures of its side. -/
def DrawsCurrentPlayers (r : RenderingApplication) : Prop :=
  ∀ entries ∈ r.drawnPlayerRenderEntries,
    entries.map shown = r.currentPlayers.map (expected r.resources)

/-- **When they stay the current ones.** An identity that is accepted finds no entries, and a
snapshot that is accepted shows no player with other textures than the current one does. -/
def KeepsPlayersCurrent (r : RenderingApplication) :
    ℤ × InterpolatingApplication.Event → Prop
  | (_, .invoke _ (.playerIdentity identity)) =>
    identity.roomId ≠ 0 → identity.playerId ≠ 0 → r.playerRenderEntries = []
  | (_, .invoke _ (.worldStateSnapshot snapshot)) =>
    r.game.Accepts snapshot → ∀ player ∈ snapshot.players,
      ∀ current ∈ r.currentPlayers.find? fun current => current.playerId = player.playerId,
        textureSetOf r.resources current.side = textureSetOf r.resources player.side
  | _ => True

theorem createPlayerRenderObject_textureSet (resources : PlayerResources)
    (player : PlayerStateSnapshot FloatBits) :
    shown ⟨player.playerId, createPlayerRenderObject resources player⟩ =
      expected resources player := by
  unfold createPlayerRenderObject expected textureSetOf
  dsimp only
  split
  · rfl
  · split <;> rfl

/-- A player keeps the entry it has. -/
theorem shown_synchronizePlayer (resources : PlayerResources) (entries : List PlayerRenderEntry)
    (player : PlayerStateSnapshot FloatBits) :
    shown (synchronizePlayer atan2 resources entries player) =
      ((entries.map shown).find? fun known => known.1 = player.playerId).getD
        (expected resources player) := by
  have hfind : (entries.map shown).find? (fun known => known.1 = player.playerId) =
      (entries.find? fun entry => entry.playerId = player.playerId).map shown := by
    rw [List.find?_map]
    rfl
  rw [hfind]
  unfold synchronizePlayer
  cases hentry : entries.find? fun entry => entry.playerId = player.playerId with
  | none =>
      rw [Option.map_none, Option.getD_none, ← createPlayerRenderObject_textureSet]
      dsimp only
      split <;> rfl
  | some existing =>
      rw [Option.map_some, Option.getD_some]
      dsimp only
      split <;> rfl

/-- **The new list is right** exactly if no player changes its textures. -/
theorem synchronize_iff {entries : List PlayerRenderEntry} {resources : PlayerResources}
    {current : List (PlayerStateSnapshot FloatBits)}
    (h : entries.map shown = current.map (expected resources))
    (worldState : WorldStateSnapshot FloatBits) :
    (synchronizePlayerRenderObjects atan2 resources worldState entries).map shown =
        worldState.players.map (expected resources) ↔
      ∀ player ∈ worldState.players,
        ∀ known ∈ current.find? fun known => known.playerId = player.playerId,
          textureSetOf resources known.side = textureSetOf resources player.side := by
  rw [synchronizePlayerRenderObjects, List.map_map, List.map_inj_left]
  apply forall₂_congr
  intro player _
  rw [Function.comp_apply, shown_synchronizePlayer, h, List.find?_map]
  show ((current.find? fun known => known.playerId = player.playerId).map _).getD _ = _ ↔ _
  cases hknown : current.find? fun known => known.playerId = player.playerId with
  | none => simp
  | some known =>
      have hid : known.playerId = player.playerId := by
        simpa using List.find?_some hknown
      simp only [Option.map_some, Option.getD_some, Option.mem_some_iff, forall_eq']
      unfold expected
      rw [hid, Prod.mk.injEq]
      exact ⟨fun heq => heq.2, fun heq => ⟨rfl, heq⟩⟩

/-- What is drawn depends on the game state, the textures and the list. -/
theorem drawsCurrentPlayers_congr (hgame : r'.game = r.game)
    (hresources : r'.resources = r.resources)
    (hshown : r'.playerRenderEntries.map shown = r.playerRenderEntries.map shown) :
    r'.DrawsCurrentPlayers ↔ r.DrawsCurrentPlayers := by
  unfold DrawsCurrentPlayers drawnPlayerRenderEntries currentPlayers
  rw [hgame, hresources]
  split
  · simp only [Option.mem_some_iff, forall_eq', hshown]
  · simp

/-- Without an identity nothing is drawn. -/
theorem drawsCurrentPlayers_of_none (h : r.game.playerIdentity = none) :
    r.DrawsCurrentPlayers := by
  intro entries hentries
  rw [drawnPlayerRenderEntries, h] at hentries
  cases hentries

theorem drawsCurrentPlayers_iff {identity : PlayerIdentityPayload}
    (h : r.game.playerIdentity = some identity) :
    r.DrawsCurrentPlayers ↔
      r.playerRenderEntries.map shown = r.currentPlayers.map (expected r.resources) := by
  unfold DrawsCurrentPlayers drawnPlayerRenderEntries
  rw [h, Option.isSome_some, if_pos rfl]
  simp

/-! ## One event -/

theorem game_handle (generation : ℕ) (now : ℤ) (invocation : Invocation) :
    (r.handle atan2 generation now invocation).game =
      (r.interpolating.application.handle generation invocation).clientGameState := by
  rw [game, handle_interpolating, InterpolatingApplication.handle_application]

/-- **An identity that is accepted** leaves the entries, and forgets the snapshot. -/
theorem handle_playerIdentity (generation : ℕ) (now : ℤ) {identity : PlayerIdentityPayload}
    (hroom : identity.roomId ≠ 0) (hplayer : identity.playerId ≠ 0) :
    (r.handle atan2 generation now (.playerIdentity identity)).DrawsCurrentPlayers ↔
      r.playerRenderEntries = [] := by
  have happlied : r.interpolating.application.clientGameState.applyPlayerIdentity identity =
      (true, { playerIdentity := some identity, worldState := none }) :=
    if_neg (not_or.mpr ⟨hroom, hplayer⟩)
  have hgame : (r.handle atan2 generation now (.playerIdentity identity)).game =
      { playerIdentity := some identity, worldState := none } := by
    rw [game_handle, ClientApplication.handle, ClientApplication.handlePlayerIdentity, happlied]
    rfl
  rw [drawsCurrentPlayers_iff (congrArg _ hgame), currentPlayers, hgame]
  exact List.map_eq_nil_iff

/-- An identity that is refused changes nothing. -/
theorem handle_playerIdentity_refused (generation : ℕ) (now : ℤ) {identity : PlayerIdentityPayload}
    (h : identity.roomId = 0 ∨ identity.playerId = 0) :
    (r.handle atan2 generation now (.playerIdentity identity)).game = r.game := by
  have hrefused : r.interpolating.application.clientGameState.applyPlayerIdentity identity =
      (false, r.game) := if_pos h
  rw [game_handle, ClientApplication.handle, ClientApplication.handlePlayerIdentity, hrefused]
  rfl

/-- **A snapshot that is accepted** becomes the current one, and the entries are made from it. -/
theorem handle_worldStateSnapshot (atan2 : ℚ → ℚ → ℚ) (generation : ℕ) (now : ℤ)
    {snapshot : WorldStateSnapshot FloatBits} (h : r.game.Accepts snapshot) :
    (r.handle atan2 generation now (.worldStateSnapshot snapshot)).game =
        { r.game with worldState := some snapshot } ∧
      (r.handle atan2 generation now (.worldStateSnapshot snapshot)).resources = r.resources ∧
      (r.handle atan2 generation now (.worldStateSnapshot snapshot)).playerRenderEntries =
        synchronizePlayerRenderObjects atan2 r.resources snapshot r.playerRenderEntries := by
  have happlied := ClientGameState.applyWorldStateSnapshot_accepts h
  refine ⟨?_, ?_, ?_⟩
  · have happlied' : r.interpolating.application.clientGameState.applyWorldStateSnapshot snapshot =
        (true, { r.game with worldState := some snapshot }) := happlied
    rw [game_handle, ClientApplication.handle, ClientApplication.handleWorldStateSnapshot,
      happlied']
    rfl
  · simp only [handle, handleWorldStateSnapshot, happlied]
    rfl
  · simp only [handle, handleWorldStateSnapshot, happlied]
    rfl

/-- A snapshot that is refused changes neither the game state nor the entries. -/
theorem handle_worldStateSnapshot_refused (atan2 : ℚ → ℚ → ℚ) (generation : ℕ) (now : ℤ)
    {snapshot : WorldStateSnapshot FloatBits} (h : ¬ r.game.Accepts snapshot) :
    (r.handle atan2 generation now (.worldStateSnapshot snapshot)).game = r.game ∧
      (r.handle atan2 generation now (.worldStateSnapshot snapshot)).resources = r.resources ∧
      (r.handle atan2 generation now (.worldStateSnapshot snapshot)).playerRenderEntries =
        r.playerRenderEntries := by
  have hrefused := ClientGameState.applyWorldStateSnapshot_refuses h
  refine ⟨?_, ?_, ?_⟩
  · have hrefused' : r.interpolating.application.clientGameState.applyWorldStateSnapshot snapshot =
        (false, r.game) := hrefused
    rw [game_handle, ClientApplication.handle, ClientApplication.handleWorldStateSnapshot,
      hrefused']
    rfl
  · simp only [handle, handleWorldStateSnapshot, hrefused]
    rfl
  · simp only [handle, handleWorldStateSnapshot, hrefused]
    rfl

/-- **One event**: it keeps what is drawn right exactly under the condition. -/
theorem step_drawsCurrentPlayers (hdraws : r.DrawsCurrentPlayers)
    {event : ℤ × InterpolatingApplication.Event} (hstep : r.step atan2 event = .ok r') :
    r'.DrawsCurrentPlayers ↔ r.KeepsPlayersCurrent event := by
  obtain ⟨now, event⟩ := event
  cases event with
  | shutdown =>
      cases hstep
      exact ⟨fun _ => trivial, fun _ => drawsCurrentPlayers_of_none rfl⟩
  | update clock keys c =>
      obtain ⟨c', r₁, hupdate, -, hgame, hresources, hshown⟩ :=
        update_ok atan2 clock keys now c r
      change (r.update atan2 clock keys now c >>= fun result => pure result.2) = _ at hstep
      rw [hupdate] at hstep
      cases hstep
      exact ⟨fun _ => trivial,
        fun _ => (drawsCurrentPlayers_congr hgame hresources hshown).mpr hdraws⟩
  | invoke generation invocation =>
      cases hstep
      cases invocation with
      | connected => exact ⟨fun _ => trivial, fun _ => hdraws⟩
      | connectionFailed error =>
          -- the entries stay in the list, but without an identity the world is not drawn
          exact ⟨fun _ => trivial, fun _ => drawsCurrentPlayers_of_none rfl⟩
      | disconnected error =>
          exact ⟨fun _ => trivial, fun _ => drawsCurrentPlayers_of_none rfl⟩
      | playerIdentity identity =>
          by_cases hrefused : identity.roomId = 0 ∨ identity.playerId = 0
          · rw [drawsCurrentPlayers_congr (handle_playerIdentity_refused generation now hrefused)
              rfl rfl]
            exact ⟨fun _ hroom hplayer => absurd hrefused (not_or.mpr ⟨hroom, hplayer⟩),
              fun _ => hdraws⟩
          · obtain ⟨hroom, hplayer⟩ := not_or.mp hrefused
            rw [handle_playerIdentity generation now hroom hplayer]
            exact ⟨fun hnone _ _ => hnone, fun hkeeps => hkeeps hroom hplayer⟩
      | worldStateSnapshot snapshot =>
          by_cases haccepts : r.game.Accepts snapshot
          · obtain ⟨hgame, hresources, hentries⟩ :=
              handle_worldStateSnapshot atan2 generation now haccepts
            obtain ⟨identity, hidentity, -⟩ := haccepts.1
            -- the entries of the last snapshot are all there is to find an entry in
            have hcurrent := (drawsCurrentPlayers_iff hidentity).mp hdraws
            rw [drawsCurrentPlayers_iff ((congrArg _ hgame).trans hidentity), hentries, hresources,
              currentPlayers, hgame]
            refine (synchronize_iff hcurrent snapshot).trans ?_
            exact ⟨fun hsides _ => hsides, fun hkeeps => hkeeps haccepts⟩
          · obtain ⟨hgame, hresources, hentries⟩ :=
              handle_worldStateSnapshot_refused atan2 generation now haccepts
            rw [drawsCurrentPlayers_congr hgame hresources (congrArg _ hentries)]
            exact ⟨fun _ hyes => absurd hyes haccepts, fun _ => hdraws⟩

/-! ## Runs -/

/-- The application before anything has happened. -/
def initial (resources : PlayerResources) : RenderingApplication := { resources }

/-- **Only current players are drawn**, in every state of a run, exactly if every event of the run
meets the condition. No event fails. -/
theorem only_current_players_drawn (atan2 : ℚ → ℚ → ℚ) (resources : PlayerResources)
    (events : List (ℤ × InterpolatingApplication.Event)) :
    (∃ r, runFrom (fun r event => (step atan2 r event).toOption) (initial resources) events =
      some r) ∧
    (Throughout (fun r event => (step atan2 r event).toOption) DrawsCurrentPlayers
        (initial resources) events ↔
      EachStep (fun r event => (step atan2 r event).toOption) KeepsPlayersCurrent
        (initial resources) events) := by
  have hstep : ∀ r event r', (step atan2 r event).toOption = some r' →
      step atan2 r event = .ok r' := by
    intro r event r' h
    obtain ⟨r₁, hr₁, -⟩ := step_ok atan2 r event
    rw [hr₁] at h ⊢
    exact congrArg _ (Option.some.inj h)
  constructor
  · generalize initial resources = r
    induction events generalizing r with
    | nil => exact ⟨r, rfl⟩
    | cons event events ih =>
        obtain ⟨r₁, hr₁, -⟩ := step_ok atan2 r event
        obtain ⟨r', hr'⟩ := ih r₁
        refine ⟨r', ?_⟩
        rw [runFrom_cons, hr₁]
        exact hr'
  · refine throughout_iff_eachStep (I := DrawsCurrentPlayers) (fun _ h => h) ?_ ?_
      (drawsCurrentPlayers_of_none rfl)
    · intro r event r' hdraws hsome hkeeps
      exact (step_drawsCurrentPlayers hdraws (hstep r event r' hsome)).mpr hkeeps
    · intro r event r' hdraws hsome hbreaks hdraws'
      exact hbreaks ((step_drawsCurrentPlayers hdraws (hstep r event r' hsome)).mp hdraws')

/-- A player is seen, the connection is lost, and the next one has just begun. -/
def reconnected : List (ℤ × InterpolatingApplication.Event) := [
  (0, .invoke 1 (.playerIdentity ⟨1, 7⟩)),
  (100000000, .invoke 1 (.worldStateSnapshot { ClientGameState.atTick 5 1 with
    players := [⟨7, .flame, .zero, .zero, .zero, .zero, .zero⟩] })),
  (200000000, .invoke 1 (.disconnected .eof)),
  (300000000, .invoke 2 (.playerIdentity ⟨1, 8⟩))]

/-- **A player of the last connection is drawn**: the new one has shown nobody yet. -/
theorem only_current_players_drawn_reconnected :
    ¬ Throughout (fun r event => (step (fun _ _ => 0) r event).toOption) DrawsCurrentPlayers
      (initial ⟨⟨1⟩, ⟨⟨2⟩, ⟨3⟩⟩, ⟨⟨4⟩, ⟨5⟩⟩⟩) reconnected := by
  intro h
  have hdrawn : (runFrom (fun r event => (step (fun _ _ => 0) r event).toOption)
      (initial ⟨⟨1⟩, ⟨⟨2⟩, ⟨3⟩⟩, ⟨⟨4⟩, ⟨5⟩⟩⟩) reconnected).map (fun r =>
        (r.drawnPlayerRenderEntries.map (·.map shown), r.currentPlayers)) =
      some (some [(7, ⟨⟨2⟩, ⟨3⟩⟩)], []) := by decide +kernel
  obtain ⟨r, hrun, hr⟩ := Option.map_eq_some_iff.mp hdrawn
  obtain ⟨hentries, hcurrent⟩ := Prod.mk.inj hr
  obtain ⟨entries, hin, hshown⟩ := Option.map_eq_some_iff.mp hentries
  have hdraws := h reconnected r (List.prefix_refl _) hrun entries hin
  rw [hshown, hcurrent] at hdraws
  cases hdraws

end RenderingApplication

end NetworkArena.Client
