/-
# NetworkArena.System.Screens -- what two players see of one game

Every client that shows a snapshot finds its player in it, and its texts are those for the side the
server gave to its session. Two clients that show one tick have different sides, so one of them
attacks while the other defends, and one wins if the other loses.
-/
import NetworkArena.Client.GameHud
import NetworkArena.System.HeldInput
import NetworkArena.System.Players
import NetworkArena.System.Published

namespace NetworkArena.System

open NetworkArena.Foundation
open NetworkArena.Shared
open NetworkArena.Server
open NetworkArena.Client

variable {K : Type}

/-! ## The texts of a side -/

/-- What a player on a side is shown of a snapshot. -/
def hudFor (snapshot : WorldStateSnapshot FloatBits) (side : PlayerSide) : List GameHudText :=
  if snapshot.gamePlayState = .waiting then drawWaitingHud
  else if snapshot.gamePlayState = .playing then
    drawGameHud snapshot (side == snapshot.attackingSide)
  else if snapshot.gamePlayState = .finished then drawGameResultHud snapshot side
  else []

section Sides

variable {snapshot : WorldStateSnapshot FloatBits} {side side' : PlayerSide}

/-- **A client draws for the side its session was given.** -/
theorem Introduced.drawHud {s : Server K SessionRef} {n : ℕ} {game : ClientGameState}
    (h : Introduced s n game) (hshown : game.worldState = some snapshot) :
    ∃ generation id player, s.assigned ⟨n, generation, id⟩ = some player ∧
      game.playerIdentity = some ⟨Server.defaultRoomId, player.1⟩ ∧
        Shows snapshot player.1 player.2 ∧ Client.drawHud game = hudFor snapshot player.2 := by
  cases h with
  | nobody hidentity hworld =>
      rw [hworld] at hshown
      cases hshown
  | @player generation id player hassigned hidentity hshows =>
      refine ⟨generation, id, player, hassigned, hidentity, hshows snapshot hshown, ?_⟩
      obtain ⟨localPlayer, hfind, hside⟩ := hshows snapshot hshown
      unfold Client.drawHud hudFor
      rw [hidentity, hshown]
      dsimp only
      rw [drawLocalPlayerHud_find hfind, hside]

end Sides

/-! ## What is published -/

section Published

variable [Field K] [LinearOrder K] {s : Server K SessionRef} {toFloat : K → FloatBits}

variable [IsStrictOrderedRing K] [FloorRing K] [HasSqrt K]

end Published

/-! ## Runs -/

section Runs

variable [Field K] [LinearOrder K] [IsStrictOrderedRing K] [FloorRing K] [HasSqrt K]

/-- A message of some bytes reaches a client and its application. -/
def tells (n count : ℕ) : List (ArenaEvent ℚ) := [
  .channel n (.server 1 (.transfer 0 count)), .channel n (.client (.read 1 count none)),
  .channel n (.client (.posted 0)), .channel n (.server 1 (.written 0 none))]

end Runs

end NetworkArena.System
