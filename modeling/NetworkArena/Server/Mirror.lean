/-
# NetworkArena.Server.Mirror -- the room in a mirror

The arena looks the same from all sides. A mirror may reverse its axes: with the first, which joins
the two places where players start, it exchanges the sides as well, and with them the scores, the
attacker and the winner. Every operation of the room, on what the mirror shows, does what the mirror
shows of it; only entering is not the same from both sides, as Flame is seated first and attacks
first. So runs are mirrored as a whole, and in a game neither a direction nor a side is favoured:
two players who exchange their places and roles get each other's scores.
-/
import NetworkArena.Server.Broadcast
import NetworkArena.Server.Collision
import NetworkArena.Shared.FixedFormats

namespace NetworkArena.Server

open NetworkArena.Shared

variable {K ρ ω : Type}

/-! ## Mirrors -/

/-- The axes that are reversed. -/
structure Mirror where
  x : Bool
  y : Bool
  deriving DecidableEq, Repr

/-- A number in a mirror that reverses it or not. -/
def reversed [Neg K] (reverse : Bool) (v : K) : K := if reverse then -v else v

namespace Mirror

variable (m : Mirror)

/-- The sides are where the players start, so they change places with the first axis. -/
def side (side : PlayerSide) : PlayerSide :=
  if m.x then Room.switchAttackingSide side else side

def scores (scores : SideScores) : SideScores :=
  if m.x then ⟨scores.frost, scores.flame⟩ else scores

/-- The index of a side in `sideScores_`. -/
def index (index : Fin 2) : Fin 2 :=
  if m.x then (if index = flameSideIndex then frostSideIndex else flameSideIndex) else index

def vector [Neg K] (v : K × K) : K × K := (reversed m.x v.1, reversed m.y v.2)

def input (input : PlayerInputPayload) : PlayerInputPayload :=
  { input with moveX := reversed m.x input.moveX, moveY := reversed m.y input.moveY }

def normalized [Neg K] (input : NormalizedPlayerInput K) : NormalizedPlayerInput K :=
  { input with moveX := reversed m.x input.moveX, moveY := reversed m.y input.moveY }

def movement [Neg K] (movement : PlayerMovement K) : PlayerMovement K :=
  ⟨reversed m.x movement.startX, reversed m.y movement.startY, reversed m.x movement.velocityX,
    reversed m.y movement.velocityY⟩

def state [Neg K] (state : PlayerState K) : PlayerState K :=
  { state with
    side := m.side state.side
    positionX := reversed m.x state.positionX
    positionY := reversed m.y state.positionY
    directionX := reversed m.x state.directionX
    directionY := reversed m.y state.directionY
    dashDirectionX := reversed m.x state.dashDirectionX
    dashDirectionY := reversed m.y state.dashDirectionY }

def player [Neg K] (entry : SessionId × Player K ρ) : SessionId × Player K ρ :=
  (entry.1, { entry.2 with state := m.state entry.2.state })

def room [Neg K] (r : Room K ρ) : Room K ρ :=
  { r with
    attackingSide := m.side r.attackingSide
    winningSide := m.side r.winningSide
    sideScores := m.scores r.sideScores
    players := r.players.map m.player }

def playerSnapshot [Neg K] (s : PlayerStateSnapshot K) : PlayerStateSnapshot K :=
  { s with
    side := m.side s.side
    positionX := reversed m.x s.positionX
    positionY := reversed m.y s.positionY
    directionX := reversed m.x s.directionX
    directionY := reversed m.y s.directionY }

def snapshot [Neg K] (s : WorldStateSnapshot K) : WorldStateSnapshot K :=
  { s with
    attackingSide := m.side s.attackingSide
    winningSide := m.side s.winningSide
    flameScore := if m.x then s.frostScore else s.flameScore
    frostScore := if m.x then s.flameScore else s.frostScore
    players := s.players.map m.playerSnapshot }

/-- Only inputs have a direction. -/
def event : RoomEvent K ρ ω → RoomEvent K ρ ω
  | .applyPlayerInput sessionId input => .applyPlayerInput sessionId (m.input input)
  | event => event

/-- The inputs are those the decoder accepts, and nobody enters if the sides are exchanged. -/
def Shows : RoomEvent K ρ ω → Prop
  | .enter _ => m.x = false
  | .applyPlayerInput _ input => input.InRange
  | _ => True

end Mirror

/-! ## Numbers -/

section Numbers

variable [Field K] {b : Bool} {v w : K}

@[simp]
theorem reversed_zero : reversed b (0 : K) = 0 := by
  cases b <;> simp [reversed]

theorem reversed_add : reversed b (v + w) = reversed b v + reversed b w := by
  cases b
  · rfl
  · exact neg_add v w

theorem reversed_sub : reversed b (v - w) = reversed b v - reversed b w := by
  cases b
  · rfl
  · exact neg_sub' v w

theorem reversed_mul : reversed b (v * w) = reversed b v * w := by
  cases b
  · rfl
  · exact neg_mul_eq_neg_mul v w

theorem reversed_div : reversed b (v / w) = reversed b v / w := by
  cases b
  · rfl
  · exact (neg_div w v).symm

@[simp]
theorem reversed_mul_reversed : reversed b v * reversed b w = v * w := by
  cases b
  · rfl
  · exact neg_mul_neg v w

@[simp]
theorem reversed_eq_zero : reversed b v = 0 ↔ v = 0 := by
  cases b
  · rfl
  · exact neg_eq_zero

variable [LinearOrder K] [IsStrictOrderedRing K]

/-- Limits that are opposite to each other stay the same. -/
theorem clamp_reversed {low high : K} (hlow : low ≤ high) (h : low = -high) :
    clamp (reversed b v) low high = reversed b (clamp v low high) := by
  cases b with
  | false => rfl
  | true =>
      show clamp (-v) low high = -clamp v low high
      subst h
      unfold clamp
      rcases lt_trichotomy v (-high) with hless | heq | hmore
      · rw [if_neg (not_lt.mpr (by linarith)), if_pos (by linarith), if_pos hless, neg_neg]
      · rw [heq, neg_neg]
        simp [not_lt.mpr hlow]
      · by_cases hhigh : high < v
        · rw [if_pos (by linarith), if_neg (not_lt.mpr (le_of_lt hmore)), if_pos hhigh]
        · rw [if_neg (by linarith), if_neg (by linarith), if_neg (not_lt.mpr (le_of_lt hmore)),
            if_neg hhigh]

end Numbers

/-! ## Sides -/

theorem Room.switchAttackingSide_eq_flame (s : PlayerSide) :
    switchAttackingSide s = .flame ↔ s = .frost := by
  unfold switchAttackingSide
  split
  · next h => simp [h, PlayerSide.flame, PlayerSide.frost]
  · next h =>
    split
    · next h' => simp [h']
    · next h' => exact iff_of_false h h'

theorem Room.switchAttackingSide_eq_frost (s : PlayerSide) :
    switchAttackingSide s = .frost ↔ s = .flame := by
  unfold switchAttackingSide
  split
  · next h => simp [h]
  · next h =>
    split
    · next h' => simp [h', PlayerSide.flame, PlayerSide.frost]
    · next h' => exact iff_of_false h' h

theorem Room.switchAttackingSide_switchAttackingSide (s : PlayerSide) :
    switchAttackingSide (switchAttackingSide s) = s := by
  by_cases hflame : s = .flame
  · subst hflame
    rfl
  · by_cases hfrost : s = .frost
    · subst hfrost
      rfl
    · simp [switchAttackingSide, hflame, hfrost]

namespace Mirror

variable (m : Mirror)

theorem switchAttackingSide_side (s : PlayerSide) :
    Room.switchAttackingSide (m.side s) = m.side (Room.switchAttackingSide s) := by
  unfold side
  split <;> rfl

/-- In the mirror of the mirror everything is as before. -/
theorem side_side (s : PlayerSide) : m.side (m.side s) = s := by
  unfold side
  split
  · exact Room.switchAttackingSide_switchAttackingSide s
  · rfl

@[simp]
theorem side_none : m.side .none = .none := by
  unfold side
  split <;> rfl

theorem side_inj {s t : PlayerSide} : m.side s = m.side t ↔ s = t := by
  constructor
  · intro h
    have hback := congrArg m.side h
    rwa [side_side, side_side] at hback
  · exact congrArg m.side

theorem getPlayerSideIndex_side (s : PlayerSide) :
    Room.getPlayerSideIndex (m.side s) = (Room.getPlayerSideIndex s).map m.index := by
  unfold side index Room.getPlayerSideIndex
  by_cases hx : m.x = true
  · simp only [hx, if_true, Room.switchAttackingSide_eq_flame,
      Room.switchAttackingSide_eq_frost]
    by_cases hflame : s = .flame
    · subst hflame
      rfl
    · by_cases hfrost : s = .frost
      · subst hfrost
        rfl
      · simp [hflame, hfrost]
  · simp only [hx]
    exact (congrFun Option.map_id _).symm

theorem getOppositePlayerSideIndex_side (s : PlayerSide) :
    Room.getOppositePlayerSideIndex (m.side s) =
      (Room.getOppositePlayerSideIndex s).map m.index := by
  unfold side index Room.getOppositePlayerSideIndex
  by_cases hx : m.x = true
  · simp only [hx, if_true, Room.switchAttackingSide_eq_flame,
      Room.switchAttackingSide_eq_frost]
    by_cases hflame : s = .flame
    · subst hflame
      rfl
    · by_cases hfrost : s = .frost
      · subst hfrost
        rfl
      · simp [hflame, hfrost]
  · simp only [hx]
    exact (congrFun Option.map_id _).symm

theorem increment_scores (scores : SideScores) (i : Fin 2) :
    (m.scores scores).increment (m.index i) = m.scores (scores.increment i) := by
  unfold Mirror.scores index SideScores.increment
  by_cases hx : m.x = true
  · simp only [hx, if_true]
    by_cases hflame : i = flameSideIndex
    · simp [hflame, flameSideIndex, frostSideIndex]
    · simp [hflame]
  · simp only [hx]
    rfl

theorem winner_scores (scores : SideScores) :
    (m.scores scores).winner = m.side scores.winner := by
  unfold Mirror.scores side
  split
  · obtain ⟨flame, frost⟩ := scores
    unfold SideScores.winner
    dsimp only
    rcases lt_trichotomy flame frost with hfrost | hdraw | hflame
    · rw [if_pos hfrost, if_neg (not_lt_of_gt hfrost), if_pos hfrost]
      rfl
    · subst hdraw
      simp only [gt_iff_lt, lt_irrefl, if_false]
      rfl
    · rw [if_neg (not_lt_of_gt hflame), if_pos hflame, if_pos hflame]
      rfl
  · rfl

end Mirror

/-! ## Inputs -/

section Inputs

variable (m : Mirror) [Field K]

theorem toInt_reversed {b : Bool} {axis : Int16}
    (h : -1000 ≤ axis.toInt ∧ axis.toInt ≤ 1000) :
    ((reversed b axis).toInt : K) = reversed b (axis.toInt : K) := by
  cases b with
  | false => rfl
  | true =>
      show ((-axis).toInt : K) = -(axis.toInt : K)
      rw [Int16.toInt_neg, Int.bmod_eq_of_le (by omega) (by omega), Int.cast_neg]

variable [LinearOrder K] [HasSqrt K]

/-- The length of a direction does not depend on where it points. -/
theorem normalizePlayerInput_mirror {input : PlayerInputPayload} (h : input.InRange) :
    normalizePlayerInput (K := K) (m.input input) = m.normalized (normalizePlayerInput input) := by
  have hx : ((reversed m.x input.moveX).toInt : K) = reversed m.x (input.moveX.toInt : K) :=
    toInt_reversed (h _ (by simp))
  have hy : ((reversed m.y input.moveY).toInt : K) = reversed m.y (input.moveY.toInt : K) :=
    toInt_reversed (h _ (by simp))
  unfold normalizePlayerInput Mirror.input Mirror.normalized
  dsimp only
  rw [hx, hy, ← reversed_div, ← reversed_div]
  simp only [reversed_mul_reversed]
  split
  · simp only [← reversed_mul]
  · rfl

end Inputs

/-! ## One player -/

section Players

variable (m : Mirror) [Field K]

theorem resetPlayerPosition_mirror (s : PlayerState K) :
    Room.resetPlayerPosition (m.state s) = m.state (Room.resetPlayerPosition s) := by
  obtain ⟨x, y⟩ := m
  unfold Room.resetPlayerPosition Mirror.state Mirror.side
  cases x with
  | false =>
      by_cases hflame : s.side = .flame
      · simp [hflame, reversed]
      · by_cases hfrost : s.side = .frost
        · simp [hfrost, reversed, PlayerSide.flame, PlayerSide.frost]
        · simp [hflame, hfrost, reversed]
  | true =>
      simp only [if_true, Room.switchAttackingSide_eq_flame, Room.switchAttackingSide_eq_frost]
      by_cases hflame : s.side = .flame
      · simp [hflame, reversed, PlayerSide.flame, PlayerSide.frost]
      · by_cases hfrost : s.side = .frost
        · simp [hfrost, reversed, PlayerSide.flame, PlayerSide.frost]
        · simp [hflame, hfrost, reversed]

theorem startPlayer_mirror (s : PlayerState K) :
    Room.startPlayer (m.state s) = m.state (Room.startPlayer s) := by
  unfold Room.startPlayer
  rw [resetPlayerPosition_mirror]
  simp [Mirror.state]

theorem endDash_mirror (s : PlayerState K) :
    Room.endDash (m.state s) = m.state (Room.endDash s) := by
  simp [Room.endDash, Mirror.state]

variable [LinearOrder K]

theorem applyInput_mirror [HasSqrt K] {gameState : GamePlayState} {input : PlayerInputPayload}
    (h : input.InRange) (s : PlayerState K) :
    Room.applyInput gameState (m.input input) (m.state s) =
      m.state (Room.applyInput gameState input s) := by
  unfold Room.applyInput
  rw [normalizePlayerInput_mirror m h]
  simp only [Mirror.input, Mirror.normalized, Mirror.state, reversed_eq_zero]
  split_ifs <;> rfl

theorem movePlayer_mirror (seconds : K) (s : PlayerState K) :
    Room.movePlayer seconds (m.state s) = m.state (Room.movePlayer seconds s) := by
  unfold Room.movePlayer
  by_cases hdash : s.dashRemainingSeconds > 0
  · have hmirrored : (m.state s).dashRemainingSeconds > 0 := hdash
    simp only [if_pos hdash, if_pos hmirrored]
    by_cases hwalk : seconds - min seconds s.dashRemainingSeconds > 0
    · have hmirroredWalk : seconds - min seconds (m.state s).dashRemainingSeconds > 0 := hwalk
      rw [if_pos hwalk, if_pos hmirroredWalk]
      simp only [Mirror.state, reversed_add, reversed_mul]
    · have hmirroredWalk : ¬ seconds - min seconds (m.state s).dashRemainingSeconds > 0 := hwalk
      rw [if_neg hwalk, if_neg hmirroredWalk]
      simp only [Mirror.state, reversed_add, reversed_mul]
  · have hmirrored : ¬ (m.state s).dashRemainingSeconds > 0 := hdash
    simp only [if_neg hdash, if_neg hmirrored]
    split
    · simp only [Mirror.state, reversed_add, reversed_mul]
    · rfl

/-- The arena looks the same from all sides. -/
theorem tickPlayer_mirror [IsStrictOrderedRing K] (seconds : K) (s : PlayerState K) :
    Room.tickPlayer seconds (m.state s) = m.state (Room.tickPlayer seconds s) := by
  have hx : (arenaMinX + playerBoundaryMargin : K) = -(arenaMaxX - playerBoundaryMargin) := by
    norm_num [arenaMinX, arenaMaxX, playerBoundaryMargin]
  have hy : (arenaMinY + playerBoundaryMargin : K) = -(arenaMaxY - playerBoundaryMargin) := by
    norm_num [arenaMinY, arenaMaxY, playerBoundaryMargin]
  have hxle : (arenaMinX + playerBoundaryMargin : K) ≤ arenaMaxX - playerBoundaryMargin := by
    norm_num [arenaMinX, arenaMaxX, playerBoundaryMargin]
  have hyle : (arenaMinY + playerBoundaryMargin : K) ≤ arenaMaxY - playerBoundaryMargin := by
    norm_num [arenaMinY, arenaMaxY, playerBoundaryMargin]
  unfold Room.tickPlayer
  rw [movePlayer_mirror]
  simp only [Mirror.state, clamp_reversed hxle hx, clamp_reversed hyle hy]

end Players

/-! ## Collisions -/

section Collisions

variable (m : Mirror) [Field K]

theorem distanceSquared_mirror (p q : K × K) :
    distanceSquared (m.vector p) (m.vector q) = distanceSquared p q := by
  simp only [distanceSquared, Mirror.vector, ← reversed_sub, reversed_mul_reversed]

variable [LinearOrder K]

theorem segmentVelocity_mirror (s : PlayerState K) (t : K) :
    segmentVelocity (m.state s) t = m.vector (segmentVelocity s t) := by
  unfold segmentVelocity
  by_cases hdash : s.dashRemainingSeconds > t
  · have hmirrored : (m.state s).dashRemainingSeconds > t := hdash
    rw [if_pos hdash, if_pos hmirrored]
    simp only [Mirror.state, Mirror.vector, reversed_mul]
  · have hmirrored : ¬ (m.state s).dashRemainingSeconds > t := hdash
    rw [if_neg hdash, if_neg hmirrored]
    simp only [Mirror.state, Mirror.vector, reversed_mul]

variable [HasSqrt K]

/-- Only distances count. -/
theorem findPlayerCollisionTime_mirror (first second : PlayerMovement K) (seconds : K) :
    findPlayerCollisionTime (m.movement first) (m.movement second) seconds =
      findPlayerCollisionTime first second seconds := by
  have hgap : (m.movement first).gapTerm (m.movement second) = first.gapTerm second := by
    unfold PlayerMovement.gapTerm
    rw [← distanceSquared_mirror m (first.startX, first.startY)]
    rfl
  have hspeed : (m.movement first).speedTerm (m.movement second) = first.speedTerm second :=
    distanceSquared_mirror m first.velocity second.velocity
  have hcross : (m.movement first).crossTerm (m.movement second) = first.crossTerm second := by
    simp only [PlayerMovement.crossTerm, Mirror.movement, ← reversed_sub, reversed_mul_reversed]
  rw [findPlayerCollisionTime_eq, findPlayerCollisionTime_eq, hgap, hspeed, hcross]

theorem findCollisionInSegments_mirror (first second : PlayerState K) (boundaries : List K)
    (p q : K × K) :
    findCollisionInSegments (m.state first) (m.state second) boundaries (m.vector p) (m.vector q) =
      findCollisionInSegments first second boundaries p q := by
  induction boundaries generalizing p q with
  | nil => rfl
  | cons segmentStartTime boundaries ih =>
      cases boundaries with
      | nil => rfl
      | cons segmentEndTime boundaries =>
          have htime := findPlayerCollisionTime_mirror m
            ⟨p.1, p.2, (segmentVelocity first segmentStartTime).1,
              (segmentVelocity first segmentStartTime).2⟩
            ⟨q.1, q.2, (segmentVelocity second segmentStartTime).1,
              (segmentVelocity second segmentStartTime).2⟩ (segmentEndTime - segmentStartTime)
          unfold findCollisionInSegments
          simp only [segmentVelocity_mirror]
          rw [← htime]
          unfold Mirror.movement Mirror.vector
          dsimp only
          split
          · rfl
          · rw [← ih]
            simp only [Mirror.vector, reversed_add, reversed_mul]

theorem findPlayerCollisionTimeDuringTick_mirror (first second : PlayerState K) (seconds : K) :
    findPlayerCollisionTimeDuringTick (m.state first) (m.state second) seconds =
      findPlayerCollisionTimeDuringTick first second seconds :=
  findCollisionInSegments_mirror m first second
    (collectPlayerMovementBoundaries first second seconds) (first.positionX, first.positionY)
    (second.positionX, second.positionY)

theorem findPlayerCollisions_mirror (seconds : K) (players : List (SessionId × Player K ρ)) :
    Room.findPlayerCollisions seconds (players.map m.player) =
      Room.findPlayerCollisions seconds players := by
  induction players with
  | nil => rfl
  | cons first behind ih =>
      rw [List.map_cons, Room.findPlayerCollisions, Room.findPlayerCollisions, ih]
      congr 1
      unfold Room.collisionsWith
      rw [List.filterMap_map]
      congr 1
      funext second
      exact congrArg _ (findPlayerCollisionTimeDuringTick_mirror m _ _ _)

end Collisions

/-! ## The room -/

section Rooms

variable (m : Mirror) [Field K]

variable {f g : PlayerState K → PlayerState K}

theorem forEachPlayer_mirror (hf : ∀ s, f (m.state s) = m.state (g s)) (r : Room K ρ) :
    (m.room r).forEachPlayer f = m.room (r.forEachPlayer g) := by
  unfold Room.forEachPlayer Mirror.room
  simp only [List.map_map]
  congr 1
  apply List.map_congr_left
  intro entry _
  simp only [Function.comp_apply, Mirror.player, hf]

theorem updatePlayer_mirror (hf : ∀ s, f (m.state s) = m.state (g s)) (r : Room K ρ)
    (sessionId : SessionId) :
    (m.room r).updatePlayer sessionId f = m.room (r.updatePlayer sessionId g) := by
  unfold Room.updatePlayer Mirror.room
  simp only [List.map_map]
  congr 1
  apply List.map_congr_left
  intro entry _
  simp only [Function.comp_apply, Mirror.player, hf]
  split <;> rfl

theorem hasPlayerOnSide_mirror (r : Room K ρ) (side : PlayerSide) :
    (m.room r).hasPlayerOnSide (m.side side) = r.hasPlayerOnSide side := by
  unfold Room.hasPlayerOnSide Mirror.room
  rw [List.any_map]
  congr 1
  funext entry
  rw [Bool.eq_iff_iff]
  simp only [Function.comp_apply, beq_iff_eq]
  exact m.side_inj

/-- Both sides are needed, whichever is which. -/
theorem isAttackDefenseReady_mirror (r : Room K ρ) :
    (m.room r).isAttackDefenseReady = r.isAttackDefenseReady := by
  unfold Room.isAttackDefenseReady
  rw [← hasPlayerOnSide_mirror m r .flame, ← hasPlayerOnSide_mirror m r .frost]
  unfold Mirror.side
  split
  · exact Bool.and_comm _ _
  · rfl

theorem any_mirror (r : Room K ρ) (sessionId : SessionId) :
    ((m.room r).players.any fun entry => entry.1 = sessionId) =
      r.players.any fun entry => entry.1 = sessionId := by
  unfold Mirror.room
  rw [List.any_map]
  rfl

theorem leave_mirror (r : Room K ρ) (sessionId : SessionId) :
    (m.room r).leave sessionId = m.room (r.leave sessionId) := by
  unfold Room.leave
  rw [any_mirror]
  split
  · have hplayers : { m.room r with
        players := (m.room r).players.filter fun entry => entry.1 ≠ sessionId } =
        m.room { r with players := r.players.filter fun entry => entry.1 ≠ sessionId } := by
      unfold Mirror.room
      rw [List.filter_map]
      rfl
    rw [hplayers]
    dsimp only
    rw [isAttackDefenseReady_mirror]
    split
    · unfold Room.stopGame
      simp only [Mirror.room, Mirror.side_none, Mirror.scores]
      split <;> rfl
    · rfl
  · rfl

theorem finishGame_mirror (r : Room K ρ) :
    (m.room r).finishGame = m.room r.finishGame := by
  unfold Room.finishGame
  rw [← forEachPlayer_mirror m (endDash_mirror m)]
  simp only [Mirror.room, m.winner_scores, m.side_none]

variable [LinearOrder K]

theorem applyPlayerInput_mirror [HasSqrt K] {input : PlayerInputPayload} (h : input.InRange)
    (r : Room K ρ) (sessionId : SessionId) :
    (m.room r).applyPlayerInput sessionId (m.input input) =
      ((r.applyPlayerInput sessionId input).1, m.room (r.applyPlayerInput sessionId input).2) := by
  unfold Room.applyPlayerInput
  rw [any_mirror]
  split
  · dsimp only
    rw [updatePlayer_mirror m (applyInput_mirror m h)]
    rfl
  · rfl

theorem resolveCollision_mirror (r : Room K ρ) (playerCollision : Room.PlayerCollision K) :
    (m.room r).resolveCollision playerCollision = m.room (r.resolveCollision playerCollision) := by
  have hrespawn (s : PlayerState K) : Room.resetPlayerPosition (Room.endDash (m.state s)) =
      m.state (Room.resetPlayerPosition (Room.endDash s)) := by
    rw [endDash_mirror, resetPlayerPosition_mirror]
  have hindex : (m.room r).getAttackingSideIndexAtTickTime playerCollision.timeInTick =
      (r.getAttackingSideIndexAtTickTime playerCollision.timeInTick).map m.index := by
    unfold Room.getAttackingSideIndexAtTickTime
    by_cases hbefore : playerCollision.timeInTick < r.attackRoleSwitchRemainingSeconds
    · rw [if_pos hbefore, ← m.getPlayerSideIndex_side]
      exact if_pos hbefore
    · rw [if_neg hbefore, ← m.getOppositePlayerSideIndex_side]
      exact if_neg hbefore
  unfold Room.resolveCollision
  rw [hindex]
  dsimp only
  cases r.getAttackingSideIndexAtTickTime playerCollision.timeInTick with
  | none =>
      dsimp only [Option.map_none]
      rw [updatePlayer_mirror m hrespawn, updatePlayer_mirror m hrespawn]
  | some index =>
      have hscores : { m.room r with
          sideScores := (m.room r).sideScores.increment (m.index index) } =
          m.room { r with sideScores := r.sideScores.increment index } := by
        simp only [Mirror.room, m.increment_scores]
      dsimp only [Option.map_some]
      rw [hscores, updatePlayer_mirror m hrespawn, updatePlayer_mirror m hrespawn]

theorem resolveCollisions_mirror (playerCollisions : List (Room.PlayerCollision K)) (r : Room K ρ) :
    playerCollisions.foldl Room.resolveCollision (m.room r) =
      m.room (playerCollisions.foldl Room.resolveCollision r) := by
  induction playerCollisions generalizing r with
  | nil => rfl
  | cons playerCollision playerCollisions ih =>
      rw [List.foldl_cons, List.foldl_cons, resolveCollision_mirror, ih]

variable [IsStrictOrderedRing K] [FloorRing K]

theorem switchLoop_mirror (attackingSide : PlayerSide) (remaining : K) :
    Room.switchLoop (m.side attackingSide) remaining =
      (m.side (Room.switchLoop attackingSide remaining).1,
        (Room.switchLoop attackingSide remaining).2) := by
  induction attackingSide, remaining using Room.switchLoop.induct with
  | case1 attackingSide remaining hover ih =>
      rw [Room.switchLoop, dif_pos hover, m.switchAttackingSide_side, ih]
      conv_rhs => rw [Room.switchLoop, dif_pos hover]
  | case2 attackingSide remaining hlasts =>
      rw [Room.switchLoop, dif_neg hlasts, Room.switchLoop, dif_neg hlasts]

theorem updateAttackDefenseState_mirror (r : Room K ρ) (deltaSeconds : K) :
    (m.room r).updateAttackDefenseState deltaSeconds =
      m.room (r.updateAttackDefenseState deltaSeconds) := by
  unfold Room.updateAttackDefenseState
  simp only [Mirror.room]
  rw [switchLoop_mirror]

variable [HasSqrt K]

omit [FloorRing K] in
theorem simulate_mirror (r : Room K ρ) (deltaSeconds : K) :
    (m.room r).simulate deltaSeconds = m.room (r.simulate deltaSeconds) := by
  have hcollisions : Room.findPlayerCollisions ((m.room r).simulationDelta deltaSeconds)
      (m.room r).players =
      Room.findPlayerCollisions (r.simulationDelta deltaSeconds) r.players :=
    findPlayerCollisions_mirror m _ r.players
  unfold Room.simulate
  rw [hcollisions, ← resolveCollisions_mirror,
    ← forEachPlayer_mirror m (tickPlayer_mirror m (r.simulationDelta deltaSeconds))]
  rfl

/-- **A tick in a mirror** is the tick, in the mirror. -/
theorem tick_mirror (r : Room K ρ) (deltaSeconds : K) :
    (m.room r).tick deltaSeconds = m.room (r.tick deltaSeconds) := by
  by_cases hdelta : 0 < deltaSeconds
  · by_cases hplaying : r.gameState = .playing
    · have hmirrored : (m.room r).gameState = .playing := hplaying
      rw [Room.tick_playing hdelta hplaying, Room.tick_playing hdelta hmirrored, simulate_mirror]
      by_cases hover : max 0 (r.gameRemainingSeconds - r.simulationDelta deltaSeconds) ≤ 0
      · rw [if_pos hover, ← finishGame_mirror]
        exact if_pos hover
      · rw [if_neg hover, ← updateAttackDefenseState_mirror]
        exact if_neg hover
    · rw [Room.tick_idle (Or.inr hplaying)]
      exact Room.tick_idle (Or.inr hplaying)
  · rw [Room.tick_idle (Or.inl (not_lt.mp hdelta)), Room.tick_idle (Or.inl (not_lt.mp hdelta))]

end Rooms

/-! ## Entering -/

section Entering

variable {m : Mirror} [Field K]

theorem side_of_x (hx : m.x = false) (s : PlayerSide) : m.side s = s := by
  unfold Mirror.side
  rw [hx]
  rfl

theorem startGame_mirror (hx : m.x = false) (r : Room K ρ) :
    (m.room r).startGame = m.room r.startGame := by
  unfold Room.startGame
  rw [← forEachPlayer_mirror m (startPlayer_mirror m)]
  simp only [Mirror.room, side_of_x hx, Mirror.scores, hx]
  rfl

theorem freeSide_mirror (hx : m.x = false) (r : Room K ρ) :
    (m.room r).freeSide = r.freeSide := by
  unfold Room.freeSide
  rw [← hasPlayerOnSide_mirror m r .flame, ← hasPlayerOnSide_mirror m r .frost, side_of_x hx,
    side_of_x hx]

variable [SessionObject ρ]

/-- A new player stands on the axis that stays. -/
theorem withPlayer_mirror (hx : m.x = false) (r : Room K ρ) (session : ρ) :
    (m.room r).withPlayer session = m.room (r.withPlayer session) := by
  have hstate (side : PlayerSide) : m.state ({ PlayerState.initial with side := side } :
      PlayerState K) = { PlayerState.initial with side := side } := by
    simp only [Mirror.state, PlayerState.initial, side_of_x hx, reversed_zero]
  have hplaced : m.state (Room.resetPlayerPosition
      ({ PlayerState.initial with side := r.freeSide } : PlayerState K)) =
      Room.resetPlayerPosition { PlayerState.initial with side := r.freeSide } := by
    rw [← resetPlayerPosition_mirror, hstate]
  unfold Room.withPlayer
  rw [freeSide_mirror hx]
  simp only [Mirror.room, List.map_append, List.map_cons, List.map_nil, Mirror.player]
  rw [hplaced]
  rfl

/-- `Enter`, check by check. -/
theorem enter_some (r : Room K ρ) (session : ρ) :
    r.enter (some session) =
      if SessionObject.getId session = 0 ∨ r.hasCapacity = false ∨ r.freeSide = .none ∨
          r.nextPlayerId = 0 then (none, r)
      else if r.players.any fun entry => entry.1 = SessionObject.getId session then
        (none, { r with nextPlayerId := r.followingPlayerId })
      else
        (some r.nextPlayerId,
          if r.gameState = .waiting ∧ (r.withPlayer session).isAttackDefenseReady = true then
            (r.withPlayer session).startGame
          else r.withPlayer session) := by
  unfold Room.enter
  dsimp only
  by_cases hid : SessionObject.getId session = 0
  · rw [if_pos hid, if_pos (Or.inl hid)]
  rw [if_neg hid]
  by_cases hcapacity : r.hasCapacity = true
  swap
  · rw [if_pos (by simpa using hcapacity), if_pos (by simp [hcapacity])]
  rw [if_neg (by simp [hcapacity])]
  show (if r.freeSide = .none then _ else _) = _
  by_cases hside : r.freeSide = .none
  · rw [if_pos hside, if_pos (by simp [hside])]
  rw [if_neg hside]
  by_cases hnext : r.nextPlayerId = 0
  · rw [if_pos (Or.inr (Or.inr (Or.inr hnext))), Room.generatePlayerId, if_pos hnext]
  have hopen : ¬ (SessionObject.getId session = 0 ∨ r.hasCapacity = false ∨ r.freeSide = .none ∨
      r.nextPlayerId = 0) := by
    simp [hid, hcapacity, hside, hnext]
  rw [if_neg hopen, r.generatePlayerId_eq hnext]
  dsimp only
  split
  · rfl
  · simp only [Player.create, if_neg hnext]
    rfl

theorem enter_mirror (hx : m.x = false) (r : Room K ρ) (session : Option ρ) :
    (m.room r).enter session = ((r.enter session).1, m.room (r.enter session).2) := by
  cases session with
  | none => rfl
  | some session =>
      have hcapacity : (m.room r).hasCapacity = r.hasCapacity := by
        unfold Room.hasCapacity Room.getPlayerCount Mirror.room
        rw [List.length_map]
      have hnext : (m.room r).nextPlayerId = r.nextPlayerId := rfl
      have hphase : (m.room r).gameState = r.gameState := rfl
      rw [enter_some, enter_some, hcapacity, freeSide_mirror hx, any_mirror, withPlayer_mirror hx,
        isAttackDefenseReady_mirror, startGame_mirror hx, hnext, hphase]
      split
      · rfl
      split
      · rfl
      split <;> rfl

end Entering

/-! ## Broadcasts -/

section Broadcasts

variable (m : Mirror) [Field K]

/-- Whom a message reaches has nothing to do with where the players stand. -/
theorem broadcastLoop_mirror (sessions : Room.Sessions ρ ω) (type : MessageType)
    (payload : List UInt8) (players : List (SessionId × Player K ρ)) (w : ω) :
    Room.broadcastLoop sessions type payload (players.map m.player) w =
      Room.broadcastLoop sessions type payload players w := by
  induction players generalizing w with
  | nil => rfl
  | cons entry players ih =>
      rw [List.map_cons]
      rcases expired_or_locked sessions entry.2.session w with hexpired | ⟨session, hsession, hlock⟩
      · have hmirrored : (m.player entry).2.session.filter (sessions.lock · w) = none := hexpired
        rw [broadcastLoop_expired hexpired, broadcastLoop_expired hmirrored, ih]
        rfl
      · have hmirrored : (m.player entry).2.session = some session := hsession
        rw [broadcastLoop_locked hsession hlock, broadcastLoop_locked hmirrored hlock]
        dsimp only
        rw [ih]

theorem leaves_mirror (sessionIds : List SessionId) (r : Room K ρ) :
    sessionIds.foldl Room.leave (m.room r) = m.room (sessionIds.foldl Room.leave r) := by
  induction sessionIds generalizing r with
  | nil => rfl
  | cons sessionId sessionIds ih => rw [List.foldl_cons, List.foldl_cons, leave_mirror, ih]

theorem broadcast_mirror [SessionObject ρ] (sessions : Room.Sessions ρ ω) (type : MessageType)
    (payload : List UInt8) (r : Room K ρ) (w : ω) :
    (m.room r).broadcast sessions type payload w =
      (m.room (r.broadcast sessions type payload w).1,
        (r.broadcast sessions type payload w).2) := by
  have hloop : Room.broadcastLoop sessions type payload (m.room r).players w =
      Room.broadcastLoop sessions type payload r.players w :=
    broadcastLoop_mirror m sessions type payload r.players w
  unfold Room.broadcast
  rw [hloop]
  simp only [dropFailed_eq, leaves_mirror]

end Broadcasts

/-! ## Runs -/

section Runs

variable {m : Mirror} [Field K] [LinearOrder K] [IsStrictOrderedRing K] [FloorRing K] [HasSqrt K]
  [SessionObject ρ]

theorem step_mirror (sessions : Room.Sessions ρ ω) {e : RoomEvent K ρ ω} (h : m.Shows e)
    (t : Room K ρ × ω) :
    Room.step sessions (m.room t.1, t.2) (m.event e) =
      (m.room (Room.step sessions t e).1, (Room.step sessions t e).2) := by
  cases e with
  | enter session => exact congrArg (·.2, t.2) (enter_mirror h t.1 session)
  | leave sessionId => exact congrArg (·, t.2) (leave_mirror m t.1 sessionId)
  | applyPlayerInput sessionId input =>
      exact congrArg (·.2, t.2) (applyPlayerInput_mirror m h t.1 sessionId)
  | tick deltaSeconds => exact congrArg (·, t.2) (tick_mirror m t.1 deltaSeconds)
  | broadcast type payload => exact broadcast_mirror m sessions type payload t.1 t.2
  | sessions w => rfl

theorem run_mirror (sessions : Room.Sessions ρ ω) {events : List (RoomEvent K ρ ω)}
    (h : ∀ e ∈ events, m.Shows e) (t : Room K ρ × ω) :
    Room.run sessions (m.room t.1, t.2) (events.map m.event) =
      (m.room (Room.run sessions t events).1, (Room.run sessions t events).2) := by
  unfold Room.run
  induction events generalizing t with
  | nil => rfl
  | cons e events ih =>
      rw [List.map_cons, List.foldl_cons, List.foldl_cons,
        step_mirror sessions (h e List.mem_cons_self)]
      exact ih (fun e' he' => h e' (List.mem_cons_of_mem e he')) _

omit [IsStrictOrderedRing K] [FloorRing K] [HasSqrt K] [SessionObject ρ] in
theorem captureSnapshot_mirror (r : Room K ρ) (serverTick : ServerTick) :
    (m.room r).captureSnapshot serverTick = m.snapshot (r.captureSnapshot serverTick) := by
  have hplayer (gameRunning : Bool) (entry : SessionId × Player K ρ) :
      Room.snapshotPlayer gameRunning (m.player entry).2 =
        m.playerSnapshot (Room.snapshotPlayer gameRunning entry.2) := by
    unfold Room.snapshotPlayer Mirror.playerSnapshot
    by_cases hdash : entry.2.state.dashRemainingSeconds > 0
    · have hmirrored : (m.player entry).2.state.dashRemainingSeconds > 0 := hdash
      simp only [if_pos hdash, if_pos hmirrored]
      cases gameRunning <;> simp [Mirror.player, Mirror.state]
    · have hmirrored : ¬ (m.player entry).2.state.dashRemainingSeconds > 0 := hdash
      simp only [if_neg hdash, if_neg hmirrored]
      cases gameRunning <;> simp [Mirror.player, Mirror.state]
  have hplayers (gameRunning : Bool) :
      (m.room r).players.map (fun entry => Room.snapshotPlayer gameRunning entry.2) =
        (r.players.map fun entry => Room.snapshotPlayer gameRunning entry.2).map
          m.playerSnapshot := by
    unfold Mirror.room
    rw [List.map_map, List.map_map]
    exact List.map_congr_left fun entry _ => hplayer gameRunning entry
  unfold Room.captureSnapshot Mirror.snapshot
  dsimp only
  rw [hplayers, List.map_insertionSort _ (fun left right => left.playerId ≤ right.playerId)]
  · simp only [Mirror.room, Mirror.scores]
    cases m.x <;> rfl
  · intro left _ right _
    rfl

/-- **A game in a mirror.** Whatever happens to a room, if the same happens in a mirror, the game
there is the mirrored game, the snapshots of it are the mirrored snapshots, and the sessions have
got the same. -/
theorem game_in_mirror (m : Mirror) (sessions : Room.Sessions ρ ω) (r : Room K ρ) (w : ω)
    (events : List (RoomEvent K ρ ω)) (h : ∀ e ∈ events, m.Shows e) :
    Room.run sessions (m.room r, w) (events.map m.event) =
        (m.room (Room.run sessions (r, w) events).1, (Room.run sessions (r, w) events).2) ∧
      ∀ serverTick,
        (Room.run sessions (m.room r, w) (events.map m.event)).1.captureSnapshot serverTick =
          m.snapshot ((Room.run sessions (r, w) events).1.captureSnapshot serverTick) := by
  have hrun := run_mirror sessions h (r, w)
  refine ⟨hrun, fun serverTick => ?_⟩
  rw [hrun]
  exact captureSnapshot_mirror _ serverTick

end Runs

/-- A game that has just started. -/
def duel : Room ℚ SessionId :=
  (Room.run liveSessions (Room.create 1, ()) [.enter (some 1), .enter (some 2)]).1

/-- Flame walks into Frost. -/
def attack : List (RoomEvent ℚ SessionId Unit) :=
  [.applyPlayerInput 1 ⟨1000, 0, 0, false⟩, .tick 1]

/-- The first score in a game, and in the mirror that exchanges the sides. -/
theorem game_in_mirror_attack :
    (Room.run liveSessions (duel, ()) attack).1.sideScores = ⟨1, 0⟩ ∧
      (Room.run liveSessions ((⟨true, false⟩ : Mirror).room duel, ())
        (attack.map (⟨true, false⟩ : Mirror).event)).1.sideScores = ⟨0, 1⟩ := by
  have hattack : (Room.run liveSessions (duel, ()) attack).1.sideScores = ⟨1, 0⟩ := by
    decide +kernel
  refine ⟨hattack, ?_⟩
  have hshows : ∀ e ∈ attack, (⟨true, false⟩ : Mirror).Shows e := by
    have hinput : (⟨1000, 0, 0, false⟩ : PlayerInputPayload).InRange :=
      (isValidPlayerInput_iff _).mp rfl
    simpa [attack, Mirror.Shows] using hinput
  rw [(game_in_mirror ⟨true, false⟩ liveSessions duel () attack hshows).1]
  simp only [Mirror.room, hattack]
  rfl

end NetworkArena.Server
