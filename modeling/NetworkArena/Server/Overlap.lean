/-
# NetworkArena.Server.Overlap -- what the walls hide from the collision detection

The detection sweeps the players' ways without the walls; the positions that are stored are the ends
of the ways, limited to the arena. Two players who walk side by side into a wall never meet on their
ways, and end up on the same spot. A run has no undetected overlap exactly when, in every tick that
ends with the players within two radii of each other, the ways meet as well.
-/
import NetworkArena.Server.Scoring
import Mathlib.Algebra.Order.Archimedean.Real.Basic
import Mathlib.Analysis.Real.Sqrt

namespace NetworkArena.Server

open NetworkArena.Shared

variable {K ρ ω : Type} [Field K] [LinearOrder K]

/-! ## Distances -/

section Distance

/-- The distance of two positions. -/
def distance [HasSqrt K] (first second : K × K) : K := HasSqrt.sqrt (distanceSquared first second)

variable [IsStrictOrderedRing K]

theorem distanceSquared_nonneg (first second : K × K) : 0 ≤ distanceSquared first second :=
  add_nonneg (mul_self_nonneg _) (mul_self_nonneg _)

variable [HasSqrt K] [LawfulSqrt K]

theorem distance_nonneg (first second : K × K) : 0 ≤ distance first second :=
  LawfulSqrt.sqrt_nonneg _ (distanceSquared_nonneg first second)

theorem distance_mul_self (first second : K × K) :
    distance first second * distance first second = distanceSquared first second :=
  LawfulSqrt.sqrt_mul_self _ (distanceSquared_nonneg first second)

end Distance

/-! ## Overlaps -/

/-- Where a player is. -/
def PlayerState.position (state : PlayerState K) : K × K := (state.positionX, state.positionY)

/-- The players of a running game are more than two radii apart. -/
def Room.Separated (r : Room K ρ) : Prop :=
  r.gameState = .playing → ∀ first second, r.players = [first, second] →
    ¬ Touching first.2.state.position second.2.state.position

/-- A tick would end with the players at most two radii apart, collisions aside. -/
def Room.WouldTouch (r : Room K ρ) (deltaSeconds : K) : Prop :=
  ∃ first second, r.players = [first, second] ∧
    Touching (Room.tickPlayer (r.simulationDelta deltaSeconds) first.2.state).position
      (Room.tickPlayer (r.simulationDelta deltaSeconds) second.2.state).position

/-- The ways of the two players meet in a tick. -/
def Room.WaysMeet (r : Room K ρ) (deltaSeconds : K) : Prop :=
  ∃ first second, r.players = [first, second] ∧
    Meets first.2.state second.2.state (r.simulationDelta deltaSeconds)

/-- A collision has been recorded, and both players have been respawned. -/
def Recorded (r r' : Room K ρ) : Prop :=
  r'.totalScore = r.totalScore + 1 ∧ ∀ entry ∈ r'.players, entry.2.state.AtSpawn

/-! ## What the operations do to the distance -/

section Operations

variable {r : Room K ρ}

theorem Room.Separated.of_waiting (h : r.gameState = .waiting) : r.Separated :=
  fun hplaying => absurd (h.symm.trans hplaying) (by decide)

/-- Two rooms with the same state and the same positions. -/
theorem Room.Separated.of_eq (h : r.Separated) {r' : Room K ρ} (hstate : r'.gameState = r.gameState)
    (hpositions : r'.players.map (·.2.state.position) = r.players.map (·.2.state.position)) :
    r'.Separated := by
  intro hplaying first second hplayers
  rw [hstate] at hplaying
  rw [hplayers] at hpositions
  have hlength : r.players.length = 2 := by
    simpa using (congrArg List.length hpositions).symm
  obtain ⟨first', second', hplayers'⟩ := List.length_eq_two.mp hlength
  rw [hplayers'] at hpositions
  simp only [List.map_cons, List.map_nil, List.cons.injEq, and_true] at hpositions
  rw [hpositions.1, hpositions.2]
  exact h hplaying first' second' hplayers'

/-- The spawns of the two sides are three units apart. -/
theorem Roster.distanceSquared_of_atSpawn [IsStrictOrderedRing K] (h : Roster r.players)
    (hspawn : ∀ entry ∈ r.players, entry.2.state.AtSpawn)
    {first second : SessionId × Player K ρ} (hplayers : r.players = [first, second]) :
    distanceSquared first.2.state.position second.2.state.position = 9 := by
  rw [hplayers] at hspawn
  have hsides := h.sides
  have hdistinct := h.distinct
  rw [hplayers] at hsides hdistinct
  have hfirst := hspawn first (by simp)
  have hsecond := hspawn second (by simp)
  have hne : first.2.state.side ≠ second.2.state.side := by simpa using hdistinct
  unfold distanceSquared PlayerState.position
  dsimp only
  rw [hfirst.positionY, hsecond.positionY]
  rcases hsides first (by simp) with hside | hside <;>
    rcases hsides second (by simp) with hside' | hside'
  · exact absurd (hside.trans hside'.symm) hne
  · rw [hfirst.flame hside, hsecond.frost hside']
    norm_num
  · rw [hfirst.frost hside, hsecond.flame hside']
    norm_num
  · exact absurd (hside.trans hside'.symm) hne

/-- **Players at their spawns are apart.** -/
theorem Roster.separated_of_atSpawn [IsStrictOrderedRing K] (h : Roster r.players)
    (hspawn : ∀ entry ∈ r.players, entry.2.state.AtSpawn) : r.Separated := by
  intro _ first second hplayers
  unfold Touching
  rw [h.distanceSquared_of_atSpawn hspawn hplayers, playerCollisionRadius]
  norm_num

theorem Room.Separated.enter [IsStrictOrderedRing K] [SessionObject ρ] (hr : r.Consistent)
    (h : r.Separated) (session : Option ρ) : (r.enter session).2.Separated := by
  rcases r.enter_cases session with ⟨playerId, -, hrefused⟩ | ⟨entering, -, hadmits, hentered⟩
  · rw [hrefused]
    exact h.of_eq rfl rfl
  rw [hentered]
  have hwaiting : r.gameState = .waiting := hr.phase.waiting.mpr hadmits.capacity
  by_cases hready : r.gameState = .waiting ∧ (r.withPlayer entering).isAttackDefenseReady = true
  · -- the game starts with both players at their spawns
    rw [if_pos hready]
    have hroster := hr.withPlayer hadmits
    have hstarted := (hroster.startGame (hroster.ready_iff.mp hready.2)).roster
    apply hstarted.separated_of_atSpawn
    intro entry hentry
    obtain ⟨old, hold, rfl⟩ := List.mem_map.mp hentry
    exact startPlayer_atSpawn (hroster.sides old hold)
  · rw [if_neg hready]
    exact Room.Separated.of_waiting hwaiting

theorem Room.Separated.leave (hr : r.Consistent) (h : r.Separated) (sessionId : SessionId) :
    (r.leave sessionId).Separated := by
  rcases Room.leave_or_few hr.roster.few sessionId with hsame | hfew
  · rw [hsame]
    exact h
  · exact Room.Separated.of_waiting ((hr.leave sessionId).phase.waiting.mpr hfew)

theorem Room.Separated.applyPlayerInput [HasSqrt K] (h : r.Separated) (sessionId : SessionId)
    (input : PlayerInputPayload) : (r.applyPlayerInput sessionId input).2.Separated := by
  unfold Room.applyPlayerInput
  split
  · refine h.of_eq rfl ?_
    show (r.players.map _).map _ = _
    rw [List.map_map]
    apply List.map_congr_left
    intro entry _
    rw [Function.comp_apply]
    split
    · unfold Room.applyInput
      dsimp only
      repeat' split
      all_goals rfl
    · rfl
  · exact h

variable [IsStrictOrderedRing K] [FloorRing K] [HasSqrt K] {deltaSeconds : K}

/-- **A tick without a collision** ends where the ways end, walls included. -/
theorem Room.Consistent.tick_positions (h : r.Consistent) (hplaying : r.gameState = .playing)
    (hdelta : 0 < deltaSeconds) (hcollision : r.tickCollision deltaSeconds = none) :
    (r.tick deltaSeconds).players.map (·.2.state.position) = r.players.map fun entry =>
      (Room.tickPlayer (r.simulationDelta deltaSeconds) entry.2.state).position := by
  obtain ⟨first, second, hplayers, hkeys⟩ :=
    h.roster.pair (h.two_players (by rw [hplaying]; decide))
  have hsimulate := Room.simulate_two hplayers hkeys deltaSeconds
  rw [hcollision] at hsimulate
  rcases (Room.tick_simulate hdelta hplaying).2 with hsame | hended
  · rw [hsame, hsimulate]
    exact List.map_map
  · rw [hended, hsimulate]
    show ((r.players.map _).map _).map _ = _
    rw [List.map_map, List.map_map]
    rfl

/-- **What a tick does to the distance.** It hides nothing if it would not touch, or has a
collision. -/
theorem Room.Separated.tick (hr : r.Consistent) (h : r.Separated) (hdelta : 0 < deltaSeconds)
    (hnothing : r.gameState = .playing → r.WouldTouch deltaSeconds →
      (r.tickCollision deltaSeconds).isSome = true) : (r.tick deltaSeconds).Separated := by
  by_cases hplaying : r.gameState = .playing
  swap
  · rw [Room.tick_idle (Or.inr hplaying)]
    exact h
  cases hcollision : r.tickCollision deltaSeconds with
  | some collisionTime =>
      exact (hr.tick deltaSeconds).roster.separated_of_atSpawn
        (hr.tick_some hplaying hdelta hcollision).2
  | none =>
      intro _ first second hplayers htouching
      have hpositions := hr.tick_positions hplaying hdelta hcollision
      obtain ⟨first', second', hplayers', -⟩ :=
        hr.roster.pair (hr.two_players (by rw [hplaying]; decide))
      rw [hplayers, hplayers'] at hpositions
      simp only [List.map_cons, List.map_nil, List.cons.injEq, and_true] at hpositions
      rw [hpositions.1, hpositions.2] at htouching
      have hfound := hnothing hplaying ⟨first', second', hplayers', htouching⟩
      rw [hcollision] at hfound
      cases hfound

omit [FloorRing K] in
/-- **A collision is found in a tick exactly when the ways meet.** -/
theorem Room.Consistent.tickCollision_isSome [LawfulSqrt K] (h : r.Consistent)
    (hplaying : r.gameState = .playing) (hdelta : 0 < deltaSeconds) :
    (r.tickCollision deltaSeconds).isSome = true ↔ r.WaysMeet deltaSeconds := by
  have hsim : 0 < r.simulationDelta deltaSeconds := lt_min hdelta (h.phase.gameTimer hplaying).1
  obtain ⟨first, second, hplayers, -⟩ := h.roster.pair (h.two_players (by rw [hplaying]; decide))
  have hcollision : r.tickCollision deltaSeconds = findPlayerCollisionTimeDuringTick
      first.2.state second.2.state (r.simulationDelta deltaSeconds) := by
    unfold Room.tickCollision
    rw [hplayers]
  rw [hcollision, findPlayerCollisionTimeDuringTick_isSome hsim]
  constructor
  · intro hmeets
    exact ⟨first, second, hplayers, hmeets⟩
  · rintro ⟨first', second', hplayers', hmeets⟩
    rw [hplayers] at hplayers'
    obtain ⟨rfl, rfl⟩ : first = first' ∧ second = second' := by simpa using hplayers'
    exact hmeets

omit [FloorRing K] in
theorem Room.Consistent.tickCollision_apart [LawfulSqrt K] (h : r.Consistent)
    (hplaying : r.gameState = .playing) (hdelta : 0 < deltaSeconds)
    (hmore : deltaSeconds < r.gameRemainingSeconds) {first second : SessionId × Player K ρ}
    (hplayers : r.players = [first, second])
    (hapart : ¬ Meets first.2.state second.2.state deltaSeconds) :
    r.tickCollision deltaSeconds = none := by
  have hsim : r.simulationDelta deltaSeconds = deltaSeconds := min_eq_left hmore.le
  rw [← Option.not_isSome_iff_eq_none, h.tickCollision_isSome hplaying hdelta]
  rintro ⟨first', second', hplayers', hmeets⟩
  rw [hplayers] at hplayers'
  obtain ⟨rfl, rfl⟩ : first = first' ∧ second = second' := by simpa using hplayers'
  rw [hsim] at hmeets
  exact hapart hmeets

/-- **Players whose ways do not meet** move through a tick, unless it is the last of the game. -/
theorem Room.Consistent.players_tick_apart [LawfulSqrt K] (h : r.Consistent)
    (hplaying : r.gameState = .playing) (hdelta : 0 < deltaSeconds)
    (hmore : deltaSeconds < r.gameRemainingSeconds) {first second : SessionId × Player K ρ}
    (hplayers : r.players = [first, second])
    (hapart : ¬ Meets first.2.state second.2.state deltaSeconds) :
    (r.tick deltaSeconds).players =
      [(first.1, { first.2 with state := Room.tickPlayer deltaSeconds first.2.state }),
        (second.1, { second.2 with state := Room.tickPlayer deltaSeconds second.2.state })] := by
  have hsim : r.simulationDelta deltaSeconds = deltaSeconds := min_eq_left hmore.le
  have hkeys : first.1 ≠ second.1 := by
    have hnodup := h.roster.keys
    rw [hplayers] at hnodup
    simpa using hnodup
  have hleft : ¬ max 0 (r.gameRemainingSeconds - deltaSeconds) ≤ 0 :=
    not_le.mpr (lt_max_of_lt_right (sub_pos.mpr hmore))
  rw [Room.tick_playing hdelta hplaying, hsim, if_neg hleft]
  show (r.simulate deltaSeconds).players = _
  rw [Room.simulate_two hplayers hkeys, h.tickCollision_apart hplaying hdelta hmore hplayers hapart,
    hsim]
  show r.players.map _ = _
  rw [hplayers]
  rfl

omit [IsStrictOrderedRing K] [FloorRing K] [HasSqrt K] in
/-- A collision in a running game is one more point. -/
theorem Room.Consistent.scoresAfter_total (h : r.Consistent) (hplaying : r.gameState = .playing)
    (collisionTime : K) :
    (r.scoresAfter collisionTime).flame + (r.scoresAfter collisionTime).frost =
      r.totalScore + 1 := by
  obtain ⟨n, hside⟩ : ∃ n : ℤ, r.attackingSide = sideInInterval n := by
    rcases h.phase.attacking hplaying with hflame | hfrost
    · exact ⟨0, hflame⟩
    · exact ⟨1, hfrost⟩
  obtain ⟨hnow, hnext⟩ := r.scoresAfter_credits hside collisionTime
  by_cases hbefore : collisionTime < r.attackRoleSwitchRemainingSeconds
  · exact (hnow hbefore).total
  · exact (hnext hbefore).total

/-- **A collision is recorded** in a tick exactly when one is found. -/
theorem Room.Consistent.recorded_iff (h : r.Consistent) (hplaying : r.gameState = .playing)
    (hdelta : 0 < deltaSeconds) :
    Recorded r (r.tick deltaSeconds) ↔ (r.tickCollision deltaSeconds).isSome = true := by
  cases hcollision : r.tickCollision deltaSeconds with
  | none =>
      refine ⟨fun hrecorded => ?_, nofun⟩
      have hscores := hrecorded.1
      unfold Room.totalScore at hscores
      rw [h.tick_none hplaying hdelta hcollision] at hscores
      omega
  | some collisionTime =>
      refine ⟨fun _ => rfl, fun _ => ?_⟩
      obtain ⟨hscores, hspawn⟩ := h.tick_some hplaying hdelta hcollision
      refine ⟨?_, hspawn⟩
      rw [Room.totalScore, hscores]
      exact h.scoresAfter_total hplaying collisionTime

end Operations

/-! ## Whole runs -/

section Runs

variable [IsStrictOrderedRing K] [FloorRing K] [HasSqrt K] [SessionObject ρ]
  {sessions : Room.Sessions ρ ω} {t : Room K ρ × ω}

/-- **No undetected overlap** in a run: the players of a running game are apart in every state, and
every tick that would end with them in touch has recorded a collision and respawned them. -/
structure NoUndetectedOverlap (sessions : Room.Sessions ρ ω) (t : Room K ρ × ω)
    (events : List (RoomEvent K ρ ω)) : Prop where
  separated : ∀ part, part <+: events → (Room.run sessions t part).1.Separated
  recorded : ∀ part deltaSeconds, part ++ [.tick deltaSeconds] <+: events →
    (Room.run sessions t part).1.gameState = .playing →
    (Room.run sessions t part).1.WouldTouch deltaSeconds →
    Recorded (Room.run sessions t part).1
      (Room.run sessions t (part ++ [.tick deltaSeconds])).1

/-- In every tick that would end with the players in touch, their ways meet. -/
def WallsHideNothing (sessions : Room.Sessions ρ ω) (t : Room K ρ × ω)
    (events : List (RoomEvent K ρ ω)) : Prop :=
  ∀ part deltaSeconds, part ++ [.tick deltaSeconds] <+: events →
    (Room.run sessions t part).1.gameState = .playing →
    (Room.run sessions t part).1.WouldTouch deltaSeconds →
    (Room.run sessions t part).1.WaysMeet deltaSeconds

/-- **What one operation does to the distance.** -/
theorem Room.Separated.step (hr : t.1.Consistent) (h : t.1.Separated) (event : RoomEvent K ρ ω)
    (hnothing : ∀ deltaSeconds, event = .tick deltaSeconds → 0 < deltaSeconds ∧
      (t.1.gameState = .playing → t.1.WouldTouch deltaSeconds →
        (t.1.tickCollision deltaSeconds).isSome = true)) :
    (Room.step sessions t event).1.Separated := by
  cases event with
  | enter session => exact h.enter hr session
  | leave sessionId => exact h.leave hr sessionId
  | applyPlayerInput sessionId input => exact h.applyPlayerInput sessionId input
  | tick deltaSeconds =>
      obtain ⟨hdelta, hfound⟩ := hnothing deltaSeconds rfl
      exact h.tick hr hdelta hfound
  | broadcast type payload =>
      have hboth : (t.1.broadcast sessions type payload t.2).1.Consistent ∧
          (t.1.broadcast sessions type payload t.2).1.Separated :=
        Room.broadcast_induction (P := fun r => r.Consistent ∧ r.Separated)
          (fun r id hr => ⟨hr.1.leave id, hr.2.leave hr.1 id⟩) sessions type payload t.2 ⟨hr, h⟩
      exact hboth.2
  | sessions w => exact h

/-- **What the walls hide**, exactly. From a fresh room, a run has no undetected overlap if and only
if the ways of the players meet in every tick that would end with the players in touch. -/
theorem no_undetected_overlap_iff [LawfulSqrt K] (id : RoomId) (sessions : Room.Sessions ρ ω)
    (w : ω) (events : List (RoomEvent K ρ ω)) (hticks : CappedTicks events) :
    NoUndetectedOverlap sessions (Room.create id, w) events ↔
      WallsHideNothing sessions (Room.create id, w) events := by
  have hfresh : ((Room.create id, w) : Room K ρ × ω).1.Consistent := Room.consistent_create id
  have hconsistent : ∀ part, (Room.run sessions (Room.create id, w) part).1.Consistent :=
    hfresh.run sessions
  constructor
  · intro hno part deltaSeconds hpart hplaying htouch
    have hdelta : 0 < deltaSeconds := (hticks deltaSeconds (hpart.subset (by simp))).1
    have hrecorded := hno.recorded part deltaSeconds hpart hplaying htouch
    rw [Room.run_concat] at hrecorded
    exact ((hconsistent part).tickCollision_isSome hplaying hdelta).mp
      (((hconsistent part).recorded_iff hplaying hdelta).mp hrecorded)
  · intro hwalls
    have hfound : ∀ part deltaSeconds, part ++ [.tick deltaSeconds] <+: events →
        0 < deltaSeconds ∧ ((Room.run sessions (Room.create id, w) part).1.gameState = .playing →
          (Room.run sessions (Room.create id, w) part).1.WouldTouch deltaSeconds →
          ((Room.run sessions (Room.create id, w) part).1.tickCollision
            deltaSeconds).isSome = true) := by
      intro part deltaSeconds hpart
      have hdelta : 0 < deltaSeconds := (hticks deltaSeconds (hpart.subset (by simp))).1
      refine ⟨hdelta, fun hplaying htouch => ?_⟩
      exact ((hconsistent part).tickCollision_isSome hplaying hdelta).mpr
        (hwalls part deltaSeconds hpart hplaying htouch)
    constructor
    · intro part
      induction part using List.reverseRecOn with
      | nil => exact fun _ => Room.Separated.of_waiting rfl
      | append_singleton part event ih =>
          intro hpart
          rw [Room.run_concat]
          apply (ih ((List.prefix_append _ _).trans hpart)).step (hconsistent part)
          rintro deltaSeconds rfl
          exact hfound part deltaSeconds hpart
    · intro part deltaSeconds hpart hplaying htouch
      obtain ⟨hdelta, hcollision⟩ := hfound part deltaSeconds hpart
      rw [Room.run_concat]
      exact ((hconsistent part).recorded_iff hplaying hdelta).mpr (hcollision hplaying htouch)

end Runs

/-! ## Two players who walk into the same wall -/

/-- The real numbers, with their square root. -/
noncomputable instance : HasSqrt ℝ := ⟨Real.sqrt⟩

instance : LawfulSqrt ℝ where
  sqrt_nonneg x _ := Real.sqrt_nonneg x
  sqrt_mul_self _ hx := Real.mul_self_sqrt hx

/-- Full speed to the left. -/
def leftInput : PlayerInputPayload := ⟨-1000, 0, 0, false⟩

/-- A player on the middle line, with a direction along it. -/
def walker (sessionId : SessionId) (playerId : PlayerId) (side : PlayerSide) (directionX x : K) :
    SessionId × Player K SessionId :=
  (sessionId,
    ⟨playerId, sessionId, some sessionId, ⟨side, x, 0, 0, directionX, 0, false, 0, 0, 0, 0⟩⟩)

/-- Two players enter and turn to the left. -/
def turnLeft : List (RoomEvent K SessionId Unit) :=
  [.enter (some 1), .enter (some 2), .applyPlayerInput 1 leftInput, .applyPlayerInput 2 leftInput]

/-- A game in which two players walk to the left. -/
structure WalksLeft [FloorRing K] (r : Room K SessionId) (T x₁ x₂ : K) : Prop where
  clock : ClockAt r T
  consistent : r.Consistent
  players : r.players = [walker 1 1 .flame (-1) x₁, walker 2 2 .frost (-1) x₂]

section Walls

variable [IsStrictOrderedRing K] [FloorRing K] [HasSqrt K] {r : Room K SessionId} {T x₁ x₂ : K}

omit [FloorRing K] in
/-- An input that is no longer than one is taken as it is. -/
theorem normalizePlayerInput_short {input : PlayerInputPayload} {x y : K}
    (hx : (input.moveX.toInt : K) = 1000 * x) (hy : (input.moveY.toInt : K) = 1000 * y)
    (hshort : x * x + y * y ≤ 1) : normalizePlayerInput input = ⟨x, y, 0⟩ := by
  have hmax : maxPlayerInputAxisRawValue.toInt = 1000 := by decide
  have hdivide : ∀ z : K, 1000 * z / ((1000 : ℤ) : K) = z := by
    intro z
    push_cast
    exact mul_div_cancel_left₀ z (by norm_num)
  have hlength : ¬ x * x + y * y + 0 * 0 > 1 := by
    rw [mul_zero, add_zero]
    exact not_lt.mpr hshort
  unfold normalizePlayerInput
  rw [hx, hy, hmax, hdivide, hdivide]
  exact if_neg hlength

omit [FloorRing K] in
theorem applyInput_left : (Room.applyInput .playing leftInput : PlayerState K → PlayerState K) =
    fun state => { state with directionX := -1, directionY := 0, dashInputActive := false } := by
  have hleft : leftInput.moveX.toInt = -1000 := by decide
  have hlevel : leftInput.moveY.toInt = 0 := by decide
  funext state
  unfold Room.applyInput
  rw [normalizePlayerInput_short (x := -1) (y := 0) (by rw [hleft]; norm_num)
    (by rw [hlevel]; norm_num) (by norm_num)]
  rfl

theorem run_bothEnter : Room.run liveSessions ((Room.create 1 : Room K SessionId), ())
    [.enter (some 1), .enter (some 2)] =
      (⟨1, 3, .playing, .flame, 3, 30, .none, {},
        [walker 1 1 .flame 0 (-(15 / 10)), walker 2 2 .frost 0 (15 / 10)]⟩, ()) := rfl

theorem run_turnLeft : Room.run liveSessions ((Room.create 1 : Room K SessionId), ()) turnLeft =
    (⟨1, 3, .playing, .flame, 3, 30, .none, {},
      [walker 1 1 .flame (-1) (-(15 / 10)), walker 2 2 .frost (-1) (15 / 10)]⟩, ()) := by
  have hsplit : (turnLeft : List (RoomEvent K SessionId Unit)) =
      [.enter (some 1), .enter (some 2)] ++ [.applyPlayerInput 1 leftInput] ++
        [.applyPlayerInput 2 leftInput] := rfl
  rw [hsplit, Room.run_concat, Room.run_concat, run_bothEnter]
  simp [Room.step, Room.applyPlayerInput, Room.updatePlayer, applyInput_left, walker]

theorem walksLeft_start :
    WalksLeft (Room.run liveSessions ((Room.create 1 : Room K SessionId), ()) turnLeft).1 0
      (-(15 / 10)) (15 / 10) where
  clock := by
    rw [run_turnLeft]
    exact clockAt_start rfl rfl rfl rfl
  consistent :=
    Room.Consistent.run (t := ((Room.create 1 : Room K SessionId), ())) (Room.consistent_create 1)
      liveSessions turnLeft
  players := by rw [run_turnLeft]

omit [FloorRing K] [HasSqrt K] in
/-- A quarter of a second to the left ends at the wall at the latest. -/
theorem tickPlayer_left (sessionId : SessionId) (playerId : PlayerId) (side : PlayerSide) {x : K}
    (hx : x ≤ 285 / 100) :
    Room.tickPlayer (1 / 4) (walker sessionId playerId side (-1) x).2.state =
      (walker sessionId playerId side (-1) (max (-(285 / 100)) (x - 5 / 4))).2.state := by
  have hmove : Room.movePlayer (1 / 4) (walker sessionId playerId side (-1) x).2.state =
      (walker sessionId playerId side (-1) (x - 5 / 4)).2.state := by
    unfold Room.movePlayer walker
    dsimp only
    rw [if_neg (lt_irrefl 0), if_pos (by norm_num), playerMoveSpeed]
    congr 1 <;> ring
  have hclampX : clamp (x - 5 / 4) (arenaMinX + playerBoundaryMargin)
      (arenaMaxX - playerBoundaryMargin) = max (-(285 / 100)) (x - 5 / 4) := by
    have hlow : (arenaMinX + playerBoundaryMargin : K) = -(285 / 100) := by
      norm_num [arenaMinX, playerBoundaryMargin]
    have hhigh : ¬ (arenaMaxX - playerBoundaryMargin : K) < x - 5 / 4 := by
      norm_num [arenaMaxX, playerBoundaryMargin]
      linarith
    unfold clamp
    rw [hlow, if_neg hhigh]
    split
    · next hless => exact (max_eq_left hless.le).symm
    · next hmore => exact (max_eq_right (not_lt.mp hmore)).symm
  have hclampY : clamp (0 : K) (arenaMinY + playerBoundaryMargin)
      (arenaMaxY - playerBoundaryMargin) = 0 := by
    unfold clamp
    rw [if_neg (by norm_num [arenaMinY, playerBoundaryMargin]),
      if_neg (by norm_num [arenaMaxY, playerBoundaryMargin])]
  unfold Room.tickPlayer
  rw [hmove]
  unfold walker
  dsimp only
  rw [hclampX, hclampY]
  congr 1
  norm_num

omit [FloorRing K] [HasSqrt K] in
/-- Two players who walk the same way do not meet, unless they start in touch. -/
theorem not_meets_left {x₁ x₂ : K} (hfar : x₁ + 3 / 10 < x₂) (deltaSeconds : K) :
    ¬ Meets (walker 1 1 .flame (-1) x₁).2.state (walker 2 2 .frost (-1) x₂).2.state
      deltaSeconds := by
  rintro ⟨s, hs, -, htouching, rfl | hend | hend | hfast⟩
  · rw [path_zero, path_zero] at htouching
    unfold Touching distanceSquared walker playerCollisionRadius at htouching
    dsimp only at htouching
    nlinarith
  · exact absurd hend.2.1 (by rw [hend.1]; exact lt_irrefl _)
  · exact absurd hend.2.1 (by rw [hend.1]; exact lt_irrefl _)
  · -- both have the same velocity
    have hsame : approachVelocity (walker 1 1 .flame (-1) x₁).2.state s =
        approachVelocity (walker 2 2 .frost (-1) x₂).2.state s := rfl
    unfold Approaching distanceSquared collisionEpsilon at hfast
    rw [hsame, sub_self, sub_self] at hfast
    norm_num at hfast

variable [LawfulSqrt K]

/-- **A tick to the left.** -/
theorem WalksLeft.tick (h : WalksLeft r T x₁ x₂) (hrunning : T < 30 - 1 / 4)
    (hfar : x₁ + 3 / 10 < x₂) :
    WalksLeft (r.tick (1 / 4)) (T + 1 / 4) (max (-(285 / 100)) (x₁ - 5 / 4))
      (max (-(285 / 100)) (x₂ - 5 / 4)) where
  clock := h.clock.tick (by norm_num)
  consistent := h.consistent.tick (1 / 4)
  players := by
    obtain ⟨hplaying, hgame, -, -⟩ := h.clock.running (by linarith)
    have hx := h.consistent.roster.inArena
    rw [h.players] at hx
    have hx₁ : x₁ ≤ 285 / 100 := (hx (walker 1 1 .flame (-1) x₁) (by simp)).maxX
    have hx₂ : x₂ ≤ 285 / 100 := (hx (walker 2 2 .frost (-1) x₂) (by simp)).maxX
    have hmoved := h.consistent.players_tick_apart hplaying (by norm_num : (0 : K) < 1 / 4)
      (by rw [hgame]; linarith) h.players (not_meets_left hfar _)
    rw [tickPlayer_left _ _ _ hx₁, tickPlayer_left _ _ _ hx₂] at hmoved
    exact hmoved

/-- **Four ticks later both are at the wall**, in the same place. -/
theorem walksLeft_wall : WalksLeft (Room.run liveSessions ((Room.create 1 : Room K SessionId), ())
    (turnLeft ++ List.replicate 4 (.tick (1 / 4)))).1 1 (-(285 / 100)) (-(285 / 100)) := by
  have hfirst := (walksLeft_start (K := K)).tick (by norm_num) (by norm_num)
  rw [max_eq_right (by norm_num), max_eq_right (by norm_num)] at hfirst
  have hsecond := hfirst.tick (by norm_num) (by norm_num)
  rw [max_eq_left (by norm_num), max_eq_right (by norm_num)] at hsecond
  have hthird := hsecond.tick (by norm_num) (by norm_num)
  rw [max_eq_left (by norm_num), max_eq_right (by norm_num)] at hthird
  have hfourth := hthird.tick (by norm_num) (by norm_num)
  rw [max_eq_left (by norm_num), max_eq_left (by norm_num)] at hfourth
  have htime : (0 + 1 / 4 + 1 / 4 + 1 / 4 + 1 / 4 : K) = 1 := by norm_num
  rw [htime] at hfourth
  exact hfourth

end Walls

/-- **The walls hide an overlap**: two players walk to the left for a second, and stand on the same
spot of a running game. -/
theorem overlap_at_wall :
    CappedTicks (turnLeft ++ List.replicate 4 (.tick (1 / 4)) : List (RoomEvent ℝ SessionId Unit)) ∧
    isValidPlayerInput leftInput = true ∧
    ¬ NoUndetectedOverlap liveSessions ((Room.create 1 : Room ℝ SessionId), ())
      (turnLeft ++ List.replicate 4 (.tick (1 / 4))) := by
  refine ⟨?_, by decide, ?_⟩
  · intro deltaSeconds hmem
    have hquarter : deltaSeconds = 1 / 4 := by simpa [turnLeft] using hmem
    rw [hquarter]
    norm_num
  · intro hno
    have hwall := walksLeft_wall (K := ℝ)
    have hplaying := (hwall.clock.running (by norm_num)).1
    refine hno.separated _ (List.prefix_refl _) hplaying _ _ hwall.players ?_
    unfold Touching distanceSquared PlayerState.position walker playerCollisionRadius
    norm_num

/-! ## A player who runs into the other one -/

/-- Full speed to the right, with a dash. -/
def dashRightInput : PlayerInputPayload := ⟨1000, 0, 0, true⟩

/-- Two players enter, and the first one dashes at the second. -/
def dashRight : List (RoomEvent K SessionId Unit) :=
  [.enter (some 1), .enter (some 2), .applyPlayerInput 1 dashRightInput]

/-- A player that has started to dash along the middle line. -/
def dasher : SessionId × Player K SessionId :=
  (1, ⟨1, 1, some 1, ⟨.flame, -(15 / 10), 0, 0, 1, 0, true, 1, 0, playerDashDurationSeconds, 1⟩⟩)

section Hit

variable [IsStrictOrderedRing K] [FloorRing K] [HasSqrt K]

omit [IsStrictOrderedRing K] [FloorRing K] in
/-- An input of a running game that starts a dash. -/
theorem applyInput_dash {input : PlayerInputPayload} {x y : K} {state : PlayerState K}
    (hinput : normalizePlayerInput input = ⟨x, y, 0⟩) (hdash : input.dash = true)
    (hreleased : state.dashInputActive = false)
    (hcooled : state.dashCooldownRemainingSeconds ≤ 0) (hmoving : ¬ (x = 0 ∧ y = 0)) :
    Room.applyInput .playing input state = { state with
      directionX := x
      directionY := y
      dashInputActive := true
      dashDirectionX := x
      dashDirectionY := y
      dashRemainingSeconds := 16 / 100
      dashCooldownRemainingSeconds := 1 } := by
  have hrequest : ¬ (!(input.dash && !state.dashInputActive)) = true := by
    rw [hdash, hreleased]
    decide
  unfold Room.applyInput
  rw [hinput]
  dsimp only
  rw [if_neg (by decide), if_neg hrequest, if_neg (not_lt.mpr hcooled), if_neg hmoving, hdash]
  rfl

theorem run_dashRight : Room.run liveSessions ((Room.create 1 : Room K SessionId), ()) dashRight =
    (⟨1, 3, .playing, .flame, 3, 30, .none, {}, [dasher, walker 2 2 .frost 0 (15 / 10)]⟩, ()) := by
  have hright : dashRightInput.moveX.toInt = 1000 := by decide
  have hlevel : dashRightInput.moveY.toInt = 0 := by decide
  have hinput : (normalizePlayerInput dashRightInput : NormalizedPlayerInput K) = ⟨1, 0, 0⟩ :=
    normalizePlayerInput_short (by rw [hright]; norm_num) (by rw [hlevel]; norm_num) (by norm_num)
  have hdash : Room.applyInput .playing dashRightInput (walker 1 1 .flame 0 (-(15 / 10))).2.state =
      (dasher (K := K)).2.state :=
    applyInput_dash hinput rfl rfl (le_refl 0) (by norm_num)
  have hsplit : (dashRight : List (RoomEvent K SessionId Unit)) =
      [.enter (some 1), .enter (some 2)] ++ [.applyPlayerInput 1 dashRightInput] := rfl
  rw [hsplit, Room.run_concat, run_bothEnter]
  show (Room.mk _ _ _ _ _ _ _ _ [(1, Player.mk 1 1 (some 1) (Room.applyInput .playing
    dashRightInput (walker 1 1 .flame 0 (-(15 / 10))).2.state)), walker 2 2 .frost 0 (15 / 10)],
    ()) = _
  rw [hdash]
  rfl

omit [FloorRing K] [HasSqrt K] in
theorem path_dasher {s : K} (hdashed : 16 / 100 ≤ s) :
    path (dasher (K := K)).2.state s = (5 * s + 1 / 10, 0) := by
  have htime : dashTime (dasher (K := K)).2.state s = 16 / 100 := by
    unfold dashTime dasher playerDashDurationSeconds
    dsimp only
    rw [max_eq_left (by norm_num), min_eq_right hdashed]
  rw [path_eq (le_trans (by norm_num) hdashed), htime]
  unfold dasher playerDashSpeed playerMoveSpeed
  ext
  · dsimp only
    ring
  · simp

omit [FloorRing K] [HasSqrt K] in
/-- Someone who stands. -/
theorem path_standing {s : K} (hs : 0 ≤ s) (x : K) :
    path (walker 2 2 .frost 0 x).2.state s = (x, 0) := by
  have htime : dashTime (walker 2 2 .frost 0 x).2.state s = 0 := by
    unfold dashTime walker
    rw [max_self, min_eq_right hs]
  rw [path_eq hs, htime]
  unfold walker
  simp

omit [FloorRing K] [HasSqrt K] in
/-- The ways meet after 0.22 seconds. -/
theorem meets_dasher :
    Meets (dasher (K := K)).2.state (walker 2 2 .frost 0 (15 / 10)).2.state (1 / 4) := by
  refine ⟨22 / 100, by norm_num, by norm_num, ?_, Or.inr (Or.inr (Or.inr ?_))⟩
  · rw [path_dasher (by norm_num), path_standing (by norm_num)]
    unfold Touching distanceSquared playerCollisionRadius
    norm_num
  · have hwalk : approachVelocity (dasher (K := K)).2.state (22 / 100) = (5, 0) := by
      unfold approachVelocity dasher playerMoveSpeed playerDashDurationSeconds
      rw [if_neg (by norm_num)]
      simp
    have hstand : approachVelocity (walker 2 2 .frost 0 (15 / 10)).2.state (22 / 100) =
        ((0, 0) : K × K) := by
      unfold approachVelocity walker
      rw [if_neg (by norm_num)]
      simp
    rw [hwalk, hstand]
    unfold Approaching distanceSquared collisionEpsilon
    norm_num

omit [FloorRing K] [HasSqrt K] in
/-- The positions after the tick are 0.15 units apart. -/
theorem touching_dasher :
    Touching (Room.tickPlayer (1 / 4) (dasher (K := K)).2.state).position
      (Room.tickPlayer (1 / 4) (walker 2 2 .frost 0 (15 / 10)).2.state).position := by
  have hpath := path_dasher (K := K) (s := 1 / 4) (by norm_num)
  have hstand := path_standing (K := K) (s := 1 / 4) (by norm_num) (15 / 10)
  unfold path at hpath hstand
  rw [Prod.mk.injEq] at hpath hstand
  unfold Room.tickPlayer PlayerState.position
  dsimp only
  rw [hpath.1, hpath.2, hstand.1, hstand.2]
  unfold clamp arenaMinX arenaMaxX arenaMinY arenaMaxY playerBoundaryMargin Touching
    distanceSquared playerCollisionRadius
  norm_num

end Hit

/-- A player who dashes at the other one ends the tick in touch with it, and the collision has been
recorded. -/
theorem no_undetected_overlap_iff_hit :
    (Room.run liveSessions ((Room.create 1 : Room ℝ SessionId), ()) dashRight).1.WouldTouch
        (1 / 4) ∧
      Recorded (Room.run liveSessions ((Room.create 1 : Room ℝ SessionId), ()) dashRight).1
        (Room.run liveSessions ((Room.create 1 : Room ℝ SessionId), ())
          (dashRight ++ [.tick (1 / 4)])).1 := by
  have hrun := run_dashRight (K := ℝ)
  have hsim : (Room.run liveSessions ((Room.create 1 : Room ℝ SessionId), ())
      dashRight).1.simulationDelta (1 / 4) = 1 / 4 := by
    rw [hrun]
    exact min_eq_left (by norm_num)
  have hplayers : (Room.run liveSessions ((Room.create 1 : Room ℝ SessionId), ())
      dashRight).1.players = [dasher, walker 2 2 .frost 0 (15 / 10)] := by rw [hrun]
  have htouch : (Room.run liveSessions ((Room.create 1 : Room ℝ SessionId), ())
      dashRight).1.WouldTouch (1 / 4) :=
    ⟨_, _, hplayers, hsim.symm ▸ touching_dasher⟩
  have hticks : CappedTicks (dashRight ++ [.tick (1 / 4)] : List (RoomEvent ℝ SessionId Unit)) := by
    intro deltaSeconds hmem
    have hquarter : deltaSeconds = 1 / 4 := by simpa [dashRight] using hmem
    rw [hquarter]
    norm_num
  have hwalls : WallsHideNothing liveSessions ((Room.create 1 : Room ℝ SessionId), ())
      (dashRight ++ [.tick (1 / 4)]) := by
    intro part deltaSeconds hpart _ _
    rcases List.prefix_concat_iff.mp hpart with heq | hearlier
    swap
    · have hmem := hearlier.subset (List.mem_append_right part (List.mem_singleton_self _))
      simp [dashRight] at hmem
    obtain ⟨rfl, hquarter⟩ := List.append_inj' heq rfl
    obtain rfl : deltaSeconds = 1 / 4 := by simpa using hquarter
    exact ⟨_, _, hplayers, hsim.symm ▸ meets_dasher⟩
  refine ⟨htouch, ((no_undetected_overlap_iff 1 liveSessions () _ hticks).mpr hwalls).recorded
    dashRight (1 / 4) (List.prefix_refl _) ?_ htouch⟩
  rw [hrun]

end NetworkArena.Server
