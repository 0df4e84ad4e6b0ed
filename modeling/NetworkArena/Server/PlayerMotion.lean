/-
# NetworkArena.Server.PlayerMotion -- one player through the operations of a room

Two ways of following a player. The first is for what holds of every player in every room: a
property of states that the small functions keep (`PlayerKept`) is kept by every operation of the
room. The second is for a game, while both players stay: an operation then changes each player by a
function of its own state and of a little of the room (`Room.playerStep`), whoever the other player
is.

How fast a player may be (`Paced`) is a property of the first kind.
-/
import NetworkArena.Foundation.Plane
import NetworkArena.Server.Scoring
import NetworkArena.Server.Seats

namespace NetworkArena.Server

open NetworkArena.Foundation
open NetworkArena.Shared

variable {K ρ ω : Type} [Field K] [LinearOrder K]

/-! ## What holds of every player -/

/-- A property of states that everything a room does to one player keeps. -/
structure PlayerKept [HasSqrt K] (P : PlayerState K → Prop) : Prop where
  enters : ∀ side, P (Room.resetPlayerPosition { PlayerState.initial with side })
  starts : ∀ {state}, P state → P (Room.startPlayer state)
  input : ∀ {state} gameState input, P state → P (Room.applyInput gameState input state)
  moves : ∀ {state} {seconds}, 0 < seconds → P state → P (Room.tickPlayer seconds state)
  respawns : ∀ {state}, P state → P (respawn state)
  endsDash : ∀ {state}, P state → P (Room.endDash state)

/-- A property of the states of all players. -/
def Room.Every (P : PlayerState K → Prop) (r : Room K ρ) : Prop :=
  ∀ entry ∈ r.players, P entry.2.state

section Every

variable {P : PlayerState K → Prop} {r : Room K ρ}

omit [Field K] [LinearOrder K] in
theorem Room.Every.forEachPlayer (h : r.Every P) {f : PlayerState K → PlayerState K}
    (hf : ∀ state, P state → P (f state)) : (r.forEachPlayer f).Every P := by
  intro entry hentry
  obtain ⟨old, hold, rfl⟩ := List.mem_map.mp hentry
  exact hf _ (h old hold)

omit [Field K] [LinearOrder K] in
theorem Room.Every.updatePlayer (h : r.Every P) {f : PlayerState K → PlayerState K}
    (sessionId : SessionId) (hf : ∀ state, P state → P (f state)) :
    (r.updatePlayer sessionId f).Every P := by
  intro entry hentry
  obtain ⟨old, hold, rfl⟩ := List.mem_map.mp hentry
  split
  · exact hf _ (h old hold)
  · exact h old hold

theorem Room.Every.resolveCollisions (h : r.Every P)
    (hrespawn : ∀ state, P state → P (respawn state))
    (collisions : List (Room.PlayerCollision K)) :
    (collisions.foldl Room.resolveCollision r).Every P := by
  induction collisions generalizing r with
  | nil => exact h
  | cons collision collisions ih =>
      apply ih
      rw [Room.resolveCollision_eq]
      exact (h.updatePlayer _ hrespawn).updatePlayer _ hrespawn

omit [LinearOrder K] in
theorem Room.Every.leave (h : r.Every P) (sessionId : SessionId) :
    (r.leave sessionId).Every P := by
  unfold Room.leave
  split
  · dsimp only
    split
    · intro entry hentry
      exact h entry (List.mem_of_mem_filter hentry)
    · intro entry hentry
      exact h entry (List.mem_of_mem_filter hentry)
  · exact h

variable [HasSqrt K] (hP : PlayerKept P)

include hP

theorem Room.Every.enter [SessionObject ρ] (h : r.Every P) (session : Option ρ) :
    (r.enter session).2.Every P := by
  rcases r.enter_cases session with ⟨playerId, -, hrefused⟩ | ⟨entering, -, -, hentered⟩
  · rw [hrefused]
    exact h
  have hwith : (r.withPlayer entering).Every P := by
    intro entry hentry
    rcases List.mem_append.mp hentry with hold | hnew
    · exact h entry hold
    · rw [List.mem_singleton.mp hnew]
      exact hP.enters r.freeSide
  rw [hentered]
  dsimp only
  split
  · exact hwith.forEachPlayer (fun _ hstate => hP.starts hstate)
  · exact hwith

theorem Room.Every.applyPlayerInput (h : r.Every P) (sessionId : SessionId)
    (input : PlayerInputPayload) : (r.applyPlayerInput sessionId input).2.Every P := by
  unfold Room.applyPlayerInput
  split
  · exact h.updatePlayer sessionId fun _ hstate => hP.input r.gameState input hstate
  · exact h

variable [IsStrictOrderedRing K] [FloorRing K]

theorem Room.Every.tick (hconsistent : r.Consistent) (h : r.Every P) (deltaSeconds : K) :
    (r.tick deltaSeconds).Every P := by
  by_cases hidle : deltaSeconds ≤ 0 ∨ r.gameState ≠ .playing
  · rw [Room.tick_idle hidle]
    exact h
  simp only [not_or, not_le, ne_eq, not_not] at hidle
  obtain ⟨hdelta, hplaying⟩ := hidle
  have hsim : 0 < r.simulationDelta deltaSeconds :=
    lt_min hdelta (hconsistent.phase.gameTimer hplaying).1
  have hsimulate : (r.simulate deltaSeconds).Every P :=
    (h.forEachPlayer fun _ hstate => hP.moves hsim hstate).resolveCollisions
      (fun _ hstate => hP.respawns hstate) _
  rcases (r.tick_simulate hdelta hplaying).2 with hsame | hended
  · intro entry hentry
    exact hsimulate entry (hsame ▸ hentry)
  · intro entry hentry
    exact hsimulate.forEachPlayer (fun _ hstate => hP.endsDash hstate) entry (hended ▸ hentry)

/-- **Every operation** keeps what the small functions keep. -/
theorem Room.Every.step [SessionObject ρ] {t : Room K ρ × ω} (hconsistent : t.1.Consistent)
    (h : t.1.Every P) (sessions : Room.Sessions ρ ω) (event : RoomEvent K ρ ω) :
    (Room.step sessions t event).1.Every P := by
  cases event with
  | enter session => exact h.enter hP session
  | leave sessionId => exact h.leave sessionId
  | applyPlayerInput sessionId input => exact h.applyPlayerInput hP sessionId input
  | tick deltaSeconds => exact h.tick hP hconsistent deltaSeconds
  | broadcast type payload =>
      exact Room.broadcast_induction (P := fun r => r.Every P) (fun _ id h => h.leave id) sessions
        type payload t.2 h
  | sessions w => exact h

theorem Room.Every.run [SessionObject ρ] (id : RoomId) (sessions : Room.Sessions ρ ω) (w : ω)
    (events : List (RoomEvent K ρ ω)) :
    (Room.run sessions (Room.create id, w) events).1.Every P := by
  induction events using List.reverseRecOn with
  | nil => nofun
  | append_singleton events event ih =>
      rw [Room.run_concat]
      exact ih.step hP ((Room.consistent_create id).run sessions events) sessions event

end Every

/-! ## How fast a player may be -/

/-- The way a player moves: no direction is longer than one, a dash is not longer than it may be,
and the cooldown was armed no later than the dash. -/
structure PlayerState.Paced (state : PlayerState K) : Prop where
  direction : Within 1 (state.directionX, state.directionY)
  dashDirection : Within 1 (state.dashDirectionX, state.dashDirectionY)
  dashing : 0 ≤ state.dashRemainingSeconds ∧ state.dashRemainingSeconds ≤ 16 / 100
  cooling : 0 ≤ state.dashCooldownRemainingSeconds ∧ state.dashCooldownRemainingSeconds ≤ 1
  coupled : 0 < state.dashRemainingSeconds →
    84 / 100 ≤ state.dashCooldownRemainingSeconds - state.dashRemainingSeconds

section Paced

variable [IsStrictOrderedRing K] {state state' : PlayerState K}

/-- What a player is asked to move is no longer than one. -/
theorem normalizePlayerInput_within [HasSqrt K] [LawfulSqrt K] (input : PlayerInputPayload) :
    Within 1 ((normalizePlayerInput input : NormalizedPlayerInput K).moveX,
      (normalizePlayerInput input : NormalizedPlayerInput K).moveY) := by
  unfold normalizePlayerInput
  dsimp only
  generalize (input.moveX.toInt : K) / (maxPlayerInputAxisRawValue.toInt : K) = x
  generalize (input.moveY.toInt : K) / (maxPlayerInputAxisRawValue.toInt : K) = y
  have hplane : x * x + y * y + 0 * 0 = x * x + y * y := by ring
  rw [hplane]
  split
  · next hlong =>
      have hpositive : 0 < x * x + y * y := lt_trans one_pos hlong
      have hroot := LawfulSqrt.sqrt_mul_self _ hpositive.le
      have hne : HasSqrt.sqrt (x * x + y * y) ≠ 0 := by
        intro hzero
        rw [hzero, mul_zero] at hroot
        exact hpositive.ne hroot
      refine ⟨zero_le_one, le_of_eq ?_⟩
      calc x * (1 / HasSqrt.sqrt (x * x + y * y)) * (x * (1 / HasSqrt.sqrt (x * x + y * y))) +
            y * (1 / HasSqrt.sqrt (x * x + y * y)) * (y * (1 / HasSqrt.sqrt (x * x + y * y)))
          = (x * x + y * y) / (HasSqrt.sqrt (x * x + y * y) * HasSqrt.sqrt (x * x + y * y)) := by
            field_simp
        _ = 1 * 1 := by rw [hroot, div_self hpositive.ne', one_mul]
  · next hshort =>
      refine ⟨zero_le_one, ?_⟩
      rw [one_mul]
      exact not_lt.mp hshort

omit [IsStrictOrderedRing K] in
/-- The pace of a player is that of its directions and its dash. -/
theorem PlayerState.Paced.of_eq (h : state.Paced) (hx : state'.directionX = state.directionX)
    (hy : state'.directionY = state.directionY) (hdx : state'.dashDirectionX = state.dashDirectionX)
    (hdy : state'.dashDirectionY = state.dashDirectionY)
    (hdash : state'.dashRemainingSeconds = state.dashRemainingSeconds)
    (hcooldown : state'.dashCooldownRemainingSeconds = state.dashCooldownRemainingSeconds) :
    state'.Paced := by
  obtain ⟨hdirection, hdashDirection, hdashing, hcooling, hcoupled⟩ := h
  rw [← hx, ← hy] at hdirection
  rw [← hdx, ← hdy] at hdashDirection
  rw [← hdash] at hdashing hcoupled
  rw [← hcooldown] at hcooling hcoupled
  exact ⟨hdirection, hdashDirection, hdashing, hcooling, hcoupled⟩

omit [IsStrictOrderedRing K] in
theorem resetPlayerPosition_paced (h : state.Paced) :
    (Room.resetPlayerPosition state).Paced := by
  unfold Room.resetPlayerPosition
  split
  · exact h.of_eq rfl rfl rfl rfl rfl rfl
  · split
    · exact h.of_eq rfl rfl rfl rfl rfl rfl
    · exact h

/-- A player at rest. -/
theorem paced_idle (hx : state.directionX = 0) (hy : state.directionY = 0)
    (hdx : state.dashDirectionX = 0) (hdy : state.dashDirectionY = 0)
    (hdash : state.dashRemainingSeconds = 0) (hcooldown : state.dashCooldownRemainingSeconds = 0) :
    state.Paced where
  direction := by
    rw [hx, hy]
    exact within_zero zero_le_one
  dashDirection := by
    rw [hdx, hdy]
    exact within_zero zero_le_one
  dashing := by
    rw [hdash]
    norm_num
  cooling := by
    rw [hcooldown]
    norm_num
  coupled hpositive := absurd hdash hpositive.ne'

theorem endDash_paced (h : state.Paced) : (Room.endDash state).Paced where
  direction := h.direction
  dashDirection := within_zero zero_le_one
  dashing := ⟨le_refl 0, by change (0 : K) ≤ _; norm_num⟩
  cooling := h.cooling
  coupled hpositive := absurd hpositive (lt_irrefl 0)

omit [IsStrictOrderedRing K] in
/-- What a tick does to the clocks of a player. -/
theorem tickPlayer_clocks (seconds : K) (state : PlayerState K) :
    (Room.tickPlayer seconds state).dashRemainingSeconds =
        (if state.dashRemainingSeconds > 0 then
          max 0 (state.dashRemainingSeconds - min seconds state.dashRemainingSeconds)
        else state.dashRemainingSeconds) ∧
      (Room.tickPlayer seconds state).dashCooldownRemainingSeconds =
        max 0 (state.dashCooldownRemainingSeconds - seconds) ∧
      (Room.tickPlayer seconds state).dashDirectionX = state.dashDirectionX ∧
      (Room.tickPlayer seconds state).dashDirectionY = state.dashDirectionY := by
  unfold Room.tickPlayer Room.movePlayer
  by_cases hdash : state.dashRemainingSeconds > 0
  · simp only [if_pos hdash]
    split <;> exact ⟨rfl, rfl, rfl, rfl⟩
  · simp only [if_neg hdash]
    split <;> exact ⟨rfl, rfl, rfl, rfl⟩

/-- **A tick takes as much off the dash as off the cooldown**, or ends the dash. -/
theorem tickPlayer_paced {seconds : K} (hseconds : 0 < seconds) (h : state.Paced) :
    (Room.tickPlayer seconds state).Paced := by
  obtain ⟨hdash, hcooldown, hdx, hdy⟩ := tickPlayer_clocks seconds state
  obtain ⟨-, hx, hy, -⟩ := sameInput_tickPlayer seconds state
  obtain ⟨hdirection, hdashDirection, ⟨hdash₀, hdash₁⟩, ⟨hcooldown₀, hcooldown₁⟩, hcoupled⟩ := h
  refine ⟨?_, ?_, ?_, ?_, ?_⟩
  · rw [hx, hy]
    exact hdirection
  · rw [hdx, hdy]
    exact hdashDirection
  · rw [hdash]
    split
    · refine ⟨le_max_left _ _, max_le (by norm_num) ?_⟩
      have hleft : 0 ≤ min seconds state.dashRemainingSeconds := le_min hseconds.le hdash₀
      linarith
    · exact ⟨hdash₀, hdash₁⟩
  · rw [hcooldown]
    exact ⟨le_max_left _ _, max_le zero_le_one (by linarith)⟩
  · rw [hdash, hcooldown]
    split
    · next hpositive =>
        intro hstill
        -- the dash outlasts the tick, and so does the cooldown
        have hlong : seconds < state.dashRemainingSeconds := by
          by_contra hshort
          rw [min_eq_right (not_lt.mp hshort), sub_self, max_self] at hstill
          exact lt_irrefl _ hstill
        have hbefore := hcoupled hpositive
        rw [min_eq_left hlong.le, max_eq_right (by linarith), max_eq_right (by linarith)]
        linarith
    · intro hstill
      exact absurd hstill ‹_›

theorem applyInput_paced [HasSqrt K] [LawfulSqrt K] (gameState : GamePlayState)
    (input : PlayerInputPayload) (h : state.Paced) :
    (Room.applyInput gameState input state).Paced := by
  have hmove := normalizePlayerInput_within (K := K) input
  have hturned : ∀ dashInputActive, ({ state with
      directionX := (normalizePlayerInput input : NormalizedPlayerInput K).moveX
      directionY := (normalizePlayerInput input : NormalizedPlayerInput K).moveY
      dashInputActive } : PlayerState K).Paced := fun _ =>
    ⟨hmove, h.dashDirection, h.dashing, h.cooling, h.coupled⟩
  unfold Room.applyInput
  dsimp only
  split
  · exact hturned _
  split
  · exact hturned _
  split
  · exact hturned _
  split
  · exact hturned _
  · refine ⟨hmove, hmove, ?_, ?_, fun _ => ?_⟩
    · norm_num [playerDashDurationSeconds]
    · norm_num [playerDashCooldownSeconds]
    · norm_num [playerDashCooldownSeconds, playerDashDurationSeconds]

/-- **Every player keeps its pace**, whatever happens to it. -/
theorem paced_kept [HasSqrt K] [LawfulSqrt K] :
    PlayerKept (PlayerState.Paced : PlayerState K → Prop) where
  enters _ := resetPlayerPosition_paced (paced_idle rfl rfl rfl rfl rfl rfl)
  starts _ := paced_idle rfl rfl rfl rfl rfl rfl
  input gameState input h := applyInput_paced gameState input h
  moves hseconds h := tickPlayer_paced hseconds h
  respawns h := resetPlayerPosition_paced (endDash_paced h)
  endsDash h := endDash_paced h

end Paced

/-! ## A player of a game -/

section Game

variable [HasSqrt K]

/-- What a tick of a running game does to a player. -/
def Room.tickState (r : Room K ρ) (deltaSeconds : K) (state : PlayerState K) : PlayerState K :=
  let state := Room.tickPlayer (r.simulationDelta deltaSeconds) state
  let state := if (r.tickCollision deltaSeconds).isSome then respawn state else state
  if max 0 (r.gameRemainingSeconds - r.simulationDelta deltaSeconds) ≤ 0 then Room.endDash state
  else state

omit [Field K] [LinearOrder K] [HasSqrt K] in
theorem SameInput.trans {state state' state'' : PlayerState K} (h : SameInput state state')
    (h' : SameInput state' state'') : SameInput state state'' :=
  ⟨h'.side.trans h.side, h'.directionX.trans h.directionX, h'.directionY.trans h.directionY,
    h'.dashInputActive.trans h.dashInputActive⟩

/-- A tick leaves the input of a player alone. -/
theorem sameInput_tickState (r : Room K ρ) (deltaSeconds : K) (state : PlayerState K) :
    SameInput state (r.tickState deltaSeconds state) := by
  unfold Room.tickState
  have hmoved := sameInput_tickPlayer (r.simulationDelta deltaSeconds) state
  have hcollided : SameInput state (if (r.tickCollision deltaSeconds).isSome then
      respawn (Room.tickPlayer (r.simulationDelta deltaSeconds) state)
      else Room.tickPlayer (r.simulationDelta deltaSeconds) state) := by
    split
    · exact hmoved.trans (sameInput_respawn _)
    · exact hmoved
  dsimp only
  split
  · exact hcollided.trans (sameInput_endDash _)
  · exact hcollided

/-- What an operation does to the player with a given session id, while both players stay. -/
def Room.playerStep (r : Room K ρ) (event : RoomEvent K ρ ω) (sessionId : SessionId)
    (state : PlayerState K) : PlayerState K :=
  match event with
  | .tick deltaSeconds =>
    if 0 < deltaSeconds ∧ r.gameState = .playing then r.tickState deltaSeconds state else state
  | .applyPlayerInput id input =>
    if id = sessionId then Room.applyInput r.gameState input state else state
  | _ => state

/-- The players of a room, each changed by itself. -/
def changePlayers (f : SessionId → PlayerState K → PlayerState K)
    (players : List (SessionId × Player K ρ)) : List (SessionId × Player K ρ) :=
  players.map fun entry => (entry.1, { entry.2 with state := f entry.1 entry.2.state })

omit [Field K] [LinearOrder K] [HasSqrt K] in
theorem changePlayers_id (players : List (SessionId × Player K ρ)) :
    changePlayers (fun _ state => state) players = players := List.map_id players

omit [Field K] [LinearOrder K] [HasSqrt K] in
/-- Changing one player changes no other. -/
theorem updatePlayer_players (r : Room K ρ) (id : SessionId)
    (f : PlayerState K → PlayerState K) :
    (r.updatePlayer id f).players =
      changePlayers (fun sessionId state => if id = sessionId then f state else state)
        r.players := by
  apply List.map_congr_left
  intro entry _
  dsimp only
  by_cases hid : entry.1 = id
  · rw [if_pos hid, if_pos hid.symm]
  · rw [if_neg hid, if_neg (fun heq : id = entry.1 => hid heq.symm)]

/-- An input changes its player, if it is there. -/
theorem Room.applyPlayerInput_eq (r : Room K ρ) (sessionId : SessionId)
    (input : PlayerInputPayload) : (r.applyPlayerInput sessionId input).2 =
      r.updatePlayer sessionId (Room.applyInput r.gameState input) := by
  unfold Room.applyPlayerInput
  split
  · rfl
  · next hunknown =>
      have hsame : ∀ entry ∈ r.players, (if entry.1 = sessionId then
          (entry.1, { entry.2 with state := Room.applyInput r.gameState input entry.2.state })
          else entry) = entry := fun entry hentry =>
        if_neg fun hid => hunknown (List.any_eq_true.mpr ⟨entry, hentry, decide_eq_true hid⟩)
      unfold Room.updatePlayer
      rw [List.map_congr_left hsame, List.map_id']

variable [IsStrictOrderedRing K] [FloorRing K] {r : Room K ρ} {deltaSeconds : K}

/-- **A tick of a running game changes each player by itself.** -/
theorem Room.Consistent.players_tick (h : r.Consistent) (hdelta : 0 < deltaSeconds)
    (hplaying : r.gameState = .playing) :
    (r.tick deltaSeconds).players =
      changePlayers (fun _ => r.tickState deltaSeconds) r.players := by
  obtain ⟨first, second, hplayers, hkeys⟩ :=
    h.roster.pair (h.two_players (by rw [hplaying]; decide))
  have hsimulate : (r.simulate deltaSeconds).players = changePlayers (fun _ state =>
      if (r.tickCollision deltaSeconds).isSome then
        respawn (Room.tickPlayer (r.simulationDelta deltaSeconds) state)
      else Room.tickPlayer (r.simulationDelta deltaSeconds) state) r.players := by
    rw [Room.simulate_two hplayers hkeys]
    cases r.tickCollision deltaSeconds with
    | none => rfl
    | some collisionTime =>
        show (r.players.map _).map _ = _
        rw [List.map_map]
        rfl
  rw [Room.tick_playing hdelta hplaying]
  unfold Room.tickState
  by_cases hover : max 0 (r.gameRemainingSeconds - r.simulationDelta deltaSeconds) ≤ 0
  · simp only [if_pos hover]
    show (r.simulate deltaSeconds).players.map _ = _
    rw [hsimulate]
    unfold changePlayers
    rw [List.map_map]
    rfl
  · simp only [if_neg hover]
    exact hsimulate

/-- **While both players stay**, an operation changes each of them by itself. -/
theorem Room.Consistent.players_step [SessionObject ρ] {t : Room K ρ × ω} (h : t.1.Consistent)
    (hboth : t.1.players.length = 2) (sessions : Room.Sessions ρ ω) (event : RoomEvent K ρ ω)
    (hstay : (Room.step sessions t event).1.players.length = 2) :
    (Room.step sessions t event).1.players =
      changePlayers (t.1.playerStep event) t.1.players := by
  have hidle : ∀ r' : Room K ρ, r' = t.1 →
      (∀ sessionId state, t.1.playerStep event sessionId state = state) →
      r'.players = changePlayers (t.1.playerStep event) t.1.players := by
    rintro r' rfl hnothing
    rw [show t.1.playerStep event = fun _ state => state from
      funext fun sessionId => funext fun state => hnothing sessionId state, changePlayers_id]
  cases event with
  | tick deltaSeconds =>
      by_cases hactive : 0 < deltaSeconds ∧ t.1.gameState = .playing
      · have hstep : t.1.playerStep (.tick deltaSeconds : RoomEvent K ρ ω) =
            fun _ => t.1.tickState deltaSeconds :=
          funext fun sessionId => funext fun state => if_pos hactive
        rw [hstep]
        exact h.players_tick hactive.1 hactive.2
      · apply hidle
        · apply Room.tick_idle
          rw [← not_lt]
          exact not_and_or.mp hactive
        · intro sessionId state
          exact if_neg hactive
  | applyPlayerInput id input =>
      show (t.1.applyPlayerInput id input).2.players = _
      rw [t.1.applyPlayerInput_eq, updatePlayer_players]
      rfl
  | enter session | leave sessionId | broadcast type payload | sessions w =>
      rcases h.step_staying hboth sessions _ hstay with
        ⟨deltaSeconds, htick, -⟩ | ⟨-, ⟨sessionId, input, hinput, -⟩ | hsame⟩
      · cases htick
      · cases hinput
      · exact hidle _ hsame fun _ _ => rfl

end Game

end NetworkArena.Server
