/-
# NetworkArena.Server.Scoring -- the ledger of a game

A collision is scored before the timers of its tick move, by the side that will attack at the
instant of the collision. As a tick is shorter than an interval, the sides change at most once in
it, and the forecast agrees with the clock: the side is the one of the interval in which the
collision falls. Over a game the scores add up to the ticks that had a collision.
-/
import NetworkArena.Server.Collision
import NetworkArena.Server.GameClock

namespace NetworkArena.Server

open NetworkArena.Shared

variable {K ρ ω : Type} [Field K] [LinearOrder K]

/-! ## Respawned players -/

/-- A player at the spawn of its side, with no dash in progress. -/
structure PlayerState.AtSpawn (state : PlayerState K) : Prop where
  flame : state.side = .flame → state.positionX = -(15 / 10)
  frost : state.side = .frost → state.positionX = 15 / 10
  positionY : state.positionY = 0
  positionZ : state.positionZ = 0
  noDash : state.dashRemainingSeconds = 0 ∧ state.dashDirectionX = 0 ∧ state.dashDirectionY = 0

omit [LinearOrder K] in
/-- The spawn of a side. -/
theorem resetPlayerPosition_spawn {state : PlayerState K}
    (hside : state.side = .flame ∨ state.side = .frost) :
    (state.side = .flame → (Room.resetPlayerPosition state).positionX = -(15 / 10)) ∧
      (state.side = .frost → (Room.resetPlayerPosition state).positionX = 15 / 10) ∧
      (Room.resetPlayerPosition state).positionY = 0 ∧
      (Room.resetPlayerPosition state).positionZ = 0 := by
  unfold Room.resetPlayerPosition
  rcases hside with hside | hside
  · rw [if_pos hside]
    refine ⟨fun _ => rfl, fun hfrost => ?_, rfl, rfl⟩
    exact absurd (hside.symm.trans hfrost) (by decide)
  · rw [if_neg (by rw [hside]; decide), if_pos hside]
    refine ⟨fun hflame => ?_, fun _ => rfl, rfl, rfl⟩
    exact absurd (hside.symm.trans hflame) (by decide)

omit [LinearOrder K] in
theorem resetPlayerPosition_dash (state : PlayerState K) :
    (Room.resetPlayerPosition state).dashRemainingSeconds = state.dashRemainingSeconds ∧
      (Room.resetPlayerPosition state).dashDirectionX = state.dashDirectionX ∧
      (Room.resetPlayerPosition state).dashDirectionY = state.dashDirectionY := by
  unfold Room.resetPlayerPosition
  split
  · exact ⟨rfl, rfl, rfl⟩
  · split <;> exact ⟨rfl, rfl, rfl⟩

omit [LinearOrder K] in
theorem respawn_atSpawn {state : PlayerState K}
    (hside : state.side = .flame ∨ state.side = .frost) : (respawn state).AtSpawn := by
  have hside' : (Room.endDash state).side = .flame ∨ (Room.endDash state).side = .frost := hside
  obtain ⟨hflame, hfrost, hy, hz⟩ := resetPlayerPosition_spawn hside'
  refine ⟨fun h => hflame ?_, fun h => hfrost ?_, hy, hz, resetPlayerPosition_dash _⟩
  · exact (respawn_side state).symm.trans h
  · exact (respawn_side state).symm.trans h

omit [LinearOrder K] in
theorem startPlayer_atSpawn {state : PlayerState K}
    (hside : state.side = .flame ∨ state.side = .frost) : (Room.startPlayer state).AtSpawn := by
  obtain ⟨hflame, hfrost, hy, hz⟩ := resetPlayerPosition_spawn hside
  refine ⟨fun h => hflame ?_, fun h => hfrost ?_, hy, hz, rfl, rfl, rfl⟩
  · exact (startPlayer_side state).symm.trans h
  · exact (startPlayer_side state).symm.trans h

omit [LinearOrder K] in
theorem PlayerState.AtSpawn.endDash {state : PlayerState K} (h : state.AtSpawn) :
    (Room.endDash state).AtSpawn :=
  ⟨h.flame, h.frost, h.positionY, h.positionZ, rfl, rfl, rfl⟩

/-! ## The scores of one tick -/

section Ticks

variable {r : Room K ρ} {deltaSeconds : K}

/-- The two players of a full room. -/
theorem Roster.pair (h : Roster r.players) (htwo : r.players.length = 2) :
    ∃ first second, r.players = [first, second] ∧ first.1 ≠ second.1 := by
  obtain ⟨first, second, hplayers⟩ := List.length_eq_two.mp htwo
  have hkeys := h.keys
  rw [hplayers] at hkeys
  exact ⟨first, second, hplayers, by simpa using hkeys⟩

variable [IsStrictOrderedRing K] [HasSqrt K]

/-- A collision lies in the simulated time of its tick. -/
theorem Room.Consistent.tickCollision_mem (h : r.Consistent) (hplaying : r.gameState = .playing)
    (hdelta : 0 < deltaSeconds) {collisionTime : K}
    (hcollision : r.tickCollision deltaSeconds = some collisionTime) :
    0 ≤ collisionTime ∧ collisionTime ≤ r.simulationDelta deltaSeconds := by
  have hsim : 0 < r.simulationDelta deltaSeconds := lt_min hdelta (h.phase.gameTimer hplaying).1
  unfold Room.tickCollision at hcollision
  split at hcollision
  · exact findPlayerCollisionTimeDuringTick_mem hsim hcollision
  · cases hcollision

variable [FloorRing K]

/-- The timers leave scores and players alone, and the end of a game ends the dashes. -/
theorem Room.tick_simulate (hdelta : 0 < deltaSeconds) (hplaying : r.gameState = .playing) :
    (r.tick deltaSeconds).sideScores = (r.simulate deltaSeconds).sideScores ∧
      ((r.tick deltaSeconds).players = (r.simulate deltaSeconds).players ∨
        (r.tick deltaSeconds).players =
          ((r.simulate deltaSeconds).forEachPlayer Room.endDash).players) := by
  rw [Room.tick_playing hdelta hplaying]
  split
  · exact ⟨rfl, Or.inr rfl⟩
  · exact ⟨rfl, Or.inl rfl⟩

/-- **A tick without a collision** changes no score. -/
theorem Room.Consistent.tick_none (h : r.Consistent) (hplaying : r.gameState = .playing)
    (hdelta : 0 < deltaSeconds) (hcollision : r.tickCollision deltaSeconds = none) :
    (r.tick deltaSeconds).sideScores = r.sideScores := by
  obtain ⟨first, second, hplayers, hkeys⟩ :=
    h.roster.pair (h.two_players (by rw [hplaying]; decide))
  rw [(Room.tick_simulate hdelta hplaying).1, Room.simulate_two hplayers hkeys, hcollision]
  rfl

/-- **A tick with a collision** scores it, and takes both players to their spawns. -/
theorem Room.Consistent.tick_some (h : r.Consistent) (hplaying : r.gameState = .playing)
    (hdelta : 0 < deltaSeconds) {collisionTime : K}
    (hcollision : r.tickCollision deltaSeconds = some collisionTime) :
    (r.tick deltaSeconds).sideScores = r.scoresAfter collisionTime ∧
      ∀ entry ∈ (r.tick deltaSeconds).players, entry.2.state.AtSpawn := by
  obtain ⟨first, second, hplayers, hkeys⟩ :=
    h.roster.pair (h.two_players (by rw [hplaying]; decide))
  have hsimulate := Room.simulate_two hplayers hkeys deltaSeconds
  rw [hcollision] at hsimulate
  obtain ⟨hscores, hplayersAfter⟩ := r.tick_simulate hdelta hplaying
  have hspawn : ∀ entry ∈ (r.simulate deltaSeconds).players, entry.2.state.AtSpawn := by
    rw [hsimulate]
    intro entry hentry
    obtain ⟨moved, hmoved, rfl⟩ := List.mem_map.mp hentry
    obtain ⟨old, hold, rfl⟩ := List.mem_map.mp hmoved
    apply respawn_atSpawn
    rw [tickPlayer_side]
    exact h.roster.sides old hold
  constructor
  · rw [hscores, hsimulate]
  · intro entry hentry
    rcases hplayersAfter with hsame | hended
    · rw [hsame] at hentry
      exact hspawn entry hentry
    · rw [hended] at hentry
      obtain ⟨old, hold, rfl⟩ := List.mem_map.mp hentry
      exact (hspawn old hold).endDash

end Ticks

/-! ## The side that attacks at the instant of a collision -/

/-- Scores after one more point. -/
structure Credits (before after : SideScores) (side : PlayerSide) : Prop where
  flame : after.flame = before.flame + if side = .flame then 1 else 0
  frost : after.frost = before.frost + if side = .flame then 0 else 1

theorem credits_flame (scores : SideScores) :
    Credits scores (scores.increment flameSideIndex) .flame :=
  ⟨rfl, rfl⟩

theorem credits_frost (scores : SideScores) :
    Credits scores (scores.increment frostSideIndex) .frost :=
  ⟨rfl, rfl⟩

section Forecast

variable [IsStrictOrderedRing K] [FloorRing K] {r : Room K ρ} {T collisionTime : K}

omit [Field K] [IsStrictOrderedRing K] [FloorRing K] in
/-- The side attacking now, and the one that attacks after a switch. -/
theorem Room.scoresAfter_credits {n : ℤ} (hside : r.attackingSide = sideInInterval n)
    (collisionTime : K) :
    (collisionTime < r.attackRoleSwitchRemainingSeconds →
      Credits r.sideScores (r.scoresAfter collisionTime) (sideInInterval n)) ∧
      (¬ collisionTime < r.attackRoleSwitchRemainingSeconds →
        Credits r.sideScores (r.scoresAfter collisionTime) (sideInInterval (n + 1))) := by
  unfold Room.scoresAfter Room.getAttackingSideIndexAtTickTime
  rw [← switchAttackingSide_sideInInterval, hside]
  unfold sideInInterval
  by_cases heven : Even n
  · rw [if_pos heven]
    constructor
    · intro hbefore
      rw [if_pos hbefore]
      exact credits_flame r.sideScores
    · intro hafter
      rw [if_neg hafter]
      exact credits_frost r.sideScores
  · rw [if_neg heven]
    constructor
    · intro hbefore
      rw [if_pos hbefore]
      exact credits_frost r.sideScores
    · intro hafter
      rw [if_neg hafter]
      exact credits_flame r.sideScores

/-- **The forecast agrees with the clock**: a collision is scored by the side of the interval it
falls in. -/
theorem ClockAt.scoresAfter (h : ClockAt r T) (hrunning : T < 30) (hstart : 0 ≤ collisionTime)
    (hshort : collisionTime ≤ 1 / 4) :
    Credits r.sideScores (r.scoresAfter collisionTime)
      (sideInInterval ⌊(T + collisionTime) / 3⌋) := by
  obtain ⟨-, -, hside, hswitch⟩ := h.running hrunning
  obtain ⟨hnow, hnext⟩ := r.scoresAfter_credits hside collisionTime
  have hlow := Int.floor_le (T / 3)
  by_cases hbefore : collisionTime < r.attackRoleSwitchRemainingSeconds
  · have hfloor : ⌊(T + collisionTime) / 3⌋ = ⌊T / 3⌋ := by
      apply floor_third_eq
      · linarith
      · rw [hswitch] at hbefore
        linarith
    rw [hfloor]
    exact hnow hbefore
  · -- the switch comes first, and no second one before the collision
    have hhigh := Int.lt_floor_add_one (T / 3)
    have hfloor : ⌊(T + collisionTime) / 3⌋ = ⌊T / 3⌋ + 1 := by
      rw [hswitch, not_lt] at hbefore
      apply floor_third_eq
      · push_cast
        linarith
      · push_cast
        linarith
    rw [hfloor]
    exact hnext hbefore

end Forecast

/-! ## Whole games -/

/-- What does not move once a game is over. -/
structure SameLedger (r r' : Room K ρ) : Prop where
  scores : r'.sideScores = r.sideScores
  winner : r'.winningSide = r.winningSide
  positions :
    r'.players.map (fun entry => (entry.1, entry.2.state.positionX, entry.2.state.positionY,
      entry.2.state.positionZ)) =
    r.players.map fun entry => (entry.1, entry.2.state.positionX, entry.2.state.positionY,
      entry.2.state.positionZ)

omit [Field K] [LinearOrder K] in
theorem SameLedger.trans {r r' r'' : Room K ρ} (h : SameLedger r r') (h' : SameLedger r' r'') :
    SameLedger r r'' :=
  ⟨h'.scores.trans h.scores, h'.winner.trans h.winner, h'.positions.trans h.positions⟩

/-- Every tick takes some time, and no more than `HandleTick` lets it. -/
def CappedTicks (events : List (RoomEvent K ρ ω)) : Prop :=
  ∀ deltaSeconds, RoomEvent.tick deltaSeconds ∈ events → 0 < deltaSeconds ∧ deltaSeconds ≤ 1 / 4

/-- Whether an operation is a tick of a running game with a collision in it. -/
def Room.collides [HasSqrt K] (r : Room K ρ) : RoomEvent K ρ ω → Bool
  | .tick deltaSeconds => r.gameState == .playing && (r.tickCollision deltaSeconds).isSome
  | _ => false

section Runs

variable [IsStrictOrderedRing K] [FloorRing K] [HasSqrt K] [SessionObject ρ]
  {sessions : Room.Sessions ρ ω} {t : Room K ρ × ω}

/-- The number of ticks with a collision, in some operations. -/
def collisionTicks (sessions : Room.Sessions ρ ω) :
    Room K ρ × ω → List (RoomEvent K ρ ω) → ℕ
  | _, [] => 0
  | t, event :: events =>
    (if t.1.collides event = true then 1 else 0) +
      collisionTicks sessions (Room.step sessions t event) events

theorem collisionTicks_concat (t : Room K ρ × ω) (events : List (RoomEvent K ρ ω))
    (event : RoomEvent K ρ ω) :
    collisionTicks sessions t (events ++ [event]) = collisionTicks sessions t events +
      if (Room.run sessions t events).1.collides event = true then 1 else 0 := by
  induction events generalizing t with
  | nil => exact (Nat.zero_add _).symm
  | cons first events ih =>
      have hrun : Room.run sessions t (first :: events) =
          Room.run sessions (Room.step sessions t first) events := rfl
      rw [List.cons_append, collisionTicks, ih, collisionTicks, hrun]
      omega

omit [IsStrictOrderedRing K] [FloorRing K] [HasSqrt K] [SessionObject ρ] in
theorem CappedTicks.positive {events : List (RoomEvent K ρ ω)} (h : CappedTicks events) :
    PositiveTicks events :=
  fun deltaSeconds hmem => (h deltaSeconds hmem).1

omit [IsStrictOrderedRing K] [FloorRing K] [SessionObject ρ] in
/-- An input moves nobody. -/
theorem updatePlayer_sameLedger (r : Room K ρ) (sessionId : SessionId)
    (input : PlayerInputPayload) :
    SameLedger r (r.updatePlayer sessionId (Room.applyInput r.gameState input)) where
  scores := rfl
  winner := rfl
  positions := by
    show (r.players.map _).map _ = _
    rw [List.map_map]
    apply List.map_congr_left
    intro entry _
    rw [Function.comp_apply]
    split
    · unfold Room.applyInput
      dsimp only
      repeat' split
      all_goals rfl
    · rfl

/-- **A finished game is frozen** under every operation by which nobody leaves. -/
theorem Room.Consistent.step_finished (h : t.1.Consistent) (hfinished : t.1.gameState = .finished)
    (event : RoomEvent K ρ ω) (hstay : (Room.step sessions t event).1.players.length = 2) :
    (Room.step sessions t event).1.gameState = .finished ∧
      SameLedger t.1 (Room.step sessions t event).1 := by
  have hboth := h.two_players (by rw [hfinished]; decide)
  rcases h.step_staying hboth sessions event hstay with
    ⟨deltaSeconds, -, htick⟩ | ⟨-, ⟨sessionId, input, -, hinput⟩ | hsame⟩
  · rw [htick, Room.tick_idle (Or.inr (by rw [hfinished]; decide))]
    exact ⟨hfinished, rfl, rfl, rfl⟩
  · rw [hinput]
    exact ⟨hfinished, updatePlayer_sameLedger t.1 sessionId input⟩
  · rw [hsame]
    exact ⟨hfinished, rfl, rfl, rfl⟩

/-- **What one operation does to the scores** while both players stay. -/
theorem Room.Consistent.step_scores (h : t.1.Consistent) (hboth : t.1.players.length = 2)
    (event : RoomEvent K ρ ω) (hstay : (Room.step sessions t event).1.players.length = 2)
    (hpositive : ∀ deltaSeconds, event = .tick deltaSeconds → 0 < deltaSeconds) :
    (t.1.collides event = false →
      (Room.step sessions t event).1.sideScores = t.1.sideScores) ∧
    (t.1.collides event = true → ∃ deltaSeconds collisionTime, event = .tick deltaSeconds ∧
      t.1.gameState = .playing ∧ t.1.tickCollision deltaSeconds = some collisionTime ∧
      (Room.step sessions t event).1.sideScores = t.1.scoresAfter collisionTime) := by
  rcases h.step_staying hboth sessions event hstay with
    ⟨deltaSeconds, rfl, htick⟩ | ⟨hnothing, hinput⟩
  · have hdelta := hpositive deltaSeconds rfl
    have hcollides : t.1.collides (RoomEvent.tick deltaSeconds : RoomEvent K ρ ω) =
        (t.1.gameState == .playing && (t.1.tickCollision deltaSeconds).isSome) := rfl
    rw [htick, hcollides]
    by_cases hplaying : t.1.gameState = .playing
    · rw [hplaying, beq_self_eq_true, Bool.true_and]
      cases hcollision : t.1.tickCollision deltaSeconds with
      | none => exact ⟨fun _ => h.tick_none hplaying hdelta hcollision, nofun⟩
      | some collisionTime =>
          refine ⟨nofun, fun _ => ⟨deltaSeconds, collisionTime, rfl, rfl, hcollision, ?_⟩⟩
          exact (h.tick_some hplaying hdelta hcollision).1
    · rw [beq_eq_false_iff_ne.mpr hplaying, Bool.false_and, Room.tick_idle (Or.inr hplaying)]
      exact ⟨fun _ => rfl, nofun⟩
  · have hscores : (Room.step sessions t event).1.sideScores = t.1.sideScores := by
      rcases hinput with ⟨sessionId, input, -, hinput⟩ | hsame
      · rw [hinput]
        rfl
      · rw [hsame]
    refine ⟨fun _ => hscores, ?_⟩
    intro hcollides
    cases event with
    | tick deltaSeconds =>
        have hzero : deltaSeconds = 0 := hnothing
        exact absurd (hpositive deltaSeconds rfl) (by rw [hzero]; exact lt_irrefl 0)
    | _ => exact absurd hcollides Bool.false_ne_true

/-- The scores of a room. -/
def Room.totalScore (r : Room K ρ) : ℕ := r.sideScores.flame + r.sideScores.frost

/-- A collision is one more point for somebody. -/
theorem Credits.total {before after : SideScores} {side : PlayerSide}
    (h : Credits before after side) :
    after.flame + after.frost = before.flame + before.frost + 1 := by
  rw [h.flame, h.frost]
  split <;> omega

/-- **The scores add up to the ticks with a collision.** -/
theorem GameStarts.totalScore (hstart : GameStarts sessions t) {events : List (RoomEvent K ρ ω)}
    (hstay : BothStay sessions t events) (hticks : CappedTicks events) :
    (Room.run sessions t events).1.totalScore = collisionTicks sessions t events := by
  induction events using List.reverseRecOn with
  | nil =>
      obtain ⟨r, entering, -, hroom⟩ := hstart.room
      rw [show (Room.run sessions t []).1 = (r.withPlayer entering).startGame from hroom]
      rfl
  | append_singleton events event ih =>
      have hbefore := ih hstay.init fun deltaSeconds hmem =>
        hticks deltaSeconds (List.mem_append_left _ hmem)
      have hconsistent : (Room.run sessions t events).1.Consistent :=
        hstart.consistent.run sessions events
      have hclock := hstart.clockAt hstay.init hticks.positive.init
      have hboth := hstay events (List.prefix_append _ _)
      have hboth' := hstay (events ++ [event]) (List.prefix_refl _)
      rw [Room.run_concat] at hboth' ⊢
      obtain ⟨hquiet, hscored⟩ := hconsistent.step_scores hboth event hboth' fun deltaSeconds heq =>
        (hticks deltaSeconds (by simp [heq])).1
      rw [collisionTicks_concat, ← hbefore]
      cases hcollides : (Room.run sessions t events).1.collides event with
      | false =>
          rw [Room.totalScore, hquiet hcollides]
          rfl
      | true =>
          obtain ⟨deltaSeconds, collisionTime, rfl, hplaying, hcollision, hscores⟩ :=
            hscored hcollides
          have hrunning : elapsed events < 30 := by
            by_contra hover
            exact absurd (hplaying.symm.trans (hclock.ended (not_lt.mp hover))) (by decide)
          obtain ⟨hpositive, hcap⟩ := hticks deltaSeconds (by simp)
          obtain ⟨hnonneg, hwithin⟩ :=
            hconsistent.tickCollision_mem hplaying hpositive hcollision
          have hshort : collisionTime ≤ 1 / 4 :=
            hwithin.trans ((min_le_left _ _).trans hcap)
          rw [Room.totalScore, hscores]
          exact (hclock.scoresAfter hrunning hnonneg hshort).total

/-- A finished game stays as it is while nobody leaves. -/
theorem Room.Consistent.run_finished (h : t.1.Consistent) (hfinished : t.1.gameState = .finished)
    {events : List (RoomEvent K ρ ω)} (hstay : BothStay sessions t events) :
    (Room.run sessions t events).1.gameState = .finished ∧
      SameLedger t.1 (Room.run sessions t events).1 := by
  induction events using List.reverseRecOn with
  | nil => exact ⟨hfinished, rfl, rfl, rfl⟩
  | append_singleton events event ih =>
      obtain ⟨hstill, hsame⟩ := ih hstay.init
      have hstay' := hstay (events ++ [event]) (List.prefix_refl _)
      rw [Room.run_concat] at hstay' ⊢
      obtain ⟨hfinished', hsame'⟩ := (h.run sessions events).step_finished hstill event hstay'
      exact ⟨hfinished', hsame.trans hsame'⟩

/-- **The ledger of a game.** A tick that starts at game time `T` changes the scores only if it has
a collision, at `collisionTime` say; then one score grows by one, that of the side which attacks at
`T + collisionTime`, and both players are at their spawns. When the game is over the scores add up
to the ticks with a collision and give the winner, and nothing moves until a player leaves. -/
theorem scoring_ledger (sessions : Room.Sessions ρ ω) (t : Room K ρ × ω)
    (events : List (RoomEvent K ρ ω)) (hstart : GameStarts sessions t)
    (hstay : BothStay sessions t events) (hticks : CappedTicks events) :
    (∀ played deltaSeconds, played ++ [.tick deltaSeconds] <+: events → elapsed played < 30 →
      ((Room.run sessions t played).1.tickCollision deltaSeconds = none →
        (Room.run sessions t (played ++ [.tick deltaSeconds])).1.sideScores =
          (Room.run sessions t played).1.sideScores) ∧
      ∀ collisionTime,
        (Room.run sessions t played).1.tickCollision deltaSeconds = some collisionTime →
        Credits (Room.run sessions t played).1.sideScores
            (Room.run sessions t (played ++ [.tick deltaSeconds])).1.sideScores
            (if Even ⌊(elapsed played + collisionTime) / 3⌋ then .flame else .frost) ∧
          ∀ entry ∈ (Room.run sessions t (played ++ [.tick deltaSeconds])).1.players,
            entry.2.state.AtSpawn) ∧
    ∀ played, played <+: events → (Room.run sessions t played).1.gameState = .finished →
      (Room.run sessions t played).1.sideScores.flame +
          (Room.run sessions t played).1.sideScores.frost = collisionTicks sessions t played ∧
      ((Room.run sessions t played).1.winningSide = .flame ↔
        (Room.run sessions t played).1.sideScores.frost <
          (Room.run sessions t played).1.sideScores.flame) ∧
      ((Room.run sessions t played).1.winningSide = .frost ↔
        (Room.run sessions t played).1.sideScores.flame <
          (Room.run sessions t played).1.sideScores.frost) ∧
      ∀ later, played <+: later → later <+: events →
        SameLedger (Room.run sessions t played).1 (Room.run sessions t later).1 := by
  constructor
  · intro played deltaSeconds hplayed hrunning
    have hsub : played <+: events := (List.prefix_append _ _).trans hplayed
    have hconsistent : (Room.run sessions t played).1.Consistent :=
      hstart.consistent.run sessions played
    have hclock : ClockAt (Room.run sessions t played).1 (elapsed played) :=
      hstart.clockAt (fun part hpart => hstay part (hpart.trans hsub))
        (fun deltaSeconds hmem => (hticks deltaSeconds (hsub.subset hmem)).1)
    obtain ⟨hplaying, -⟩ := hclock.running hrunning
    obtain ⟨hpositive, hcap⟩ := hticks deltaSeconds (hplayed.subset (by simp))
    rw [Room.run_concat]
    show (_ → ((Room.run sessions t played).1.tick deltaSeconds).sideScores = _) ∧
      ∀ collisionTime, _ → Credits _ ((Room.run sessions t played).1.tick deltaSeconds).sideScores
        (sideInInterval _) ∧ ∀ entry ∈ ((Room.run sessions t played).1.tick deltaSeconds).players, _
    refine ⟨hconsistent.tick_none hplaying hpositive, ?_⟩
    intro collisionTime hcollision
    obtain ⟨hscores, hspawn⟩ := hconsistent.tick_some hplaying hpositive hcollision
    obtain ⟨hnonneg, hwithin⟩ := hconsistent.tickCollision_mem hplaying hpositive hcollision
    have hshort : collisionTime ≤ 1 / 4 := hwithin.trans ((min_le_left _ _).trans hcap)
    refine ⟨?_, hspawn⟩
    rw [hscores]
    exact hclock.scoresAfter hrunning hnonneg hshort
  · intro played hplayed hfinished
    have hconsistent : (Room.run sessions t played).1.Consistent :=
      hstart.consistent.run sessions played
    obtain ⟨hflame, hfrost, -⟩ := hconsistent.phase.winner hfinished
    refine ⟨?_, hflame, hfrost, ?_⟩
    · exact hstart.totalScore (fun part hpart => hstay part (hpart.trans hplayed))
        (fun deltaSeconds hmem => hticks deltaSeconds (hplayed.subset hmem))
    · rintro later ⟨rest, rfl⟩ hlater
      have hrun : Room.run sessions t (played ++ rest) =
          Room.run sessions (Room.run sessions t played) rest := by
        simp [Room.run]
      rw [hrun]
      refine (hconsistent.run_finished hfinished ?_).2
      intro part hpart
      have hboth := hstay (played ++ part)
        (((List.prefix_append_right_inj played).mpr hpart).trans hlater)
      simpa [Room.run] using hboth

end Runs

/-- The players run into each other, in the second tick. -/
def headOn : List (RoomEvent ℚ SessionId Unit) :=
  [.applyPlayerInput 1 ⟨1000, 0, 0, false⟩, .applyPlayerInput 2 ⟨-1000, 0, 0, false⟩, .tick (1 / 4)]

theorem scoring_ledger_head_on :
    (Room.run liveSessions twoEntered (headOn ++ [.tick (1 / 4)])).1.sideScores.flame = 1 ∧
    ∀ entry ∈ (Room.run liveSessions twoEntered (headOn ++ [.tick (1 / 4)])).1.players,
      entry.2.state.AtSpawn := by
  have hstay : BothStay liveSessions twoEntered (headOn ++ [.tick (1 / 4)]) := by
    intro part hpart
    have hparts : ∀ part ∈ (headOn ++ [RoomEvent.tick (1 / 4)]).inits,
        (Room.run liveSessions twoEntered part).1.players.length = 2 := by decide +kernel
    exact hparts part ((List.mem_inits part _).mpr hpart)
  have hticks : CappedTicks (headOn ++ [.tick (1 / 4)]) := by
    intro deltaSeconds hmem
    have hquarter : deltaSeconds = 1 / 4 := by
      simpa [headOn] using hmem
    rw [hquarter]
    norm_num
  have helapsed : elapsed headOn = 1 / 4 := by
    norm_num [elapsed, headOn, tickSeconds]
  have hcollision : (Room.run liveSessions twoEntered headOn).1.tickCollision (1 / 4) =
      some (1 / 50) := by decide +kernel
  have hscores : (Room.run liveSessions twoEntered headOn).1.sideScores = ⟨0, 0⟩ := by
    decide +kernel
  have hfloor : ⌊((1 / 4 : ℚ) + 1 / 50) / 3⌋ = 0 := by decide +kernel
  obtain ⟨hcredits, hspawn⟩ := ((scoring_ledger liveSessions twoEntered
    (headOn ++ [.tick (1 / 4)]) gameStarts_twoEntered hstay hticks).1 headOn (1 / 4)
    (List.prefix_refl _) (by rw [helapsed]; norm_num)).2 (1 / 50) hcollision
  rw [helapsed, hfloor, if_pos (by decide), hscores] at hcredits
  exact ⟨hcredits.flame, hspawn⟩

end NetworkArena.Server
