/-
# NetworkArena.Server.ScoreRate -- how fast a game can score

After a collision the players stand three units apart, they collide when they are 0.3 apart, and
neither is faster than fifteen units a second: so a collision takes at least 0.09 seconds of the
game. What a tick does after its collision is thrown away, but the time it takes is not. The account
kept along a game (`RateAt`) is how far apart the players must still be, by the time since the last
collision could have been earliest.
-/
import NetworkArena.Server.SpeedLimit

namespace NetworkArena.Server

open NetworkArena.Foundation
open NetworkArena.Shared

variable {K ρ ω : Type} [Field K] [LinearOrder K]

/-! ## Two players on the move -/

section Moving

variable [IsStrictOrderedRing K] {first second : PlayerState K} {seconds : K}

/-- Nobody is faster than a dash. -/
theorem pace_le (state : PlayerState K) (seconds : K) :
    5 * seconds + 10 * dashTime state seconds ≤ 15 * seconds := by
  have hdash : dashTime state seconds ≤ seconds := min_le_left _ _
  linarith

variable [HasSqrt K] [LawfulSqrt K]

/-- Two points that have moved are still about as far apart. -/
theorem distance_le_moved {a b d : K} {from₁ from₂ to₁ to₂ : K × K} (h₁ : Within a (to₁ - from₁))
    (h₂ : Within b (to₂ - from₂)) (hafter : Within d (to₂ - to₁)) :
    distance from₁ from₂ ≤ d + a + b := by
  apply distance_le
  have hsum : from₂ - from₁ = (to₂ - to₁) + (to₁ - from₁) - (to₂ - from₂) := by abel
  rw [hsum]
  exact (hafter.add h₁).sub h₂

/-- The distance before a collision. -/
theorem distance_before_collision (hfirst : first.Paced) (hsecond : second.Paced)
    (hseconds : 0 ≤ seconds) (htouching : Touching (path first seconds) (path second seconds)) :
    distance first.position second.position ≤ 3 / 10 + 30 * seconds := by
  have hgap : Within (3 / 10 : K) (path second seconds - path first seconds) := by
    refine ⟨by norm_num, htouching.trans ?_⟩
    rw [playerCollisionRadius]
    norm_num
  have hmoved := distance_le_moved ((path_within hfirst hseconds).mono (pace_le first seconds))
    ((path_within hsecond hseconds).mono (pace_le second seconds)) hgap
  show distance (first.positionX, first.positionY) (second.positionX, second.positionY) ≤ _
  linarith

/-- The distance after a tick without a collision. -/
theorem distance_after_tick (hfirst : first.Paced) (hsecond : second.Paced)
    (hfirst' : first.InArena) (hsecond' : second.InArena) (hseconds : 0 ≤ seconds) :
    distance first.position second.position ≤
      distance (Room.tickPlayer seconds first).position (Room.tickPlayer seconds second).position +
        30 * seconds := by
  have hmoved := distance_le_moved
    ((tickPlayer_within hfirst hfirst' hseconds).mono (pace_le first seconds))
    ((tickPlayer_within hsecond hsecond' hseconds).mono (pace_le second seconds))
    (within_distance _ _)
  show distance (first.positionX, first.positionY) (second.positionX, second.positionY) ≤
    distance ((Room.tickPlayer seconds first).positionX, (Room.tickPlayer seconds first).positionY)
      ((Room.tickPlayer seconds second).positionX, (Room.tickPlayer seconds second).positionY) + _
  linarith

/-- **What is found touches.** -/
theorem findPlayerCollisionTimeDuringTick_touching {deltaSeconds collisionTime : K}
    (hdelta : 0 < deltaSeconds)
    (h : findPlayerCollisionTimeDuringTick first second deltaSeconds = some collisionTime) :
    Touching (path first collisionTime) (path second collisionTime) := by
  obtain ⟨u, v, rest, t, hpart, hfound, rfl⟩ := findPlayerCollisionTimeDuringTick_part hdelta h
  exact (hpart.meetAt hfound).1

end Moving

/-! ## The distance in a game -/

/-- Two players at least some distance apart. -/
def Room.Apart [HasSqrt K] (r : Room K ρ) (gap : K) : Prop :=
  ∀ first second, r.players = [first, second] →
    gap ≤ distance first.2.state.position second.2.state.position

section Apart

variable [IsStrictOrderedRing K] [HasSqrt K] [LawfulSqrt K] {r r' : Room K ρ} {gap : K}

/-- Players at their spawns are three units apart. -/
theorem Roster.apart_of_atSpawn (h : Roster r.players)
    (hspawn : ∀ entry ∈ r.players, entry.2.state.AtSpawn) : r.Apart 3 := by
  intro first second hplayers
  have hroot := distance_mul_self first.2.state.position second.2.state.position
  rw [h.distanceSquared_of_atSpawn hspawn hplayers] at hroot
  have hnonneg := distance_nonneg first.2.state.position second.2.state.position
  nlinarith

omit [IsStrictOrderedRing K] [LawfulSqrt K] in
theorem Room.Apart.mono (h : r.Apart gap) {gap' : K} (hle : gap' ≤ gap) : r.Apart gap' :=
  fun first second hplayers => hle.trans (h first second hplayers)

omit [IsStrictOrderedRing K] [LawfulSqrt K] in
/-- The distance is one of positions. -/
theorem Room.Apart.of_positions (h : r.Apart gap)
    (hpositions : r'.players.map (·.2.state.position) = r.players.map (·.2.state.position)) :
    r'.Apart gap := by
  intro first second hplayers
  rw [hplayers] at hpositions
  have hlength : r.players.length = 2 := by
    have hsame := congrArg List.length hpositions
    simpa using hsame.symm
  obtain ⟨first', second', hplayers'⟩ := List.length_eq_two.mp hlength
  rw [hplayers'] at hpositions
  simp only [List.map_cons, List.map_nil, List.cons.injEq, and_true] at hpositions
  rw [hpositions.1, hpositions.2]
  exact h first' second' hplayers'

variable {deltaSeconds : K}

/-- **A tick without a collision** brings the players no more than thirty units a second closer. -/
theorem Room.Apart.tick [FloorRing K] (hr : r.Consistent) (hpaced : r.Every PlayerState.Paced)
    (h : r.Apart gap) (hplaying : r.gameState = .playing) (hdelta : 0 < deltaSeconds)
    (hcollision : r.tickCollision deltaSeconds = none) :
    (r.tick deltaSeconds).Apart (gap - 30 * r.simulationDelta deltaSeconds) := by
  have hsim : 0 < r.simulationDelta deltaSeconds :=
    lt_min hdelta (hr.phase.gameTimer hplaying).1
  obtain ⟨first, second, hplayers, -⟩ :=
    hr.roster.pair (hr.two_players (by rw [hplaying]; decide))
  have hpositions := hr.tick_positions hplaying hdelta hcollision
  intro first' second' hplayers'
  rw [hplayers, hplayers'] at hpositions
  simp only [List.map_cons, List.map_nil, List.cons.injEq, and_true] at hpositions
  rw [hpositions.1, hpositions.2]
  have hfirst : first ∈ r.players := by simp [hplayers]
  have hsecond : second ∈ r.players := by simp [hplayers]
  have hmoved := distance_after_tick (hpaced first hfirst) (hpaced second hsecond)
    (hr.roster.inArena first hfirst) (hr.roster.inArena second hsecond) hsim.le
  linarith [h first second hplayers]

/-- **A collision takes the time to get there.** -/
theorem Room.Apart.collision (hr : r.Consistent) (hpaced : r.Every PlayerState.Paced)
    (h : r.Apart gap) (hplaying : r.gameState = .playing) (hdelta : 0 < deltaSeconds)
    {collisionTime : K} (hcollision : r.tickCollision deltaSeconds = some collisionTime) :
    gap ≤ 3 / 10 + 30 * collisionTime := by
  have hsim : 0 < r.simulationDelta deltaSeconds :=
    lt_min hdelta (hr.phase.gameTimer hplaying).1
  have hnonneg := (hr.tickCollision_mem hplaying hdelta hcollision).1
  obtain ⟨first, second, hplayers, -⟩ :=
    hr.roster.pair (hr.two_players (by rw [hplaying]; decide))
  have hfound : findPlayerCollisionTimeDuringTick first.2.state second.2.state
      (r.simulationDelta deltaSeconds) = some collisionTime := by
    rw [← hcollision, Room.tickCollision, hplayers]
  have htouching := findPlayerCollisionTimeDuringTick_touching hsim hfound
  exact (h first second hplayers).trans (distance_before_collision
    (hpaced first (by simp [hplayers])) (hpaced second (by simp [hplayers])) hnonneg htouching)

end Apart

/-! ## The rate of a game -/

/-- A room whose game has run for `T` seconds and has had `collisions` collisions: the players are
at least as far apart as if the last one had been as early as it could be. -/
structure RateAt [HasSqrt K] (r : Room K ρ) (T : K) (collisions : ℕ) : Prop where
  bounded : 9 / 100 * (collisions : K) ≤ 30
  apart : T < 30 → r.Apart (3 - 30 * (T - 9 / 100 * (collisions : K)))

section Runs

variable [IsStrictOrderedRing K] [FloorRing K] [HasSqrt K] [LawfulSqrt K] [SessionObject ρ]
  {sessions : Room.Sessions ρ ω} {t : Room K ρ × ω}

omit [LawfulSqrt K] in
/-- A game starts with both players at their spawns. -/
theorem GameStarts.atSpawn (hstart : GameStarts sessions t) :
    ∀ entry ∈ t.1.players, entry.2.state.AtSpawn := by
  have hsides := hstart.consistent.roster.sides
  obtain ⟨r, entering, -, hroom⟩ := hstart.room
  rw [hroom] at hsides ⊢
  intro entry hentry
  have hside := hsides entry hentry
  obtain ⟨old, -, rfl⟩ := List.mem_map.mp hentry
  rw [startPlayer_side] at hside
  exact startPlayer_atSpawn hside

omit [SessionObject ρ] in
/-- **When a collision comes**: the next one comes at least 0.09 seconds later than the last one
could have been, and before the game is over. -/
theorem RateAt.next {r : Room K ρ} {T deltaSeconds collisionTime : K} {collisions : ℕ}
    (h : RateAt r T collisions) (hr : r.Consistent) (hpaced : r.Every PlayerState.Paced)
    (hclock : ClockAt r T) (hrunning : T < 30) (hdelta : 0 < deltaSeconds)
    (hcollision : r.tickCollision deltaSeconds = some collisionTime) :
    9 / 100 * ((collisions : K) + 1) ≤ T + collisionTime ∧ T + collisionTime ≤ 30 ∧
      collisionTime ≤ deltaSeconds := by
  obtain ⟨hplaying, hgame, -⟩ := hclock.running hrunning
  have hgap := (h.apart hrunning).collision hr hpaced hplaying hdelta hcollision
  have hwithin := (hr.tickCollision_mem hplaying hdelta hcollision).2
  have hleft : r.simulationDelta deltaSeconds ≤ 30 - T := hgame ▸ min_le_right _ _
  have hdelta' : r.simulationDelta deltaSeconds ≤ deltaSeconds := min_le_left _ _
  refine ⟨?_, ?_, hwithin.trans hdelta'⟩ <;> linarith

omit [SessionObject ρ] in
/-- **A tick** adds its length to the time, and its collision to the collisions. -/
theorem RateAt.tick {r : Room K ρ} {T deltaSeconds : K} {collisions : ℕ}
    (h : RateAt r T collisions) (hr : r.Consistent) (hpaced : r.Every PlayerState.Paced)
    (hclock : ClockAt r T) (hrunning : T < 30) (hdelta : 0 < deltaSeconds) :
    RateAt (r.tick deltaSeconds) (T + deltaSeconds)
      (collisions + if (r.tickCollision deltaSeconds).isSome then 1 else 0) := by
  have hplaying := (hclock.running hrunning).1
  cases hcollision : r.tickCollision deltaSeconds with
  | none =>
      refine ⟨h.bounded, fun _ => ?_⟩
      apply ((h.apart hrunning).tick hr hpaced hplaying hdelta hcollision).mono
      have hsim : r.simulationDelta deltaSeconds ≤ deltaSeconds := min_le_left _ _
      simp only [Option.isSome_none, Bool.false_eq_true, if_false, add_zero]
      linarith
  | some collisionTime =>
      obtain ⟨hearliest, hover, hwithin⟩ := h.next hr hpaced hclock hrunning hdelta hcollision
      have hspawn := (hr.tick_some hplaying hdelta hcollision).2
      constructor
      · push_cast
        simp only [Option.isSome_some, if_true]
        linarith
      · intro _
        apply ((hr.tick deltaSeconds).roster.apart_of_atSpawn hspawn).mono
        push_cast
        simp only [Option.isSome_some, if_true]
        linarith

/-- **The rate of a game.** -/
theorem GameStarts.rateAt (hstart : GameStarts sessions t) {events : List (RoomEvent K ρ ω)}
    (hstay : BothStay sessions t events) (hticks : CappedTicks events) :
    RateAt (Room.run sessions t events).1 (elapsed events) (collisionTicks sessions t events) := by
  induction events using List.reverseRecOn with
  | nil =>
      refine ⟨by simp [collisionTicks], fun _ => ?_⟩
      apply (hstart.consistent.roster.apart_of_atSpawn hstart.atSpawn).mono
      simp [elapsed, collisionTicks]
  | append_singleton events event ih =>
      have hrate := ih hstay.init fun deltaSeconds hmem =>
        hticks deltaSeconds (List.mem_append_left _ hmem)
      have hconsistent : (Room.run sessions t events).1.Consistent :=
        hstart.consistent.run sessions events
      have hpaced : (Room.run sessions t events).1.Every PlayerState.Paced :=
        hstart.players.1.run_paced hstart.consistent events
      have hclock := hstart.clockAt hstay.init hticks.positive.init
      have hboth := hstay events (List.prefix_append _ _)
      have hboth' := hstay (events ++ [event]) (List.prefix_refl _)
      rw [Room.run_concat] at hboth' ⊢
      rw [elapsed_concat, collisionTicks_concat]
      -- only a tick moves the players, and counts a collision
      have hquiet : (∀ deltaSeconds, event ≠ .tick deltaSeconds) →
          (Room.run sessions t events).1.collides event = false := by
        intro hno
        cases event with
        | tick deltaSeconds => exact absurd rfl (hno deltaSeconds)
        | _ => rfl
      rcases hconsistent.step_staying hboth sessions event hboth' with
        ⟨deltaSeconds, rfl, htick⟩ | ⟨hnothing, hsame⟩
      · have hdelta := (hticks deltaSeconds (by simp)).1
        rw [htick]
        by_cases hrunning : elapsed events < 30
        · have hplaying := (hclock.running hrunning).1
          have hcollides : (Room.run sessions t events).1.collides
              (RoomEvent.tick deltaSeconds : RoomEvent K ρ ω) =
                ((Room.run sessions t events).1.tickCollision deltaSeconds).isSome := by
            simp [Room.collides, hplaying]
          rw [hcollides]
          exact hrate.tick hconsistent hpaced hclock hrunning hdelta
        · -- the game is over
          have hfinished := hclock.ended (not_lt.mp hrunning)
          have hcollides : (Room.run sessions t events).1.collides
              (RoomEvent.tick deltaSeconds : RoomEvent K ρ ω) = false := by
            simp [Room.collides, hfinished, show GamePlayState.finished ≠ .playing by decide]
          rw [hcollides]
          refine ⟨hrate.bounded, fun hless => absurd hless (not_lt.mpr ?_)⟩
          exact (not_lt.mp hrunning).trans (le_add_of_nonneg_right hdelta.le)
      · have hno : ∀ deltaSeconds, event ≠ .tick deltaSeconds := by
          rintro deltaSeconds rfl
          exact (hticks deltaSeconds (by simp)).1.ne' hnothing
        rw [hquiet hno, hnothing]
        refine ⟨hrate.bounded, fun hrunning => ?_⟩
        rw [add_zero] at hrunning ⊢
        -- the clock stands still and nobody moves, so the players are as far apart as before
        apply (hrate.apart hrunning).of_positions
        rcases hsame with ⟨sessionId, input, -, hinput⟩ | hsame
        · rw [hinput]
          have hledger := (updatePlayer_sameLedger (Room.run sessions t events).1 sessionId
            input).positions
          have hpositions := congrArg (List.map fun entry => (entry.2.1, entry.2.2.1)) hledger
          rw [List.map_map, List.map_map] at hpositions
          exact hpositions
        · rw [hsame]

/-- **A game cannot score faster than its players can move.** In every game, the `n`-th collision
comes no earlier than `0.09 * n` seconds into the game. So the two scores never add up to more than
333, and the snapshot shows them as they are. -/
theorem score_rate (sessions : Room.Sessions ρ ω) (t : Room K ρ × ω)
    (events : List (RoomEvent K ρ ω)) (hstart : GameStarts sessions t)
    (hstay : BothStay sessions t events) (hticks : CappedTicks events) :
    (∀ played deltaSeconds collisionTime, played ++ [.tick deltaSeconds] <+: events →
      (Room.run sessions t played).1.gameState = .playing →
      (Room.run sessions t played).1.tickCollision deltaSeconds = some collisionTime →
      9 / 100 * ((collisionTicks sessions t played : K) + 1) ≤ elapsed played + collisionTime) ∧
    ∀ played, played <+: events →
      (Room.run sessions t played).1.totalScore = collisionTicks sessions t played ∧
      (Room.run sessions t played).1.totalScore ≤ 333 ∧
      ∀ serverTick,
        ((Room.run sessions t played).1.captureSnapshot serverTick).flameScore.toNat =
          (Room.run sessions t played).1.sideScores.flame ∧
        ((Room.run sessions t played).1.captureSnapshot serverTick).frostScore.toNat =
          (Room.run sessions t played).1.sideScores.frost := by
  constructor
  · intro played deltaSeconds collisionTime hplayed hplaying hcollision
    have hsub : played <+: events := (List.prefix_append _ _).trans hplayed
    have hstay' : BothStay sessions t played := fun part hpart => hstay part (hpart.trans hsub)
    have hticks' : CappedTicks played := fun deltaSeconds hmem =>
      hticks deltaSeconds (hsub.subset hmem)
    have hclock := hstart.clockAt hstay' hticks'.positive
    have hrunning : elapsed played < 30 := by
      by_contra hover
      exact absurd (hplaying.symm.trans (hclock.ended (not_lt.mp hover))) (by decide)
    exact ((hstart.rateAt hstay' hticks').next (hstart.consistent.run sessions played)
      (hstart.players.1.run_paced hstart.consistent played) hclock hrunning
      (hticks deltaSeconds (hplayed.subset (by simp))).1 hcollision).1
  · intro played hplayed
    have hstay' : BothStay sessions t played := fun part hpart => hstay part (hpart.trans hplayed)
    have hticks' : CappedTicks played := fun deltaSeconds hmem =>
      hticks deltaSeconds (hplayed.subset hmem)
    have htotal := hstart.totalScore hstay' hticks'
    have hfew : collisionTicks sessions t played ≤ 333 := by
      have hbounded := (hstart.rateAt hstay' hticks').bounded
      have hcast : ((collisionTicks sessions t played : ℕ) : K) < ((334 : ℕ) : K) := by
        push_cast
        linarith
      exact Nat.lt_succ_iff.mp (Nat.cast_lt.mp hcast)
    refine ⟨htotal, htotal.trans_le hfew, fun serverTick => ?_⟩
    have hsum : (Room.run sessions t played).1.sideScores.flame +
        (Room.run sessions t played).1.sideScores.frost ≤ 333 := htotal.trans_le hfew
    constructor
    · exact UInt32.toNat_ofNat_of_lt' (by simp only [UInt32.size]; omega)
    · exact UInt32.toNat_ofNat_of_lt' (by simp only [UInt32.size]; omega)

end Runs

theorem score_rate_dash :
    (Room.run liveSessions (bothEntered : Room ℝ SessionId × Unit) dashTwice).1.totalScore ≤
      333 := by
  have hticks : CappedTicks (dashTwice : List (RoomEvent ℝ SessionId Unit)) := by
    intro deltaSeconds hmem
    have hquarter : deltaSeconds = 1 / 4 := by simpa [dashTwice, keepAndRelease] using hmem
    rw [hquarter]
    norm_num
  exact ((score_rate liveSessions bothEntered dashTwice gameStarts_bothEntered bothStay_dashTwice
    hticks).2 dashTwice (List.prefix_refl _)).2.1

end NetworkArena.Server
