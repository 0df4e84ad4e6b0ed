/-
# NetworkArena.Server.GameClock -- the clock of a game

A game runs from the `Enter` that starts it for as long as both players stay. Two timers count it
down by different rules: one is cut to the time that is left and clamped at zero, the other is
re-armed by a loop that may go round several times. After ticks of total length `T` both are
functions of `T` alone, and so is the side that attacks (`ClockAt`); how the time was cut into
ticks, and what was done in between, does not matter.
-/
import NetworkArena.Server.RoomPhase

namespace NetworkArena.Server

open NetworkArena.Shared

variable {K ρ ω : Type} [Field K] [LinearOrder K] [IsStrictOrderedRing K] [FloorRing K]

/-! ## Games -/

section Games

variable [HasSqrt K] [SessionObject ρ]

/-- An `Enter` that starts a game, in some run of a fresh room. -/
def GameStarts (sessions : Room.Sessions ρ ω) (t : Room K ρ × ω) : Prop :=
  ∃ id w before session,
    (Room.run sessions (Room.create id, w) before).1.gameState = .waiting ∧
    t = Room.step sessions (Room.run sessions (Room.create id, w) before) (.enter session) ∧
    t.1.gameState = .playing

/-- Neither player leaves during some operations. -/
def BothStay (sessions : Room.Sessions ρ ω) (t : Room K ρ × ω)
    (events : List (RoomEvent K ρ ω)) : Prop :=
  ∀ part, part <+: events → (Room.run sessions t part).1.players.length = 2

end Games

/-- The length of a tick. -/
def tickSeconds : RoomEvent K ρ ω → K
  | .tick deltaSeconds => deltaSeconds
  | _ => 0

/-- The time that some operations take. -/
def elapsed (events : List (RoomEvent K ρ ω)) : K := (events.map tickSeconds).sum

omit [LinearOrder K] [IsStrictOrderedRing K] [FloorRing K] in
theorem elapsed_concat (events : List (RoomEvent K ρ ω)) (event : RoomEvent K ρ ω) :
    elapsed (events ++ [event]) = elapsed events + tickSeconds event := by
  simp [elapsed]

/-- Every tick takes some time. -/
def PositiveTicks (events : List (RoomEvent K ρ ω)) : Prop :=
  ∀ deltaSeconds, RoomEvent.tick deltaSeconds ∈ events → 0 < deltaSeconds

/-! ## What can happen while both players stay -/

section Staying

variable [HasSqrt K] [SessionObject ρ]

omit [IsStrictOrderedRing K] [FloorRing K] [HasSqrt K] [SessionObject ρ] [LinearOrder K] in
/-- A player who leaves a full room leaves less than two. -/
theorem Room.leave_or_few {r : Room K ρ} (hfew : r.players.length ≤ 2) (sessionId : SessionId) :
    r.leave sessionId = r ∨ (r.leave sessionId).players.length < 2 := by
  by_cases hknown : ∀ entry ∈ r.players, entry.1 ≠ sessionId
  · exact Or.inl (Room.leave_unknown hknown)
  obtain ⟨entry, hentry, heq⟩ : ∃ entry ∈ r.players, entry.1 = sessionId := by
    simpa using hknown
  have hfewer : (r.players.filter fun entry => entry.1 ≠ sessionId).length < r.players.length :=
    List.length_filter_lt_length_iff_exists.mpr ⟨entry, hentry, by simpa using heq⟩
  have hany : (r.players.any fun entry => entry.1 = sessionId) = true :=
    List.any_eq_true.mpr ⟨entry, hentry, by simpa using heq⟩
  right
  unfold Room.leave
  rw [if_pos hany]
  have hlength : (r.players.filter fun entry => entry.1 ≠ sessionId).length < 2 := by omega
  dsimp only
  split
  · exact hlength
  · exact hlength

omit [IsStrictOrderedRing K] [FloorRing K] [HasSqrt K] [SessionObject ρ] [LinearOrder K] in
theorem Room.leave_few {r : Room K ρ} (hfew : r.players.length < 2) (sessionId : SessionId) :
    (r.leave sessionId).players.length < 2 := by
  rcases Room.leave_or_few (Nat.le_of_lt hfew) sessionId with hsame | hless
  · rw [hsame]
    exact hfew
  · exact hless

/-- **While both players stay**, a room changes by ticks and inputs only. -/
theorem Room.Consistent.step_staying {t : Room K ρ × ω} (h : t.1.Consistent)
    (hboth : t.1.players.length = 2) (sessions : Room.Sessions ρ ω) (event : RoomEvent K ρ ω)
    (hstay : (Room.step sessions t event).1.players.length = 2) :
    (∃ deltaSeconds, event = .tick deltaSeconds ∧
        (Room.step sessions t event).1 = t.1.tick deltaSeconds) ∨
      (tickSeconds event = 0 ∧ ((∃ sessionId input, event = .applyPlayerInput sessionId input ∧
          (Room.step sessions t event).1 =
            t.1.updatePlayer sessionId (Room.applyInput t.1.gameState input)) ∨
        (Room.step sessions t event).1 = t.1)) := by
  cases event with
  | enter session =>
      refine Or.inr ⟨rfl, Or.inr ?_⟩
      have hfull : t.1.hasCapacity = false := by
        simp [Room.hasCapacity, Room.getPlayerCount, Room.maxPlayerCount, hboth]
      show (t.1.enter session).2 = t.1
      cases session with
      | none => rfl
      | some session =>
          unfold Room.enter
          dsimp only
          split
          · rfl
          · rw [if_pos (by rw [hfull]; rfl)]
  | leave sessionId =>
      refine Or.inr ⟨rfl, Or.inr ?_⟩
      rcases Room.leave_or_few h.roster.few sessionId with hsame | hless
      · exact hsame
      · change (t.1.leave sessionId).players.length = 2 at hstay
        omega
  | applyPlayerInput sessionId input =>
      refine Or.inr ⟨rfl, ?_⟩
      show (∃ sessionId' input', _ ∧ (t.1.applyPlayerInput sessionId input).2 = _) ∨
        (t.1.applyPlayerInput sessionId input).2 = t.1
      unfold Room.applyPlayerInput
      split
      · exact Or.inl ⟨sessionId, input, rfl, rfl⟩
      · exact Or.inr rfl
  | tick deltaSeconds => exact Or.inl ⟨deltaSeconds, rfl, rfl⟩
  | broadcast type payload =>
      refine Or.inr ⟨rfl, Or.inr ?_⟩
      have hleft : (t.1.broadcast sessions type payload t.2).1 = t.1 ∨
          (t.1.broadcast sessions type payload t.2).1.players.length < 2 := by
        refine Room.broadcast_induction (P := fun r => r = t.1 ∨ r.players.length < 2) ?_ sessions
          type payload t.2 (Or.inl rfl)
        rintro r id (rfl | hless)
        · exact Room.leave_or_few h.roster.few id
        · exact Or.inr (Room.leave_few hless id)
      rcases hleft with hsame | hless
      · exact hsame
      · change (t.1.broadcast sessions type payload t.2).1.players.length = 2 at hstay
        omega
  | sessions w => exact Or.inr ⟨rfl, Or.inr rfl⟩

end Staying

/-! ## The role switch loop, in closed form -/

/-- The attacking side in the `n`-th interval of a game. -/
def sideInInterval (n : ℤ) : PlayerSide := if Even n then .flame else .frost

theorem switchAttackingSide_sideInInterval (n : ℤ) :
    Room.switchAttackingSide (sideInInterval n) = sideInInterval (n + 1) := by
  unfold sideInInterval
  by_cases hn : Even n
  · rw [if_pos hn, if_neg (by simpa [Int.even_add_one] using hn)]
    rfl
  · rw [if_neg hn, if_pos (by simpa [Int.even_add_one] using hn)]
    rfl

/-- The intervals of a game are three seconds long. -/
theorem floor_third_eq {T : K} {n : ℤ} (hlow : 3 * (n : K) ≤ T) (hhigh : T < 3 * ((n : K) + 1)) :
    ⌊T / 3⌋ = n := by
  rw [Int.floor_eq_iff]
  constructor
  · rw [le_div_iff₀ (by norm_num)]
    linarith
  · rw [div_lt_iff₀ (by norm_num)]
    linarith

/-- **The loop ends in the interval of the time it is asked for**, wherever it started. -/
theorem Room.switchLoop_interval {T remaining : K} {n : ℤ} (hstart : 3 * (n : K) ≤ T)
    (hremaining : remaining = 3 * ((n : K) + 1) - T) :
    Room.switchLoop (sideInInterval n) remaining =
      (sideInInterval ⌊T / 3⌋, 3 * ((⌊T / 3⌋ : K) + 1) - T) := by
  generalize hside : sideInInterval n = side
  induction side, remaining using Room.switchLoop.induct generalizing n with
  | case1 side remaining h ih =>
      rw [Room.switchLoop, dif_pos h]
      -- the switch is due: the next interval has begun
      refine ih (n := n + 1) ?_ ?_ ?_
      · push_cast
        linarith
      · rw [attackRoleSwitchIntervalSeconds]
        push_cast
        linarith
      · rw [← hside, switchAttackingSide_sideInInterval]
  | case2 side remaining h =>
      rw [Room.switchLoop, dif_neg h]
      have hfloor : ⌊T / 3⌋ = n := floor_third_eq hstart (by linarith [not_le.mp h])
      rw [hfloor, ← hside, hremaining]

/-! ## The clock -/

/-- A room whose game has run for `T` seconds. -/
structure ClockAt (r : Room K ρ) (T : K) : Prop where
  running : T < 30 → r.gameState = .playing ∧ r.gameRemainingSeconds = 30 - T ∧
    r.attackingSide = sideInInterval ⌊T / 3⌋ ∧
    r.attackRoleSwitchRemainingSeconds = 3 * ((⌊T / 3⌋ : K) + 1) - T
  ended : 30 ≤ T → r.gameState = .finished

/-- The start of a game. -/
theorem clockAt_start {r : Room K ρ} (hplaying : r.gameState = .playing)
    (hgame : r.gameRemainingSeconds = 30) (hside : r.attackingSide = .flame)
    (hswitch : r.attackRoleSwitchRemainingSeconds = 3) : ClockAt r 0 where
  running _ := by
    have hfloor : ⌊(0 : K) / 3⌋ = 0 := by simp
    rw [hfloor, hgame, hside, hswitch]
    refine ⟨hplaying, ?_, ?_, ?_⟩
    · ring
    · rfl
    · push_cast
      ring
  ended h := absurd h (by norm_num)

omit [IsStrictOrderedRing K] in
/-- The clock sees neither players nor scores. -/
theorem ClockAt.of_eq {r r' : Room K ρ} {T : K} (h : ClockAt r T)
    (hstate : r'.gameState = r.gameState)
    (hgame : r'.gameRemainingSeconds = r.gameRemainingSeconds)
    (hside : r'.attackingSide = r.attackingSide)
    (hswitch : r'.attackRoleSwitchRemainingSeconds = r.attackRoleSwitchRemainingSeconds) :
    ClockAt r' T where
  running hT := by
    rw [hstate, hgame, hside, hswitch]
    exact h.running hT
  ended hT := by
    rw [hstate]
    exact h.ended hT

/-- **A tick moves the clock** by its length. -/
theorem ClockAt.tick [HasSqrt K] {r : Room K ρ} {T deltaSeconds : K} (h : ClockAt r T)
    (hdelta : 0 < deltaSeconds) : ClockAt (r.tick deltaSeconds) (T + deltaSeconds) := by
  by_cases hover : 30 ≤ T
  · -- the game is over, and stays so
    have hfinished := h.ended hover
    rw [Room.tick_idle (Or.inr (by rw [hfinished]; decide))]
    exact ⟨fun hless => absurd hover (by linarith), fun _ => hfinished⟩
  have hrunning : T < 30 := not_le.mp hover
  obtain ⟨hplaying, hgame, hside, hswitch⟩ := h.running hrunning
  obtain ⟨scores, players, hsimulate⟩ := r.simulate_eq deltaSeconds
  rw [Room.tick_playing hdelta hplaying, Room.simulationDelta, hgame, hsimulate]
  by_cases hlast : 30 ≤ T + deltaSeconds
  · have hsim : min deltaSeconds (30 - T) = 30 - T := min_eq_right (by linarith)
    rw [hsim, sub_self, max_self, if_pos (le_refl 0)]
    exact ⟨fun hless => absurd hlast (not_le.mpr hless), fun _ => rfl⟩
  · have hmore : T + deltaSeconds < 30 := not_le.mp hlast
    have hsim : min deltaSeconds (30 - T) = deltaSeconds := min_eq_left (by linarith)
    have hleft : max 0 (30 - T - deltaSeconds) = 30 - T - deltaSeconds := max_eq_right (by linarith)
    rw [hsim, hleft, if_neg (by linarith)]
    have hinterval : 3 * ((⌊T / 3⌋ : ℤ) : K) ≤ T + deltaSeconds := by
      have hfloor := Int.floor_le (T / 3)
      linarith
    have hloop := Room.switchLoop_interval hinterval
      (show r.attackRoleSwitchRemainingSeconds - deltaSeconds = _ by rw [hswitch]; ring)
    refine ⟨fun _ => ⟨hplaying, by change 30 - T - deltaSeconds = _; ring, ?_, ?_⟩,
      fun hless => absurd hless hlast⟩
    · show (Room.switchLoop r.attackingSide
        (r.attackRoleSwitchRemainingSeconds - deltaSeconds)).1 = _
      rw [hside, hloop]
    · show (Room.switchLoop r.attackingSide
        (r.attackRoleSwitchRemainingSeconds - deltaSeconds)).2 = _
      rw [hside, hloop]

/-! ## Whole games -/

/-- The loop goes round a finite number of times, whatever was subtracted before. -/
theorem Room.switchLoop_rounds (attackingSide : PlayerSide) (remaining : K) :
    ∃ rounds : ℕ, (Room.switchLoop attackingSide remaining).2 = remaining + 3 * (rounds : K) ∧
      0 < remaining + 3 * (rounds : K) ∧
      ∀ earlier : ℕ, earlier < rounds → remaining + 3 * (earlier : K) ≤ 0 := by
  fun_induction Room.switchLoop attackingSide remaining with
  | case1 side remaining h ih =>
      obtain ⟨rounds, hresult, hpositive, hearlier⟩ := ih
      have hthree : (attackRoleSwitchIntervalSeconds : K) = 3 := rfl
      rw [hthree] at hpositive hearlier
      refine ⟨rounds + 1, ?_, ?_, ?_⟩
      · rw [hresult, hthree]
        push_cast
        ring
      · push_cast
        linarith
      · intro earlier hless
        cases earlier with
        | zero => simpa using h
        | succ earlier =>
            have hbefore := hearlier earlier (Nat.lt_of_succ_lt_succ hless)
            push_cast
            linarith
  | case2 side remaining h =>
      refine ⟨0, by simp, by simpa using h, ?_⟩
      intro earlier hless
      exact absurd hless (Nat.not_lt_zero earlier)

section Runs

variable [HasSqrt K] [SessionObject ρ] {sessions : Room.Sessions ρ ω} {t : Room K ρ × ω}

/-- **A game starts** with the second player. -/
theorem GameStarts.room (h : GameStarts sessions t) :
    ∃ (r : Room K ρ) (entering : ρ), r.Consistent ∧ t.1 = (r.withPlayer entering).startGame := by
  obtain ⟨id, w, before, session, hwaiting, rfl, hplaying⟩ := h
  have hconsistent : (Room.run sessions (Room.create id, w) before).1.Consistent :=
    (Room.consistent_create id).run sessions before
  revert hwaiting hplaying hconsistent
  generalize Room.run sessions (Room.create id, w) before = t
  intro hwaiting hplaying hconsistent
  change (t.1.enter session).2.gameState = .playing at hplaying
  show ∃ (r : Room K ρ) (entering : ρ), r.Consistent ∧ (t.1.enter session).2 = _
  rcases t.1.enter_cases session with ⟨playerId, -, hrefused⟩ | ⟨entering, -, -, hentered⟩
  · rw [hrefused] at hplaying
    exact absurd (hwaiting.symm.trans hplaying) (by decide)
  rw [hentered] at hplaying ⊢
  by_cases hready : t.1.gameState = .waiting ∧
      (t.1.withPlayer entering).isAttackDefenseReady = true
  · rw [if_pos hready]
    exact ⟨t.1, entering, hconsistent, rfl⟩
  · rw [if_neg hready] at hplaying
    exact absurd (hwaiting.symm.trans hplaying) (by decide)

theorem GameStarts.consistent (h : GameStarts sessions t) : t.1.Consistent := by
  obtain ⟨id, w, before, session, -, rfl, -⟩ := h
  exact ((Room.consistent_create id).run sessions before).step sessions _

omit [IsStrictOrderedRing K] [FloorRing K] [HasSqrt K] [SessionObject ρ] in
/-- A game has two players from the start. -/
theorem Room.Consistent.two_players {r : Room K ρ} (h : r.Consistent)
    (hplaying : r.gameState ≠ .waiting) : r.players.length = 2 := by
  have hfew := h.roster.few
  have hmany : ¬ r.players.length < 2 := fun hless => hplaying (h.phase.waiting.mpr hless)
  omega

theorem Room.run_concat (events : List (RoomEvent K ρ ω)) (event : RoomEvent K ρ ω) :
    Room.run sessions t (events ++ [event]) =
      Room.step sessions (Room.run sessions t events) event := by
  simp [Room.run]

theorem BothStay.init {events : List (RoomEvent K ρ ω)} {event : RoomEvent K ρ ω}
    (h : BothStay sessions t (events ++ [event])) : BothStay sessions t events :=
  fun part hpart => h part (hpart.trans (List.prefix_append _ _))

omit [IsStrictOrderedRing K] [FloorRing K] [HasSqrt K] [SessionObject ρ] in
theorem PositiveTicks.init {events : List (RoomEvent K ρ ω)} {event : RoomEvent K ρ ω}
    (h : PositiveTicks (events ++ [event])) : PositiveTicks events :=
  fun deltaSeconds hmem => h deltaSeconds (List.mem_append_left _ hmem)

/-- **The clock runs with the time the ticks take.** -/
theorem GameStarts.clockAt (hstart : GameStarts sessions t) {events : List (RoomEvent K ρ ω)}
    (hstay : BothStay sessions t events) (hticks : PositiveTicks events) :
    ClockAt (Room.run sessions t events).1 (elapsed events) := by
  induction events using List.reverseRecOn with
  | nil =>
      obtain ⟨r, entering, -, hroom⟩ := hstart.room
      rw [show (Room.run sessions t []).1 = (r.withPlayer entering).startGame from hroom]
      exact clockAt_start rfl rfl rfl rfl
  | append_singleton events event ih =>
      have hclock := ih hstay.init hticks.init
      have hconsistent : (Room.run sessions t events).1.Consistent :=
        hstart.consistent.run sessions events
      have hboth := hstay events (List.prefix_append _ _)
      have hboth' := hstay (events ++ [event]) (List.prefix_refl _)
      rw [Room.run_concat] at hboth' ⊢
      rw [elapsed_concat]
      rcases hconsistent.step_staying hboth sessions event hboth' with
        ⟨deltaSeconds, rfl, htick⟩ | ⟨hnothing, ⟨sessionId, input, -, hinput⟩ | hsame⟩
      · rw [htick]
        exact hclock.tick (hticks deltaSeconds (by simp))
      · rw [hinput, hnothing, add_zero]
        exact hclock.of_eq rfl rfl rfl rfl
      · rw [hsame, hnothing, add_zero]
        exact hclock

/-- **The game clock does not depend on how time is cut into ticks.** At every moment of a game,
after ticks of total length `T`: before thirty seconds the game is on, its timer shows what is left,
the sides have changed every three seconds, and the switch timer shows the rest of the interval;
from thirty seconds on the game is over. The role switch loop ends for every delta. -/
theorem game_clock (sessions : Room.Sessions ρ ω) (t : Room K ρ × ω)
    (events played : List (RoomEvent K ρ ω)) (hstart : GameStarts sessions t)
    (hstay : BothStay sessions t events) (hticks : PositiveTicks events)
    (hplayed : played <+: events) :
    (elapsed played < 30 →
      (Room.run sessions t played).1.gameState = .playing ∧
      (Room.run sessions t played).1.gameRemainingSeconds = 30 - elapsed played ∧
      ((Room.run sessions t played).1.attackingSide = .flame ↔ Even ⌊elapsed played / 3⌋) ∧
      ((Room.run sessions t played).1.attackingSide = .frost ↔ ¬ Even ⌊elapsed played / 3⌋) ∧
      (Room.run sessions t played).1.attackRoleSwitchRemainingSeconds =
        3 * ((⌊elapsed played / 3⌋ : K) + 1) - elapsed played) ∧
    (30 ≤ elapsed played → (Room.run sessions t played).1.gameState = .finished) ∧
    ∀ deltaSeconds, ∃ rounds : ℕ,
      ((Room.run sessions t played).1.updateAttackDefenseState
        deltaSeconds).attackRoleSwitchRemainingSeconds =
        (Room.run sessions t played).1.attackRoleSwitchRemainingSeconds - deltaSeconds +
          3 * (rounds : K) := by
  have hclock : ClockAt (Room.run sessions t played).1 (elapsed played) :=
    hstart.clockAt (fun part hpart => hstay part (hpart.trans hplayed))
      (fun deltaSeconds hmem => hticks deltaSeconds (hplayed.subset hmem))
  refine ⟨?_, hclock.ended, ?_⟩
  · intro hrunning
    obtain ⟨hplaying, hgame, hside, hswitch⟩ := hclock.running hrunning
    refine ⟨hplaying, hgame, ?_, ?_, hswitch⟩
    · rw [hside, sideInInterval]
      by_cases heven : Even ⌊elapsed played / 3⌋
      · simp [heven]
      · simp [heven, show PlayerSide.frost ≠ .flame by decide]
    · rw [hside, sideInInterval]
      by_cases heven : Even ⌊elapsed played / 3⌋
      · simp [heven, show PlayerSide.flame ≠ .frost by decide]
      · simp [heven]
  · intro deltaSeconds
    obtain ⟨rounds, hresult, -⟩ := Room.switchLoop_rounds
      (Room.run sessions t played).1.attackingSide
      ((Room.run sessions t played).1.attackRoleSwitchRemainingSeconds - deltaSeconds)
    exact ⟨rounds, hresult⟩

end Runs

/-- Two players have entered. -/
def twoEntered : Room ℚ SessionId × Unit :=
  Room.run liveSessions (Room.create 1, ()) [.enter (some 1), .enter (some 2)]

theorem gameStarts_twoEntered : GameStarts liveSessions twoEntered :=
  ⟨1, (), [.enter (some 1)], some 2, by decide +kernel, by decide +kernel, by decide +kernel⟩

/-- Six and a half seconds into a game. -/
def sixSeconds : List (RoomEvent ℚ SessionId Unit) :=
  [.tick 2, .applyPlayerInput 1 ⟨1000, 0, 0, false⟩, .tick (3 / 2), .enter (some 3), .tick 3]

theorem game_clock_six_seconds :
    (Room.run liveSessions twoEntered sixSeconds).1.gameState = .playing ∧
    (Room.run liveSessions twoEntered sixSeconds).1.attackingSide = .flame ∧
    (Room.run liveSessions twoEntered sixSeconds).1.attackRoleSwitchRemainingSeconds = 5 / 2 := by
  have hstay : BothStay liveSessions twoEntered sixSeconds := by
    intro part hpart
    have hparts : ∀ part ∈ sixSeconds.inits,
        (Room.run liveSessions twoEntered part).1.players.length = 2 := by decide +kernel
    exact hparts part ((List.mem_inits part sixSeconds).mpr hpart)
  have hticks : PositiveTicks sixSeconds := by
    intro deltaSeconds hmem
    simp only [sixSeconds, List.mem_cons, RoomEvent.tick.injEq, List.not_mem_nil, or_false,
      reduceCtorEq, false_or] at hmem
    rcases hmem with rfl | rfl | rfl <;> norm_num
  have helapsed : elapsed sixSeconds = 13 / 2 := by
    norm_num [elapsed, sixSeconds, tickSeconds]
  have hfloor : ⌊(13 / 2 : ℚ) / 3⌋ = 2 := by decide +kernel
  have hclock := (game_clock liveSessions twoEntered sixSeconds sixSeconds gameStarts_twoEntered
    hstay hticks (List.prefix_refl _)).1
  rw [helapsed, hfloor] at hclock
  obtain ⟨hplaying, -, hside, -, hswitch⟩ := hclock (by norm_num)
  exact ⟨hplaying, hside.mpr (by decide), by rw [hswitch]; norm_num⟩

end NetworkArena.Server
