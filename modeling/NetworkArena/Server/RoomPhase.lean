/-
# NetworkArena.Server.RoomPhase -- the phase invariant of a room

Nine pieces of state are kept together by a dozen functions. `Room.Consistent` says what holds
between any two operations. It has two halves: the players alone (`Roster`), which every function
that moves or updates players keeps, and the game (`Phase`), which only sees how many players there
are. With at most two players on distinct sides a game can be played exactly when there are two.
-/
import NetworkArena.Server.Room

namespace NetworkArena.Server

open NetworkArena.Shared

variable {K ρ ω : Type} [Field K] [LinearOrder K]

/-! ## What holds of a room -/

/-- A position in the arena, less the margin. -/
structure PlayerState.InArena (state : PlayerState K) : Prop where
  minX : -(285 / 100) ≤ state.positionX
  maxX : state.positionX ≤ 285 / 100
  minY : -(26 / 10) ≤ state.positionY
  maxY : state.positionY ≤ 26 / 10
  plane : state.positionZ = 0

/-- The players of a room. -/
structure Roster (players : List (SessionId × Player K ρ)) : Prop where
  few : players.length ≤ 2
  keys : (players.map (·.1)).Nodup
  sides : ∀ entry ∈ players, entry.2.state.side = .flame ∨ entry.2.state.side = .frost
  distinct : (players.map (·.2.state.side)).Nodup
  inArena : ∀ entry ∈ players, entry.2.state.InArena

/-- The game of a room with a given number of players. -/
structure Phase (r : Room K ρ) : Prop where
  known : r.gameState = .waiting ∨ r.gameState = .playing ∨ r.gameState = .finished
  waiting : r.gameState = .waiting ↔ r.players.length < 2
  attacking : r.gameState = .playing → r.attackingSide = .flame ∨ r.attackingSide = .frost
  gameTimer : r.gameState = .playing → 0 < r.gameRemainingSeconds ∧ r.gameRemainingSeconds ≤ 30
  switchTimer : r.gameState = .playing → 0 < r.attackRoleSwitchRemainingSeconds ∧
    r.attackRoleSwitchRemainingSeconds ≤ 3
  noWinnerYet : r.gameState = .playing → r.winningSide = .none
  idle : r.gameState ≠ .playing → r.attackingSide = .none ∧ r.gameRemainingSeconds = 0 ∧
    r.attackRoleSwitchRemainingSeconds = 0
  noScores : r.gameState = .waiting →
    r.sideScores.flame = 0 ∧ r.sideScores.frost = 0 ∧ r.winningSide = .none
  winner : r.gameState = .finished →
    (r.winningSide = .flame ↔ r.sideScores.frost < r.sideScores.flame) ∧
    (r.winningSide = .frost ↔ r.sideScores.flame < r.sideScores.frost) ∧
    (r.winningSide = .none ↔ r.sideScores.flame = r.sideScores.frost)

/-- What holds of a room between two operations. -/
structure Room.Consistent (r : Room K ρ) : Prop where
  roster : Roster r.players
  phase : Phase r

section Roster

variable {players : List (SessionId × Player K ρ)}

theorem roster_nil : Roster ([] : List (SessionId × Player K ρ)) :=
  ⟨Nat.zero_le 2, List.nodup_nil, nofun, List.nodup_nil, nofun⟩

/-- Changing the states of players, each within its side and the arena. -/
theorem Roster.map (h : Roster players) {f : SessionId × Player K ρ → SessionId × Player K ρ}
    (hkey : ∀ entry ∈ players, (f entry).1 = entry.1)
    (hside : ∀ entry ∈ players, (f entry).2.state.side = entry.2.state.side)
    (harena : ∀ entry ∈ players, (f entry).2.state.InArena) : Roster (players.map f) where
  few := by
    rw [List.length_map]
    exact h.few
  keys := by
    rw [List.map_map, List.map_congr_left (g := (·.1)) hkey]
    exact h.keys
  sides entry hentry := by
    obtain ⟨old, hold, rfl⟩ := List.mem_map.mp hentry
    rw [hside old hold]
    exact h.sides old hold
  distinct := by
    rw [List.map_map, List.map_congr_left (g := (·.2.state.side)) hside]
    exact h.distinct
  inArena entry hentry := by
    obtain ⟨old, hold, rfl⟩ := List.mem_map.mp hentry
    exact harena old hold

/-- Players can leave. -/
theorem Roster.filter (h : Roster players) (p : SessionId × Player K ρ → Bool) :
    Roster (players.filter p) where
  few := (List.length_filter_le p players).trans h.few
  keys := (List.filter_sublist.map _).nodup h.keys
  sides entry hentry := h.sides entry (List.mem_of_mem_filter hentry)
  distinct := (List.filter_sublist.map _).nodup h.distinct
  inArena entry hentry := h.inArena entry (List.mem_of_mem_filter hentry)

/-- A player can enter on a side that is free. -/
theorem Roster.append (h : Roster players) {entry : SessionId × Player K ρ}
    (hfew : players.length < 2) (hkey : ∀ other ∈ players, other.1 ≠ entry.1)
    (hside : entry.2.state.side = .flame ∨ entry.2.state.side = .frost)
    (hfree : ∀ other ∈ players, other.2.state.side ≠ entry.2.state.side)
    (harena : entry.2.state.InArena) : Roster (players ++ [entry]) where
  few := by
    rw [List.length_append, List.length_singleton]
    exact hfew
  keys := by
    rw [List.map_append, List.map_singleton, List.nodup_append]
    refine ⟨h.keys, List.nodup_singleton _, ?_⟩
    intro key hkeys other hother heq
    obtain ⟨old, hold, rfl⟩ := List.mem_map.mp hkeys
    exact hkey old hold (heq.trans (List.mem_singleton.mp hother))
  sides other hother := by
    rcases List.mem_append.mp hother with hother | hother
    · exact h.sides other hother
    · rw [List.mem_singleton.mp hother]
      exact hside
  distinct := by
    rw [List.map_append, List.map_singleton, List.nodup_append]
    refine ⟨h.distinct, List.nodup_singleton _, ?_⟩
    intro side hsides other hother heq
    obtain ⟨old, hold, rfl⟩ := List.mem_map.mp hsides
    exact hfree old hold (heq.trans (List.mem_singleton.mp hother))
  inArena other hother := by
    rcases List.mem_append.mp hother with hother | hother
    · exact h.inArena other hother
    · rw [List.mem_singleton.mp hother]
      exact harena

end Roster

/-! ## Whether a game can be played -/

section Ready

variable {r : Room K ρ}

omit [Field K] [LinearOrder K] in
theorem Room.hasPlayerOnSide_iff (r : Room K ρ) (side : PlayerSide) :
    r.hasPlayerOnSide side = true ↔ ∃ entry ∈ r.players, entry.2.state.side = side := by
  simp [Room.hasPlayerOnSide]

/-- A game needs both players. -/
theorem Roster.ready_iff (h : Roster r.players) :
    r.isAttackDefenseReady = true ↔ r.players.length = 2 := by
  rw [Room.isAttackDefenseReady, Bool.and_eq_true, Room.hasPlayerOnSide_iff,
    Room.hasPlayerOnSide_iff]
  have hfew := h.few
  have hsides := h.sides
  have hdistinct := h.distinct
  rcases hplayers : r.players with _ | ⟨first, _ | ⟨second, _ | ⟨third, rest⟩⟩⟩
  · simp
  · -- one player is on one side only
    simp only [List.mem_singleton, List.length_singleton, OfNat.one_ne_ofNat, iff_false]
    rintro ⟨⟨_, rfl, hflame⟩, _, rfl, hfrost⟩
    rw [hflame] at hfrost
    exact absurd hfrost (by decide)
  · -- two players on distinct sides are on both
    rw [hplayers] at hsides hdistinct
    simp only [List.map_cons, List.map_nil, List.nodup_cons, List.mem_singleton,
      List.not_mem_nil, not_false_eq_true, and_true, List.nodup_nil] at hdistinct
    simp only [List.length_cons, List.length_nil, Nat.reduceAdd, iff_true]
    rcases hsides first (by simp) with hfirst | hfirst <;>
      rcases hsides second (by simp) with hsecond | hsecond
    · exact absurd (hfirst.trans hsecond.symm) hdistinct
    · exact ⟨⟨first, by simp, hfirst⟩, second, by simp, hsecond⟩
    · exact ⟨⟨second, by simp, hsecond⟩, first, by simp, hfirst⟩
    · exact absurd (hfirst.trans hsecond.symm) hdistinct
  · rw [hplayers] at hfew
    simp only [List.length_cons] at hfew
    omega

theorem Roster.not_ready (h : Roster r.players) (hfew : r.players.length < 2) :
    r.isAttackDefenseReady = false := by
  cases hready : r.isAttackDefenseReady with
  | false => rfl
  | true =>
      have htwo := h.ready_iff.mp hready
      omega

end Ready

/-! ## What the operations do to one player -/

section Players

omit [Field K] in
theorem clamp_mem (value : K) {low high : K} (h : low ≤ high) :
    low ≤ clamp value low high ∧ clamp value low high ≤ high := by
  unfold clamp
  split
  · exact ⟨le_refl _, h⟩
  next hlow =>
  split
  · exact ⟨h, le_refl _⟩
  next hhigh => exact ⟨not_lt.mp hlow, not_lt.mp hhigh⟩

omit [LinearOrder K] in
@[simp] theorem resetPlayerPosition_side (state : PlayerState K) :
    (Room.resetPlayerPosition state).side = state.side := by
  unfold Room.resetPlayerPosition
  split
  · rfl
  · split <;> rfl

omit [LinearOrder K] in
@[simp] theorem startPlayer_side (state : PlayerState K) :
    (Room.startPlayer state).side = state.side :=
  resetPlayerPosition_side state

omit [LinearOrder K] in
@[simp] theorem endDash_side (state : PlayerState K) : (Room.endDash state).side = state.side := rfl

/-- What is left to walk is no business of the fields the movement does not touch. -/
theorem movePlayer_frame (simulationDeltaSeconds : K) (state : PlayerState K) :
    (Room.movePlayer simulationDeltaSeconds state).side = state.side ∧
      (Room.movePlayer simulationDeltaSeconds state).directionX = state.directionX ∧
      (Room.movePlayer simulationDeltaSeconds state).directionY = state.directionY ∧
      (Room.movePlayer simulationDeltaSeconds state).dashInputActive = state.dashInputActive := by
  unfold Room.movePlayer
  by_cases hdash : state.dashRemainingSeconds > 0
  · simp only [if_pos hdash]
    split <;> exact ⟨rfl, rfl, rfl, rfl⟩
  · simp only [if_neg hdash]
    split <;> exact ⟨rfl, rfl, rfl, rfl⟩

@[simp] theorem tickPlayer_side (simulationDeltaSeconds : K) (state : PlayerState K) :
    (Room.tickPlayer simulationDeltaSeconds state).side = state.side :=
  (movePlayer_frame simulationDeltaSeconds state).1

@[simp] theorem applyInput_side [HasSqrt K] (gameState : GamePlayState)
    (input : PlayerInputPayload) (state : PlayerState K) :
    (Room.applyInput gameState input state).side = state.side := by
  unfold Room.applyInput
  dsimp only
  repeat' split
  all_goals rfl

theorem PlayerState.InArena.of_eq {state state' : PlayerState K} (h : state.InArena)
    (hx : state'.positionX = state.positionX) (hy : state'.positionY = state.positionY)
    (hz : state'.positionZ = state.positionZ) : state'.InArena := by
  constructor
  · rw [hx]; exact h.minX
  · rw [hx]; exact h.maxX
  · rw [hy]; exact h.minY
  · rw [hy]; exact h.maxY
  · rw [hz]; exact h.plane

theorem applyInput_inArena [HasSqrt K] {gameState : GamePlayState} {input : PlayerInputPayload}
    {state : PlayerState K} (h : state.InArena) :
    (Room.applyInput gameState input state).InArena := by
  unfold Room.applyInput
  dsimp only
  repeat' split
  all_goals exact h.of_eq rfl rfl rfl

variable [IsStrictOrderedRing K]

/-- A spawn is in the arena. -/
theorem resetPlayerPosition_inArena {state : PlayerState K}
    (hside : state.side = .flame ∨ state.side = .frost) :
    (Room.resetPlayerPosition state).InArena := by
  unfold Room.resetPlayerPosition
  rcases hside with hside | hside
  · rw [if_pos hside]
    constructor <;> norm_num
  · rw [if_neg (by rw [hside]; decide), if_pos hside]
    constructor <;> norm_num

/-- A tick ends in the arena, wherever it started. -/
theorem tickPlayer_inArena (simulationDeltaSeconds : K) (state : PlayerState K) :
    (Room.tickPlayer simulationDeltaSeconds state).InArena := by
  have hx := clamp_mem (Room.movePlayer simulationDeltaSeconds state).positionX
    (show (arenaMinX + playerBoundaryMargin : K) ≤ arenaMaxX - playerBoundaryMargin by
      norm_num [arenaMinX, arenaMaxX, playerBoundaryMargin])
  have hy := clamp_mem (Room.movePlayer simulationDeltaSeconds state).positionY
    (show (arenaMinY + playerBoundaryMargin : K) ≤ arenaMaxY - playerBoundaryMargin by
      norm_num [arenaMinY, arenaMaxY, playerBoundaryMargin])
  have hminX : (arenaMinX + playerBoundaryMargin : K) = -(285 / 100) := by
    norm_num [arenaMinX, playerBoundaryMargin]
  have hmaxX : (arenaMaxX - playerBoundaryMargin : K) = 285 / 100 := by
    norm_num [arenaMaxX, playerBoundaryMargin]
  have hminY : (arenaMinY + playerBoundaryMargin : K) = -(26 / 10) := by
    norm_num [arenaMinY, playerBoundaryMargin]
  have hmaxY : (arenaMaxY - playerBoundaryMargin : K) = 26 / 10 := by
    norm_num [arenaMaxY, playerBoundaryMargin]
  rw [hminX, hmaxX] at hx
  rw [hminY, hmaxY] at hy
  unfold Room.tickPlayer
  dsimp only
  rw [hminX, hmaxX, hminY, hmaxY]
  exact ⟨hx.1, hx.2, hy.1, hy.2, rfl⟩

end Players

/-! ## What the operations do to the players -/

section Rosters

variable {r : Room K ρ}

theorem Roster.forEachPlayer (h : Roster r.players) {f : PlayerState K → PlayerState K}
    (hside : ∀ state, (f state).side = state.side)
    (harena : ∀ entry ∈ r.players, (f entry.2.state).InArena) :
    Roster (r.forEachPlayer f).players :=
  h.map (fun _ _ => rfl) (fun _ _ => hside _) harena

theorem Roster.updatePlayer (h : Roster r.players) {sessionId : SessionId}
    {f : PlayerState K → PlayerState K} (hside : ∀ state, (f state).side = state.side)
    (harena : ∀ entry ∈ r.players, (f entry.2.state).InArena) :
    Roster (r.updatePlayer sessionId f).players := by
  refine h.map ?_ ?_ ?_
  · intro entry _
    split <;> rfl
  · intro entry _
    split
    · exact hside _
    · rfl
  · intro entry hentry
    split
    · exact harena entry hentry
    · exact h.inArena entry hentry

omit [Field K] [LinearOrder K] in
theorem forEachPlayer_length (f : PlayerState K → PlayerState K) :
    (r.forEachPlayer f).players.length = r.players.length :=
  List.length_map _

omit [Field K] [LinearOrder K] in
theorem updatePlayer_length (sessionId : SessionId) (f : PlayerState K → PlayerState K) :
    (r.updatePlayer sessionId f).players.length = r.players.length :=
  List.length_map _

end Rosters

/-! ## Starting, stopping and finishing -/

theorem SideScores.winner_iff (scores : SideScores) :
    (scores.winner = .flame ↔ scores.frost < scores.flame) ∧
      (scores.winner = .frost ↔ scores.flame < scores.frost) ∧
      (scores.winner = .none ↔ scores.flame = scores.frost) := by
  unfold SideScores.winner
  split
  · simp only [true_iff, show PlayerSide.flame ≠ .frost by decide,
      show PlayerSide.flame ≠ .none by decide, false_iff]
    omega
  split
  · simp only [true_iff, show PlayerSide.frost ≠ .flame by decide,
      show PlayerSide.frost ≠ .none by decide, false_iff]
    omega
  · simp only [true_iff, show PlayerSide.none ≠ .flame by decide,
      show PlayerSide.none ≠ .frost by decide, false_iff]
    omega

section Games

variable {r : Room K ρ}

/-- **A game stops** when a player is missing. -/
theorem Roster.stopGame (h : Roster r.players) (hfew : r.players.length < 2) :
    r.stopGame.Consistent where
  roster := h
  phase := by
    constructor
    · exact Or.inl rfl
    · exact ⟨fun _ => hfew, fun _ => rfl⟩
    · nofun
    · nofun
    · nofun
    · nofun
    · exact fun _ => ⟨rfl, rfl, rfl⟩
    · exact fun _ => ⟨rfl, rfl, rfl⟩
    · nofun

/-- **A game finishes** with the winner its scores give. -/
theorem Roster.finishGame (h : Roster r.players) (htwo : r.players.length = 2) :
    r.finishGame.Consistent where
  roster := h.forEachPlayer endDash_side fun entry hentry =>
    (h.inArena entry hentry).of_eq rfl rfl rfl
  phase := by
    have hlength : r.finishGame.players.length = 2 := (List.length_map _).trans htwo
    constructor
    · exact Or.inr (Or.inr rfl)
    · rw [hlength]
      exact ⟨nofun, fun hlt => absurd hlt (lt_irrefl 2)⟩
    · nofun
    · nofun
    · nofun
    · nofun
    · exact fun _ => ⟨rfl, rfl, rfl⟩
    · nofun
    · exact fun _ => SideScores.winner_iff r.sideScores

variable [IsStrictOrderedRing K]

/-- **A game starts** with two players. -/
theorem Roster.startGame (h : Roster r.players) (htwo : r.players.length = 2) :
    r.startGame.Consistent where
  roster := h.forEachPlayer startPlayer_side fun entry hentry =>
    (resetPlayerPosition_inArena (h.sides entry hentry)).of_eq rfl rfl rfl
  phase := by
    have hlength : r.startGame.players.length = 2 := (List.length_map _).trans htwo
    constructor
    · exact Or.inr (Or.inl rfl)
    · rw [hlength]
      exact ⟨nofun, fun hlt => absurd hlt (lt_irrefl 2)⟩
    · exact fun _ => Or.inl rfl
    · intro _
      show (0 : K) < gameDurationSeconds ∧ gameDurationSeconds ≤ (30 : K)
      norm_num [gameDurationSeconds]
    · intro _
      show (0 : K) < attackRoleSwitchIntervalSeconds ∧ attackRoleSwitchIntervalSeconds ≤ (3 : K)
      norm_num [attackRoleSwitchIntervalSeconds]
    · exact fun _ => rfl
    · intro hidle
      exact absurd rfl hidle
    · nofun
    · nofun

end Games

/-! ## Entering -/

section Enter

/-- The id `GeneratePlayerId` will hand out next. -/
def Room.followingPlayerId (r : Room K ρ) : PlayerId :=
  if r.nextPlayerId = 4294967295 then 0 else r.nextPlayerId + 1

/-- The side a new player is given. -/
def Room.freeSide (r : Room K ρ) : PlayerSide :=
  if !r.hasPlayerOnSide .flame then .flame
  else if !r.hasPlayerOnSide .frost then .frost
  else .none

variable [SessionObject ρ]

/-- The room once a player is in `players_`, before a game may start. -/
def Room.withPlayer (r : Room K ρ) (session : ρ) : Room K ρ :=
  { r with
    nextPlayerId := r.followingPlayerId
    players := r.players ++ [(SessionObject.getId session,
      ⟨r.nextPlayerId, SessionObject.getId session, some session,
        Room.resetPlayerPosition { PlayerState.initial with side := r.freeSide }⟩)] }

/-- When `Enter` lets a session in. -/
structure Room.Admits (r : Room K ρ) (session : ρ) : Prop where
  id : SessionObject.getId session ≠ 0
  capacity : r.players.length < 2
  side : r.freeSide = .flame ∨ r.freeSide = .frost
  playerId : r.nextPlayerId ≠ 0
  new : ∀ entry ∈ r.players, entry.1 ≠ SessionObject.getId session

/-- Only the last check of `Enter` refuses this session: it is in the room already. -/
def Room.OnlyAlreadyIn (r : Room K ρ) (session : Option ρ) : Prop :=
  ∃ entering, session = some entering ∧ SessionObject.getId entering ≠ 0 ∧
    r.hasCapacity = true ∧ r.freeSide ≠ .none ∧ r.nextPlayerId ≠ 0 ∧
    ∃ entry ∈ r.players, entry.1 = SessionObject.getId entering

omit [Field K] [LinearOrder K] [SessionObject ρ] in
theorem Room.generatePlayerId_eq (r : Room K ρ) (h : r.nextPlayerId ≠ 0) :
    r.generatePlayerId = (some r.nextPlayerId, { r with nextPlayerId := r.followingPlayerId }) := by
  unfold Room.generatePlayerId Room.followingPlayerId
  rw [if_neg h]
  split <;> rfl

omit [LinearOrder K] in
/-- **What `Enter` can do**: it refuses, and uses up a player id if the session is in the room
already and nothing else is wrong, or it adds a player, and starts a game if the room was waiting
for this one. -/
theorem Room.enter_cases (r : Room K ρ) (session : Option ρ) :
    (∃ playerId, (playerId = r.nextPlayerId ∧ ¬ r.OnlyAlreadyIn session ∨
          r.OnlyAlreadyIn session ∧ playerId = r.followingPlayerId) ∧
        r.enter session = (none, { r with nextPlayerId := playerId })) ∨
      ∃ entering, session = some entering ∧ r.Admits entering ∧
        r.enter session = (some r.nextPlayerId,
          if r.gameState = .waiting ∧ (r.withPlayer entering).isAttackDefenseReady = true then
            (r.withPlayer entering).startGame
          else r.withPlayer entering) := by
  cases session with
  | none => exact Or.inl ⟨r.nextPlayerId, Or.inl ⟨rfl, nofun⟩, rfl⟩
  | some session =>
      unfold Room.enter
      dsimp only
      by_cases hid : SessionObject.getId session = 0
      · rw [if_pos hid]
        refine Or.inl ⟨r.nextPlayerId, Or.inl ⟨rfl, ?_⟩, rfl⟩
        rintro ⟨_, ⟨rfl⟩, hvalid, -⟩
        exact hvalid hid
      rw [if_neg hid]
      by_cases hcapacity : r.hasCapacity = true
      swap
      · rw [if_pos (by simpa using hcapacity)]
        exact Or.inl ⟨r.nextPlayerId, Or.inl ⟨rfl, fun h => hcapacity h.choose_spec.2.2.1⟩, rfl⟩
      rw [if_neg (by simp [hcapacity])]
      show (∃ playerId, _ ∧ (if r.freeSide = .none then _ else _) = _) ∨ ∃ entering, _ ∧ _ ∧
        (if r.freeSide = .none then _ else _) = _
      by_cases hside : r.freeSide = .none
      · rw [if_pos hside]
        exact Or.inl ⟨r.nextPlayerId, Or.inl ⟨rfl, fun h => h.choose_spec.2.2.2.1 hside⟩, rfl⟩
      rw [if_neg hside]
      by_cases hnext : r.nextPlayerId = 0
      · rw [Room.generatePlayerId, if_pos hnext]
        exact Or.inl ⟨r.nextPlayerId, Or.inl ⟨rfl, fun h => h.choose_spec.2.2.2.2.1 hnext⟩, rfl⟩
      rw [r.generatePlayerId_eq hnext]
      dsimp only
      by_cases hnew : (r.players.any fun entry => entry.1 = SessionObject.getId session) = true
      · rw [if_pos hnew]
        obtain ⟨entry, hentry, hkey⟩ := List.any_eq_true.mp hnew
        refine Or.inl ⟨_, Or.inr ⟨⟨session, rfl, hid, hcapacity, hside, hnext, ?_⟩, rfl⟩, rfl⟩
        exact ⟨entry, hentry, of_decide_eq_true hkey⟩
      rw [if_neg hnew]
      refine Or.inr ⟨session, rfl, ⟨hid, ?_, ?_, hnext, ?_⟩, ?_⟩
      · exact of_decide_eq_true hcapacity
      · revert hside
        unfold Room.freeSide
        split
        · exact fun _ => Or.inl rfl
        · split
          · exact fun _ => Or.inr rfl
          · intro hnone
            exact absurd rfl hnone
      · intro entry hentry heq
        exact hnew (List.any_eq_true.mpr ⟨entry, hentry, by simpa using heq⟩)
      · simp only [Player.create, if_neg hnext]
        rfl

variable {r : Room K ρ}

omit [Field K] [LinearOrder K] [SessionObject ρ] in
/-- The side given to a new player is free. -/
theorem Room.freeSide_free {side : PlayerSide} (h : r.freeSide = side) (hside : side ≠ .none) :
    ∀ entry ∈ r.players, entry.2.state.side ≠ side := by
  intro entry hentry heq
  have hon : r.hasPlayerOnSide side = true := (r.hasPlayerOnSide_iff side).mpr ⟨entry, hentry, heq⟩
  unfold Room.freeSide at h
  split at h
  · next hflame =>
      subst h
      rw [hon] at hflame
      cases hflame
  split at h
  · next hfrost =>
      subst h
      rw [hon] at hfrost
      cases hfrost
  · exact hside h.symm

variable [IsStrictOrderedRing K]

/-- A room with one more player has a roster. -/
theorem Room.Consistent.withPlayer (h : r.Consistent) {session : ρ} (hadmits : r.Admits session) :
    Roster (r.withPlayer session).players := by
  have hassigned : r.freeSide ≠ .none := by
    rcases hadmits.side with hside | hside <;> rw [hside] <;> decide
  refine h.roster.append hadmits.capacity hadmits.new ?_ ?_ ?_
  · rw [resetPlayerPosition_side]
    exact hadmits.side
  · intro other hother
    rw [resetPlayerPosition_side]
    exact Room.freeSide_free rfl hassigned other hother
  · exact resetPlayerPosition_inArena hadmits.side

/-- **Entering** keeps the room consistent. -/
theorem Room.Consistent.enter (h : r.Consistent) (session : Option ρ) :
    (r.enter session).2.Consistent := by
  rcases r.enter_cases session with ⟨playerId, -, hrefused⟩ | ⟨entering, -, hadmits, hentered⟩
  · rw [hrefused]
    exact ⟨h.roster, ⟨h.phase.known, h.phase.waiting, h.phase.attacking, h.phase.gameTimer,
      h.phase.switchTimer, h.phase.noWinnerYet, h.phase.idle, h.phase.noScores, h.phase.winner⟩⟩
  rw [hentered]
  have hwaiting : r.gameState = .waiting := h.phase.waiting.mpr hadmits.capacity
  have hroster := h.withPlayer hadmits
  have hlength : (r.withPlayer entering).players.length = r.players.length + 1 := by
    simp [Room.withPlayer]
  have hfew := hadmits.capacity
  dsimp only
  by_cases hready : (r.withPlayer entering).isAttackDefenseReady = true
  · rw [if_pos ⟨hwaiting, hready⟩]
    exact hroster.startGame (hroster.ready_iff.mp hready)
  · -- the new player is alone
    rw [if_neg (fun hboth => hready hboth.2)]
    have halone : (r.withPlayer entering).players.length < 2 := by
      have hnotTwo : (r.withPlayer entering).players.length ≠ 2 := fun htwo =>
        hready (hroster.ready_iff.mpr htwo)
      omega
    refine ⟨hroster, ?_⟩
    exact {
      known := h.phase.known
      waiting := ⟨fun _ => halone, fun _ => hwaiting⟩
      attacking := h.phase.attacking
      gameTimer := h.phase.gameTimer
      switchTimer := h.phase.switchTimer
      noWinnerYet := h.phase.noWinnerYet
      idle := h.phase.idle
      noScores := h.phase.noScores
      winner := h.phase.winner }

end Enter

/-! ## Leaving, and input -/

section Leave

variable {r : Room K ρ}

omit [LinearOrder K] in
theorem Room.leave_unknown {sessionId : SessionId} (h : ∀ entry ∈ r.players, entry.1 ≠ sessionId) :
    r.leave sessionId = r := by
  unfold Room.leave
  rw [if_neg]
  intro hany
  obtain ⟨entry, hentry, heq⟩ := List.any_eq_true.mp hany
  exact h entry hentry (by simpa using heq)

/-- **Leaving** keeps the room consistent, and stops the game if there was one. -/
theorem Room.Consistent.leave (h : r.Consistent) (sessionId : SessionId) :
    (r.leave sessionId).Consistent := by
  by_cases hknown : ∀ entry ∈ r.players, entry.1 ≠ sessionId
  · rw [Room.leave_unknown hknown]
    exact h
  obtain ⟨entry, hentry, heq⟩ : ∃ entry ∈ r.players, entry.1 = sessionId := by
    simpa using hknown
  have hany : (r.players.any fun entry => entry.1 = sessionId) = true :=
    List.any_eq_true.mpr ⟨entry, hentry, by simpa using heq⟩
  have hroster := h.roster.filter fun entry => entry.1 ≠ sessionId
  have hfewer : (r.players.filter fun entry => entry.1 ≠ sessionId).length < r.players.length :=
    List.length_filter_lt_length_iff_exists.mpr ⟨entry, hentry, by simpa using heq⟩
  have hfew := h.roster.few
  have hstopped : ∀ r' : Room K ρ,
      r'.players = r.players.filter (fun entry => entry.1 ≠ sessionId) →
      Roster r'.players ∧ r'.players.length < 2 := by
    intro r' hplayers
    rw [hplayers]
    exact ⟨hroster, by omega⟩
  unfold Room.leave
  rw [if_pos hany]
  obtain ⟨hroster', hfew'⟩ := hstopped { r with
    players := r.players.filter fun entry => entry.1 ≠ sessionId } rfl
  have hnotReady := hroster'.not_ready hfew'
  dsimp only
  rw [if_pos (by rw [hnotReady]; rfl)]
  exact hroster'.stopGame hfew'

/-- Changing the players' states is no business of the game. -/
theorem Phase.withPlayers (h : Phase r) {players : List (SessionId × Player K ρ)}
    (hlength : players.length = r.players.length) : Phase { r with players := players } where
  known := h.known
  waiting := by
    rw [hlength]
    exact h.waiting
  attacking := h.attacking
  gameTimer := h.gameTimer
  switchTimer := h.switchTimer
  noWinnerYet := h.noWinnerYet
  idle := h.idle
  noScores := h.noScores
  winner := h.winner

theorem Room.Consistent.applyPlayerInput [HasSqrt K] (h : r.Consistent) (sessionId : SessionId)
    (input : PlayerInputPayload) : (r.applyPlayerInput sessionId input).2.Consistent := by
  unfold Room.applyPlayerInput
  split
  · refine ⟨?_, h.phase.withPlayers (List.length_map _)⟩
    refine h.roster.updatePlayer (applyInput_side r.gameState input) ?_
    intro entry hentry
    exact applyInput_inArena (h.roster.inArena entry hentry)
  · exact h

end Leave

/-! ## A tick -/

section Tick

variable {r : Room K ρ}

/-- A respawn, as a collision makes it. -/
def respawn (state : PlayerState K) : PlayerState K := Room.resetPlayerPosition (Room.endDash state)

/-- The scores after a collision. -/
def Room.scoresAfter (r : Room K ρ) (timeInTick : K) : SideScores :=
  match r.getAttackingSideIndexAtTickTime timeInTick with
  | some index => r.sideScores.increment index
  | none => r.sideScores

/-- A collision changes the scores and the two players. -/
theorem Room.resolveCollision_eq (r : Room K ρ) (collision : Room.PlayerCollision K) :
    r.resolveCollision collision = { r with
      sideScores := r.scoresAfter collision.timeInTick
      players := ((r.updatePlayer collision.firstPlayer respawn).updatePlayer
        collision.secondPlayer respawn).players } := by
  unfold Room.resolveCollision Room.scoresAfter
  cases r.getAttackingSideIndexAtTickTime collision.timeInTick with
  | none => rfl
  | some index => rfl

/-- The collisions of a tick change the scores and the players. -/
theorem Room.resolveCollisions_eq (r : Room K ρ) (collisions : List (Room.PlayerCollision K)) :
    ∃ scores players, collisions.foldl Room.resolveCollision r =
      { r with sideScores := scores, players := players } := by
  induction collisions generalizing r with
  | nil => exact ⟨r.sideScores, r.players, rfl⟩
  | cons collision collisions ih =>
      rw [List.foldl_cons, Room.resolveCollision_eq]
      obtain ⟨scores, players, hrest⟩ := ih { r with
        sideScores := r.scoresAfter collision.timeInTick
        players := ((r.updatePlayer collision.firstPlayer respawn).updatePlayer
          collision.secondPlayer respawn).players }
      exact ⟨scores, players, hrest⟩

/-- The time of a tick that the game still has. -/
def Room.simulationDelta (r : Room K ρ) (deltaSeconds : K) : K :=
  min deltaSeconds r.gameRemainingSeconds

/-- The room after the movements and collisions of a tick, with its timers not yet moved. -/
def Room.simulate [HasSqrt K] (r : Room K ρ) (deltaSeconds : K) : Room K ρ :=
  (Room.findPlayerCollisions (r.simulationDelta deltaSeconds) r.players).foldl
    Room.resolveCollision (r.forEachPlayer (Room.tickPlayer (r.simulationDelta deltaSeconds)))

theorem Room.simulate_eq [HasSqrt K] (r : Room K ρ) (deltaSeconds : K) :
    ∃ scores players, r.simulate deltaSeconds =
      { r with sideScores := scores, players := players } :=
  Room.resolveCollisions_eq (r.forEachPlayer (Room.tickPlayer (r.simulationDelta deltaSeconds))) _

variable [IsStrictOrderedRing K]

omit [LinearOrder K] [IsStrictOrderedRing K] in
theorem respawn_side (state : PlayerState K) : (respawn state).side = state.side := by
  simp [respawn]

theorem Roster.respawn_inArena {players : List (SessionId × Player K ρ)} (h : Roster players)
    {entry : SessionId × Player K ρ} (hentry : entry ∈ players) :
    (respawn entry.2.state).InArena :=
  resetPlayerPosition_inArena (h.sides entry hentry)

/-- Resolving the collisions of a tick keeps the roster. -/
theorem Roster.resolveCollisions (h : Roster r.players)
    (collisions : List (Room.PlayerCollision K)) :
    Roster (collisions.foldl Room.resolveCollision r).players ∧
      (collisions.foldl Room.resolveCollision r).players.length = r.players.length := by
  induction collisions generalizing r with
  | nil => exact ⟨h, rfl⟩
  | cons collision collisions ih =>
      rw [List.foldl_cons]
      have hfirst : Roster (r.updatePlayer collision.firstPlayer respawn).players :=
        h.updatePlayer respawn_side fun entry hentry => h.respawn_inArena hentry
      have hboth : Roster (r.resolveCollision collision).players := by
        rw [Room.resolveCollision_eq]
        exact hfirst.updatePlayer respawn_side fun entry hentry => hfirst.respawn_inArena hentry
      have hlength : (r.resolveCollision collision).players.length = r.players.length := by
        rw [Room.resolveCollision_eq]
        exact (updatePlayer_length _ _).trans (updatePlayer_length _ _)
      obtain ⟨hroster, hsame⟩ := ih hboth
      exact ⟨hroster, hsame.trans hlength⟩

theorem Roster.simulate [HasSqrt K] (h : Roster r.players) (deltaSeconds : K) :
    Roster (r.simulate deltaSeconds).players ∧
      (r.simulate deltaSeconds).players.length = r.players.length := by
  have hmoved : Roster (r.forEachPlayer
      (Room.tickPlayer (r.simulationDelta deltaSeconds))).players :=
    h.forEachPlayer (tickPlayer_side _) fun entry _ => tickPlayer_inArena _ _
  obtain ⟨hroster, hlength⟩ := hmoved.resolveCollisions
    (Room.findPlayerCollisions (r.simulationDelta deltaSeconds) r.players)
  exact ⟨hroster, hlength.trans (forEachPlayer_length _)⟩

variable [FloorRing K]

/-- **The role switch loop** gives a side its time, at most three seconds of it. -/
theorem Room.switchLoop_spec (attackingSide : PlayerSide) (remaining : K)
    (hside : attackingSide = .flame ∨ attackingSide = .frost) (hremaining : remaining ≤ 3) :
    ((Room.switchLoop attackingSide remaining).1 = .flame ∨
      (Room.switchLoop attackingSide remaining).1 = .frost) ∧
      0 < (Room.switchLoop attackingSide remaining).2 ∧
      (Room.switchLoop attackingSide remaining).2 ≤ 3 := by
  fun_induction Room.switchLoop attackingSide remaining with
  | case1 side remaining h ih =>
      apply ih
      · rcases hside with rfl | rfl
        · exact Or.inr rfl
        · exact Or.inl rfl
      · rw [attackRoleSwitchIntervalSeconds]
        linarith
  | case2 side remaining h => exact ⟨hside, not_le.mp h, hremaining⟩

variable [HasSqrt K]

/-- **What a tick of a running game does.** -/
theorem Room.tick_playing {deltaSeconds : K} (hdelta : 0 < deltaSeconds)
    (hplaying : r.gameState = .playing) :
    r.tick deltaSeconds =
      if max 0 (r.gameRemainingSeconds - r.simulationDelta deltaSeconds) ≤ 0 then
        { r.simulate deltaSeconds with
          gameRemainingSeconds :=
            max 0 (r.gameRemainingSeconds - r.simulationDelta deltaSeconds) }.finishGame
      else
        { r.simulate deltaSeconds with
          gameRemainingSeconds :=
            max 0 (r.gameRemainingSeconds - r.simulationDelta deltaSeconds)
          }.updateAttackDefenseState (r.simulationDelta deltaSeconds) := by
  have hsame : (r.simulate deltaSeconds).gameRemainingSeconds = r.gameRemainingSeconds := by
    obtain ⟨scores, players, hsimulate⟩ := r.simulate_eq deltaSeconds
    rw [hsimulate]
  unfold Room.tick
  rw [if_neg (not_le.mpr hdelta), if_neg (fun h => h hplaying)]
  show (if max 0 ((r.simulate deltaSeconds).gameRemainingSeconds -
    r.simulationDelta deltaSeconds) ≤ 0 then { r.simulate deltaSeconds with
      gameRemainingSeconds := max 0 ((r.simulate deltaSeconds).gameRemainingSeconds -
        r.simulationDelta deltaSeconds) }.finishGame
    else { r.simulate deltaSeconds with
      gameRemainingSeconds := max 0 ((r.simulate deltaSeconds).gameRemainingSeconds -
        r.simulationDelta deltaSeconds) }.updateAttackDefenseState _) = _
  rw [hsame]
  rfl

theorem Room.tick_idle {deltaSeconds : K} (h : deltaSeconds ≤ 0 ∨ r.gameState ≠ .playing) :
    r.tick deltaSeconds = r := by
  unfold Room.tick
  by_cases hdelta : deltaSeconds ≤ 0
  · rw [if_pos hdelta]
  · rw [if_neg hdelta, if_pos (h.resolve_left hdelta)]

/-- **Ticking** keeps the room consistent. -/
theorem Room.Consistent.tick (h : r.Consistent) (deltaSeconds : K) :
    (r.tick deltaSeconds).Consistent := by
  by_cases hidle : deltaSeconds ≤ 0 ∨ r.gameState ≠ .playing
  · rw [Room.tick_idle hidle]
    exact h
  obtain ⟨hdelta, hplaying⟩ : 0 < deltaSeconds ∧ r.gameState = .playing := by
    simpa [not_or] using hidle
  rw [Room.tick_playing hdelta hplaying]
  obtain ⟨hroster, hlength⟩ := h.roster.simulate deltaSeconds
  have htwo : (r.simulate deltaSeconds).players.length = 2 := by
    have hnotFew : ¬ r.players.length < 2 := by
      intro hfew
      rw [h.phase.waiting.mpr hfew] at hplaying
      exact absurd hplaying (by decide)
    have hfew := h.roster.few
    omega
  obtain ⟨scores, players, hsimulate⟩ := r.simulate_eq deltaSeconds
  obtain ⟨htimer, htimer'⟩ := h.phase.gameTimer hplaying
  obtain ⟨hswitch, hswitch'⟩ := h.phase.switchTimer hplaying
  have hsim : 0 < r.simulationDelta deltaSeconds := lt_min hdelta htimer
  split
  · exact hroster.finishGame htwo
  next hmore =>
  rw [not_le] at hmore
  have hswitched := Room.switchLoop_spec r.attackingSide
    (r.attackRoleSwitchRemainingSeconds - r.simulationDelta deltaSeconds)
    (h.phase.attacking hplaying) (by linarith)
  rw [hsimulate] at hroster htwo ⊢
  obtain ⟨hattacking, hpositive, hbounded⟩ := hswitched
  refine ⟨hroster, ?_⟩
  exact {
    known := Or.inr (Or.inl hplaying)
    waiting := by
      show r.gameState = .waiting ↔ players.length < 2
      rw [show players.length = 2 from htwo, hplaying]
      exact ⟨nofun, fun hlt => absurd hlt (lt_irrefl 2)⟩
    attacking := fun _ => hattacking
    gameTimer := fun _ => ⟨hmore, max_le (by norm_num) (by linarith)⟩
    switchTimer := fun _ => ⟨hpositive, hbounded⟩
    noWinnerYet := fun _ => h.phase.noWinnerYet hplaying
    idle := fun hnot => absurd hplaying hnot
    noScores := fun hwaiting => absurd (hplaying.symm.trans hwaiting) (by decide)
    winner := fun hfinished => absurd (hplaying.symm.trans hfinished) (by decide) }

end Tick

/-! ## Broadcasting -/

section Broadcast

variable [SessionObject ρ] {r : Room K ρ}

omit [LinearOrder K] in
/-- **`Broadcast` does nothing to the room but let players leave.** -/
theorem Room.broadcast_induction {P : Room K ρ → Prop} (hleave : ∀ r id, P r → P (r.leave id))
    (sessions : Room.Sessions ρ ω) (type : MessageType) (payload : List UInt8) (w : ω) (h : P r) :
    P (r.broadcast sessions type payload w).1 := by
  have hall : ∀ (ids : List SessionId) (r : Room K ρ), P r → P (ids.foldl Room.leave r) := by
    intro ids
    induction ids with
    | nil => exact fun r h => h
    | cons id ids ih => exact fun r h => ih _ (hleave r id h)
  have hdrop : ∀ (failed : List ρ) (r : Room K ρ) (w : ω), P r →
      P (Room.dropFailed sessions failed r w).1 := by
    intro failed
    induction failed with
    | nil => exact fun r w h => h
    | cons session failed ih =>
        intro r w h
        exact ih _ _ (hall _ _ (hleave r _ h))
  exact hdrop _ _ _ (hall _ _ h)

end Broadcast

/-! ## Runs -/

section Runs

variable [IsStrictOrderedRing K] [FloorRing K] [HasSqrt K] [SessionObject ρ]

omit [IsStrictOrderedRing K] [FloorRing K] [HasSqrt K] [SessionObject ρ] in
/-- A fresh room is consistent. -/
theorem Room.consistent_create (id : RoomId) : (Room.create id : Room K ρ).Consistent where
  roster := roster_nil
  phase := {
    known := Or.inl rfl
    waiting := ⟨fun _ => Nat.zero_lt_two, fun _ => rfl⟩
    attacking := nofun
    gameTimer := nofun
    switchTimer := nofun
    noWinnerYet := nofun
    idle := fun _ => ⟨rfl, rfl, rfl⟩
    noScores := fun _ => ⟨rfl, rfl, rfl⟩
    winner := nofun }

/-- **Every operation** keeps the room consistent. -/
theorem Room.Consistent.step {t : Room K ρ × ω} (h : t.1.Consistent)
    (sessions : Room.Sessions ρ ω) (event : RoomEvent K ρ ω) :
    (Room.step sessions t event).1.Consistent := by
  cases event with
  | enter session => exact h.enter session
  | leave sessionId => exact h.leave sessionId
  | applyPlayerInput sessionId input => exact h.applyPlayerInput sessionId input
  | tick deltaSeconds => exact h.tick deltaSeconds
  | broadcast type payload =>
      exact Room.broadcast_induction (fun _ id h => h.leave id) sessions type payload t.2 h
  | sessions w => exact h

theorem Room.Consistent.run {t : Room K ρ × ω} (h : t.1.Consistent)
    (sessions : Room.Sessions ρ ω) (events : List (RoomEvent K ρ ω)) :
    (Room.run sessions t events).1.Consistent := by
  induction events generalizing t with
  | nil => exact h
  | cons event events ih => exact ih (h.step sessions event)

/-- **The phase invariant**, in every state a room can reach. -/
theorem room_phase_invariant (id : RoomId) (sessions : Room.Sessions ρ ω) (w : ω)
    (events : List (RoomEvent K ρ ω)) :
    (Room.run sessions (Room.create id, w) events).1.Consistent :=
  (Room.consistent_create id).run sessions events

end Runs

/-- Sessions that take every message. -/
def liveSessions : Room.Sessions SessionId Unit where
  lock _ _ := true
  send _ _ _ w := (true, w)
  stop _ w := ([], w)

/-- The phase invariant of a running game. -/
theorem room_phase_invariant_playing :
    (Room.run liveSessions ((Room.create 1 : Room ℚ SessionId), ())
      [.enter (some 1), .enter (some 2), .tick (1 / 4)]).1.gameState = .playing ∧
    (Room.run liveSessions ((Room.create 1 : Room ℚ SessionId), ())
      [.enter (some 1), .enter (some 2), .tick (1 / 4)]).1.Consistent :=
  ⟨by decide +kernel, room_phase_invariant 1 liveSessions () _⟩

end NetworkArena.Server
